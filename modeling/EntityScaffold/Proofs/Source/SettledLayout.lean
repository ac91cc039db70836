import EntityScaffold.Proofs.Source.Layout
import EntityScaffold.Proofs.Text.Trimming
import Mathlib.Data.List.Basic
import Mathlib.Data.List.Chain

/-!
The layout of a whole file. Its lines are the lines of the text that are not blank, without the
blanks behind them, and between some of them a single empty line. Lines of this form stay as they
are when they are laid out, so a file that has its layout keeps it.
-/
namespace EntityScaffold.Source
open Text

section splitting

theorem linesOf_eq_splitOn (cs : List Char) : linesOf cs = cs.splitOn '\n' := by
  induction cs with
  | nil => rw [List.splitOn_nil, linesOf]
  | cons c cs ih =>
    obtain ⟨line, lines, found⟩ := exists_first_line cs
    rw [found] at ih
    rw [List.splitOn, List.splitOnP_cons_eq_if_modifyHead, ← List.splitOn, ← ih]
    by_cases feed : c = '\n'
    · subst feed
      rw [linesOf, if_pos rfl, if_pos (by rfl), found]
    · rw [linesOf_cons feed found, if_neg (by simpa using feed)]
      rfl

theorem joinLines_eq_intercalate (lines : List (List Char)) :
    joinLines lines = ['\n'].intercalate lines := by
  induction lines with
  | nil => rfl
  | cons line rest ih =>
    cases rest with
    | nil => simp [joinLines]
    | cons next rest =>
      rw [joinLines_cons line (by simp), ih, List.intercalate_cons_cons]
      simp

theorem splitOn_joinLines {lines : List (List Char)} (some : lines ≠ [])
    (feedless : ∀ line ∈ lines, '\n' ∉ line) : (joinLines lines).splitOn '\n' = lines := by
  rw [joinLines_eq_intercalate]
  exact List.splitOn_intercalate '\n' feedless some

theorem feedless_linesOf (cs : List Char) : ∀ line ∈ linesOf cs, '\n' ∉ line := by
  induction cs with
  | nil => simp [linesOf]
  | cons c cs ih =>
    by_cases feed : c = '\n'
    · subst feed
      simpa [linesOf] using ih
    · obtain ⟨line, lines, found⟩ := exists_first_line cs
      rw [found, List.forall_mem_cons] at ih
      rw [linesOf_cons feed found, List.forall_mem_cons, List.mem_cons, not_or]
      exact ⟨⟨Ne.symm feed, ih.1⟩, ih.2⟩

end splitting

theorem filter_map_trimRight (lines : List (List Char)) :
    (lines.map trimRight).filter (fun line => !line.isEmpty) =
      (lines.filter fun line => !allBlank line).map trimRight := by
  rw [List.filter_map]
  congr 1
  apply List.filter_congr
  intro line _
  rw [Function.comp_apply, ← allBlank_eq_isEmpty (trimRight_trimRight line), Bool.eq_iff_iff]
  simp only [Bool.not_eq_true', Bool.eq_false_iff, ne_eq, ← trimRight_eq_nil_iff,
    trimRight_trimRight]

section settled

structure Settled (lines : List (List Char)) : Prop where
  trimmed : ∀ line ∈ lines, trimRight line = line
  spaced : lines.IsChain fun a b => a ≠ [] ∨ b ≠ []
  opens : lines.head? ≠ some []
  closes : lines.getLast? ≠ some []

variable {lines : List (List Char)}

theorem singleBlanks_sublist (afterBlank : Bool) (lines : List (List Char)) :
    (singleBlanks afterBlank lines).Sublist lines := by
  induction lines generalizing afterBlank with
  | nil => exact .slnil
  | cons line rest ih =>
    rw [singleBlanks]
    split
    · split
      · exact (ih true).cons line
      · exact (ih true).cons_cons line
    · exact (ih false).cons_cons line

theorem singleBlanks_spaced (afterBlank : Bool) (lines : List (List Char)) :
    (singleBlanks afterBlank lines).IsChain (fun a b => a ≠ [] ∨ b ≠ []) ∧
      (afterBlank = true → (singleBlanks afterBlank lines).head? ≠ some []) := by
  induction lines generalizing afterBlank with
  | nil => simp [singleBlanks]
  | cons line rest ih =>
    rw [singleBlanks]
    split
    · obtain ⟨spaced, fresh⟩ := ih true
      split
      · exact ⟨spaced, fun _ => fresh rfl⟩
      · rename_i first
        constructor
        · apply List.isChain_cons.2
          constructor
          · intro next found
            right
            rintro rfl
            exact fresh rfl found
          · exact spaced
        · intro after
          exact absurd after first
    · rename_i filled
      have other : line ≠ [] := by simpa using filled
      constructor
      · apply List.isChain_cons.2
        exact ⟨fun _ _ => .inl other, (ih false).1⟩
      · intro _ same
        exact other (Option.some.inj same)

theorem singleBlanks_of_spaced {afterBlank : Bool}
    (spaced : lines.IsChain fun a b => a ≠ [] ∨ b ≠ [])
    (fresh : afterBlank = true → lines.head? ≠ some []) :
    singleBlanks afterBlank lines = lines := by
  induction lines generalizing afterBlank with
  | nil => rfl
  | cons line rest ih =>
    obtain ⟨next, others⟩ := List.isChain_cons.1 spaced
    rw [singleBlanks]
    split
    · rename_i empty
      have none : line = [] := List.isEmpty_iff.1 empty
      have first : afterBlank ≠ true := by
        intro after
        exact fresh after (congrArg some none)
      rw [if_neg first, ih others]
      intro _ found
      rcases next [] found with filled | filled
      · exact filled none
      · exact filled rfl
    · rw [ih others]
      intro after
      cases after

theorem dropEmptyEnds_eq (lines : List (List Char)) :
    dropEmptyEnds lines = (lines.dropWhile List.isEmpty).rdropWhile List.isEmpty := rfl

theorem dropEmptyEnds_isInfix (lines : List (List Char)) : dropEmptyEnds lines <:+: lines := by
  rw [dropEmptyEnds_eq]
  have back := List.rdropWhile_prefix List.isEmpty (lines.dropWhile List.isEmpty)
  have front := List.dropWhile_suffix (l := lines) List.isEmpty
  exact back.isInfix.trans front.isInfix

theorem dropEmptyEnds_opens (lines : List (List Char)) :
    (dropEmptyEnds lines).head? ≠ some [] := by
  intro first
  rw [dropEmptyEnds_eq] at first
  obtain ⟨rest, same⟩ := List.rdropWhile_prefix List.isEmpty (lines.dropWhile List.isEmpty)
  have dropped := List.head?_dropWhile_not List.isEmpty lines
  rw [← same, List.head?_append, first] at dropped
  cases dropped

theorem dropEmptyEnds_closes (lines : List (List Char)) :
    (dropEmptyEnds lines).getLast? ≠ some [] := by
  intro last
  rw [dropEmptyEnds_eq] at last
  obtain ⟨init, same⟩ := List.getLast?_eq_some_iff.1 last
  have kept := List.rdropWhile_last_not List.isEmpty (lines.dropWhile List.isEmpty)
  simp [same] at kept

theorem dropEmptyEnds_eq_self (opens : lines.head? ≠ some []) (closes : lines.getLast? ≠ some []) :
    dropEmptyEnds lines = lines := by
  have front : lines.dropWhile List.isEmpty = lines := by
    cases lines with
    | nil => rfl
    | cons line rest =>
      rw [List.dropWhile_cons, if_neg]
      simpa using opens
  have back : lines.rdropWhile List.isEmpty = lines := by
    apply List.rdropWhile_eq_self_iff.2
    intro filled empty
    rw [List.getLast?_eq_some_getLast filled] at closes
    exact closes (congrArg some (List.isEmpty_iff.1 empty))
  rw [dropEmptyEnds_eq, front, back]

theorem tidyLines_sublist (lines : List (List Char)) :
    (tidyLines lines).Sublist (lines.map trimRight) :=
  (dropEmptyEnds_isInfix _).sublist.trans (singleBlanks_sublist ..)

theorem settled_tidyLines (lines : List (List Char)) : Settled (tidyLines lines) where
  trimmed := by
    intro line member
    obtain ⟨own, _, rfl⟩ := List.mem_map.1 ((tidyLines_sublist lines).mem member)
    exact trimRight_trimRight own
  spaced := List.IsChain.infix (singleBlanks_spaced false _).1 (dropEmptyEnds_isInfix _)
  opens := dropEmptyEnds_opens _
  closes := dropEmptyEnds_closes _

theorem feedless_tidyLines (feedless : ∀ line ∈ lines, '\n' ∉ line) :
    ∀ line ∈ tidyLines lines, '\n' ∉ line := by
  intro line member feed
  obtain ⟨own, listed, rfl⟩ := List.mem_map.1 ((tidyLines_sublist lines).mem member)
  exact feedless own listed ((trimRight_isPrefix own).subset feed)

theorem Settled.tidyLines_eq (settled : Settled lines) : tidyLines lines = lines := by
  have whole : lines.map trimRight = lines := by
    rw [List.map_congr_left settled.trimmed, List.map_id']
  have single : singleBlanks false lines = lines :=
    singleBlanks_of_spaced settled.spaced (fun after => nomatch after)
  rw [tidyLines, whole, single, dropEmptyEnds_eq_self settled.opens settled.closes]

theorem Settled.exists_last (settled : Settled lines) (some : lines ≠ []) :
    ∃ init last, lines = init ++ [last] ∧ last ≠ [] := by
  obtain ⟨init, last, rfl⟩ := (List.eq_nil_or_concat' lines).resolve_left some
  refine ⟨init, last, rfl, ?_⟩
  rintro rfl
  exact settled.closes (by simp)

theorem Settled.tidyLines_file (settled : Settled lines) (feedless : ∀ line ∈ lines, '\n' ∉ line) :
    tidyLines (linesOf (joinLines lines ++ ['\n'])) = lines := by
  by_cases some : lines = []
  · subst some
    rfl
  · have body : linesOf (joinLines lines) = lines := by
      rw [linesOf_eq_splitOn, splitOn_joinLines some feedless]
    obtain ⟨init, last, rfl, filled⟩ := settled.exists_last some
    have trimmed : trimRight last = last := settled.trimmed last (by simp)
    have kept : trimRight last ≠ [] := by rwa [trimmed]
    have own := settled.tidyLines_eq
    have feed : linesOf ['\n'] = [[], []] := rfl
    rw [linesOf_append body feed, List.append_nil, tidyLines_split kept]
    rw [tidyLines_split kept] at own
    exact own

end settled

section files

/-- What stands before the line feed that ends a file: no line ends in a blank, no two blank lines
are neighbours, and no blank line stands at an end, unless there is nothing at all. -/
structure WellLaidOut (body : List Char) : Prop where
  trimmed : ∀ line ∈ body.splitOn '\n', ∀ c ∈ line.getLast?, isBlank c = false
  spaced : (body.splitOn '\n').IsChain fun a b => allBlank a = false ∨ allBlank b = false
  opens : body = [] ∨ ∀ line ∈ (body.splitOn '\n').head?, allBlank line = false
  closes : body.getLast? ≠ some '\n'

variable {lines : List (List Char)}

theorem Settled.wellLaidOut (settled : Settled lines) (feedless : ∀ line ∈ lines, '\n' ∉ line) :
    WellLaidOut (joinLines lines) := by
  by_cases some : lines = []
  · subst some
    constructor <;> simp [joinLines, List.splitOn_nil]
  · have shown (line : List Char) (member : line ∈ lines) (filled : line ≠ []) :
        allBlank line = false := by
      rw [allBlank_eq_isEmpty (settled.trimmed line member)]
      simpa using filled
    constructor
    case trimmed =>
      rw [splitOn_joinLines some feedless]
      intro line member
      exact last_of_trimmed (settled.trimmed line member)
    case spaced =>
      rw [splitOn_joinLines some feedless]
      apply settled.spaced.imp_of_mem_imp
      intro a b inA inB apart
      exact apart.imp (shown a inA) (shown b inB)
    case opens =>
      right
      rw [splitOn_joinLines some feedless]
      intro line first
      apply shown line (List.mem_of_mem_head? first)
      rintro rfl
      exact settled.opens first
    case closes =>
      obtain ⟨init, last, rfl, filled⟩ := settled.exists_last some
      have ends := joinLines_split init [] [] last
      rw [List.nil_append] at ends
      rw [ends, joinLines, List.getLast?_append_of_ne_nil _ filled]
      intro feed
      exact feedless last (by simp) (List.mem_of_getLast? feed)

theorem lines_kept (cs : List Char) :
    ((laidOut cs).splitOn '\n').filter (fun line => !allBlank line) =
      ((cs.splitOn '\n').filter fun line => !allBlank line).map trimRight := by
  have settled := settled_tidyLines (linesOf cs)
  have feedless := feedless_tidyLines (feedless_linesOf cs)
  have own : ((laidOut cs).splitOn '\n').filter (fun line => !allBlank line) =
      (tidyLines (linesOf cs)).filter fun line => !line.isEmpty := by
    by_cases some : tidyLines (linesOf cs) = []
    · rw [laidOut, some]
      rfl
    · rw [laidOut, splitOn_joinLines some feedless]
      apply List.filter_congr
      intro line member
      rw [allBlank_eq_isEmpty (settled.trimmed line member)]
  rw [own, filter_tidyLines, filter_map_trimRight, linesOf_eq_splitOn]

theorem tidyChars_tidyChars (cs : List Char) : tidyChars (tidyChars cs) = tidyChars cs := by
  have settled := settled_tidyLines (linesOf cs)
  have feedless := feedless_tidyLines (feedless_linesOf cs)
  rw [tidyChars, tidyChars, settled.tidyLines_file feedless]

/-- A text that is laid out keeps its lines that are not blank, has the layout of a file, and stays
as it is when it is laid out again. -/
theorem tidy_settles (text : String) :
    (∃ body, (tidy text).toList = body ++ ['\n'] ∧ WellLaidOut body ∧
      (body.splitOn '\n').filter (fun line => !allBlank line) =
        ((text.toList.splitOn '\n').filter fun line => !allBlank line).map
          (List.rdropWhile isBlank)) ∧
    tidy (tidy text) = tidy text := by
  have settled := settled_tidyLines (linesOf text.toList)
  have feedless := feedless_tidyLines (feedless_linesOf text.toList)
  constructor
  · refine ⟨laidOut text.toList, ?_, settled.wellLaidOut feedless, lines_kept text.toList⟩
    rw [tidy, String.toList_ofList]
    rfl
  · rw [tidy, tidy, String.toList_ofList, tidyChars_tidyChars]

example : tidy "a \t\n\n \x0b\n b\u2003\n\n" = "a\n\n b\n" := by decide

example : tidy " \n\n" = "\n" := by decide

end files

end EntityScaffold.Source
