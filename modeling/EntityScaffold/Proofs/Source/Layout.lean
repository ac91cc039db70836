import EntityScaffold.Source.Layout
import Mathlib.Data.List.DropRight

/-!
The layout of a text, piece by piece. What the layout makes of a piece that neither begins nor ends
with a blank does not depend on where the piece stands, and the layout of two such pieces, one
behind the other, is that of each. Nothing but blanks is ever left out.
-/
namespace EntityScaffold.Source
open Text

/-- The layout of a text, without the line feed that ends a file. -/
def laidOut (cs : List Char) : List Char := joinLines (tidyLines (linesOf cs))

def startsShown (cs : List Char) : Bool := cs.head?.any fun c => !isBlank c

def endsShown (cs : List Char) : Bool := cs.getLast?.any fun c => !isBlank c

theorem startsShown_append {a : List Char} (start : startsShown a = true) (b : List Char) :
    startsShown (a ++ b) = true := by
  cases a with
  | nil => cases start
  | cons c a => exact start

theorem endsShown_append (a : List Char) {b : List Char} (stop : endsShown b = true) :
    endsShown (a ++ b) = true := by
  unfold endsShown at *
  cases last : b.getLast? with
  | none =>
    rw [last] at stop
    cases stop
  | some c => rwa [List.getLast?_append, last, Option.some_or, ← last]

section lines

variable {a b last first : List Char} {init rest : List (List Char)}

theorem linesOf_ne_nil (cs : List Char) : linesOf cs ≠ [] := by
  cases cs with
  | nil => nofun
  | cons c cs =>
    rw [linesOf]
    split
    · nofun
    · split <;> nofun

theorem exists_first_line (cs : List Char) : ∃ first rest, linesOf cs = first :: rest :=
  List.exists_cons_of_ne_nil (linesOf_ne_nil cs)

theorem exists_last_line (cs : List Char) : ∃ init last, linesOf cs = init ++ [last] :=
  (List.eq_nil_or_concat' (linesOf cs)).resolve_left (linesOf_ne_nil cs)

theorem linesOf_cons {c : Char} {cs line : List Char} {lines : List (List Char)}
    (other : c ≠ '\n') (found : linesOf cs = line :: lines) :
    linesOf (c :: cs) = (c :: line) :: lines := by
  rw [linesOf, if_neg other, found]

theorem linesOf_append (left : linesOf a = init ++ [last]) (right : linesOf b = first :: rest) :
    linesOf (a ++ b) = init ++ (last ++ first) :: rest := by
  induction a generalizing init last with
  | nil =>
    cases init with
    | nil =>
      cases left
      exact right
    | cons line lines =>
      have short := congrArg List.length left
      simp [linesOf] at short
  | cons c a ih =>
    obtain ⟨line, lines, found⟩ := exists_first_line a
    by_cases feed : c = '\n'
    · subst feed
      rw [linesOf, if_pos rfl] at left
      cases init with
      | nil => exact absurd (List.cons.inj left).2 (linesOf_ne_nil a)
      | cons own init =>
        obtain ⟨rfl, others⟩ := List.cons.inj left
        rw [List.cons_append, linesOf, if_pos rfl, ih others]
        rfl
    · rw [linesOf_cons feed found] at left
      cases init with
      | nil =>
        obtain ⟨rfl, rfl⟩ := List.cons.inj left
        exact linesOf_cons feed (ih (show linesOf a = [] ++ [line] from found))
      | cons own init =>
        obtain ⟨rfl, rfl⟩ := List.cons.inj left
        exact linesOf_cons feed (ih (show linesOf a = (line :: init) ++ [last] from found))

theorem joinLines_cons (line : List Char) (filled : rest ≠ []) :
    joinLines (line :: rest) = line ++ '\n' :: joinLines rest := by
  cases rest with
  | nil => exact absurd rfl filled
  | cons next rest => rfl

theorem joinLines_split (init rest : List (List Char)) (last first : List Char) :
    joinLines (init ++ (last ++ first) :: rest) =
      joinLines (init ++ [last]) ++ joinLines (first :: rest) := by
  induction init with
  | nil =>
    cases rest with
    | nil => rfl
    | cons next rest => simp [joinLines]
  | cons line init ih =>
    rw [List.cons_append, joinLines_cons line (by simp), ih, List.cons_append,
      joinLines_cons line (by simp), List.append_assoc, List.cons_append]

theorem singleBlanks_append (filled : last ≠ []) (afterBlank : Bool) :
    singleBlanks afterBlank (init ++ last :: rest) =
      singleBlanks afterBlank init ++ last :: singleBlanks false rest := by
  induction init generalizing afterBlank with
  | nil => simp [singleBlanks, filled]
  | cons line init ih =>
    rw [List.cons_append, singleBlanks, singleBlanks, ih, ih]
    split
    · split <;> rfl
    · rfl

/-- What the layout keeps of the lines before a line that is not empty. -/
def leading (lines : List (List Char)) : List (List Char) :=
  (singleBlanks false (lines.map trimRight)).dropWhile (·.isEmpty)

def trailing (lines : List (List Char)) : List (List Char) :=
  ((singleBlanks false (lines.map trimRight)).reverse.dropWhile (·.isEmpty)).reverse

theorem dropWhile_append_cons {lines : List (List Char)} (filled : last ≠ []) :
    (lines ++ last :: rest).dropWhile (·.isEmpty) =
      lines.dropWhile (·.isEmpty) ++ last :: rest := by
  have kept : (last :: rest).dropWhile (·.isEmpty) = last :: rest := by
    rw [List.dropWhile_cons, if_neg (by simpa using filled)]
  rw [List.dropWhile_append, kept]
  split
  · rename_i empty
    rw [List.isEmpty_iff.1 empty, List.nil_append]
  · rfl

theorem tidyLines_split (filled : trimRight last ≠ []) :
    tidyLines (init ++ last :: rest) = leading init ++ trimRight last :: trailing rest := by
  rw [tidyLines, List.map_append, List.map_cons, singleBlanks_append filled, dropEmptyEnds,
    dropWhile_append_cons filled, List.reverse_append, List.reverse_cons, List.append_assoc,
    List.singleton_append, dropWhile_append_cons filled]
  simp [leading, trailing]

end lines

section pieces

variable {a b last first : List Char} {init rest : List (List Char)}

theorem trimRight_ne_nil_of_startsShown (start : startsShown b = true) : trimRight b ≠ [] := by
  cases b with
  | nil => cases start
  | cons c b =>
    intro empty
    rw [trimRight, List.reverse_eq_nil_iff, List.dropWhile_eq_nil_iff] at empty
    have blank := empty c (by simp)
    simp [startsShown, blank] at start

theorem trimRight_of_endsShown (stop : endsShown a = true) : trimRight a = a := by
  cases a using List.reverseRecOn with
  | nil => cases stop
  | append_singleton a c =>
    have shown : isBlank c = false := by simpa [endsShown] using stop
    simp [trimRight, shown]

theorem trimRight_append (stop : endsShown a = true ∨ trimRight b ≠ []) :
    trimRight (a ++ b) = a ++ trimRight b := by
  rw [trimRight, List.reverse_append, List.dropWhile_append]
  split
  · rename_i empty
    have nothing : trimRight b = [] := by rw [trimRight, List.isEmpty_iff.1 empty, List.reverse_nil]
    have stopped := stop.resolve_right (fun filled => filled nothing)
    rw [nothing, List.append_nil]
    exact trimRight_of_endsShown stopped
  · rw [List.reverse_append, List.reverse_reverse]
    rfl

theorem startsShown_first (start : startsShown b = true) (found : linesOf b = first :: rest) :
    startsShown first = true := by
  cases b with
  | nil => cases start
  | cons c b =>
    have shown : isBlank c = false := by simpa [startsShown] using start
    obtain ⟨line, lines, later⟩ := exists_first_line b
    have other : c ≠ '\n' := by
      rintro rfl
      cases shown
    rw [linesOf_cons other later] at found
    obtain ⟨rfl, _⟩ := List.cons.inj found
    simp [startsShown, shown]

theorem endsShown_last (stop : endsShown a = true) (found : linesOf a = init ++ [last]) :
    endsShown last = true := by
  cases a using List.reverseRecOn with
  | nil => cases stop
  | append_singleton a c =>
    have shown : isBlank c = false := by simpa [endsShown] using stop
    obtain ⟨before, line, earlier⟩ := exists_last_line a
    have other : c ≠ '\n' := by
      rintro rfl
      cases shown
    rw [linesOf_append earlier (linesOf_cons other rfl)] at found
    obtain ⟨_, same⟩ := List.append_inj' found rfl
    cases same
    simp [endsShown, shown]

/-- The layout of a text in two parts, where the line that both share is not empty. -/
theorem laidOut_split (left : linesOf a = init ++ [last]) (right : linesOf b = first :: rest)
    (stop : endsShown last = true ∨ trimRight first ≠ []) :
    laidOut (a ++ b) =
      joinLines (leading init ++ [last]) ++ joinLines (trimRight first :: trailing rest) := by
  have trimmed := trimRight_append stop
  have filled : trimRight (last ++ first) ≠ [] := by
    rw [trimmed]
    rcases stop with stop | filled
    · exact List.append_ne_nil_of_left_ne_nil (by rintro rfl; cases stop) _
    · exact List.append_ne_nil_of_right_ne_nil _ filled
  rw [laidOut, linesOf_append left right, tidyLines_split filled, trimmed, joinLines_split]

theorem laidOut_of_first (right : linesOf b = first :: rest) (filled : trimRight first ≠ []) :
    laidOut b = joinLines (trimRight first :: trailing rest) := by
  rw [laidOut, right, ← List.nil_append (first :: rest), tidyLines_split filled]
  rfl

theorem laidOut_of_last (left : linesOf a = init ++ [last]) (stop : endsShown last = true) :
    laidOut a = joinLines (leading init ++ [last]) := by
  have whole := trimRight_of_endsShown stop
  have filled : trimRight last ≠ [] := by
    rw [whole]
    rintro rfl
    cases stop
  rw [laidOut, left, tidyLines_split filled, whole]
  rfl

theorem laidOut_append_of_startsShown (a : List Char) (start : startsShown b = true) :
    ∃ before, laidOut (a ++ b) = before ++ laidOut b := by
  obtain ⟨init, last, left⟩ := exists_last_line a
  obtain ⟨first, rest, right⟩ := exists_first_line b
  have filled := trimRight_ne_nil_of_startsShown (startsShown_first start right)
  exact ⟨_, by rw [laidOut_split left right (.inr filled), laidOut_of_first right filled]⟩

theorem laidOut_append_of_endsShown (stop : endsShown a = true) (b : List Char) :
    ∃ behind, laidOut (a ++ b) = laidOut a ++ behind := by
  obtain ⟨init, last, left⟩ := exists_last_line a
  obtain ⟨first, rest, right⟩ := exists_first_line b
  have stopped := endsShown_last stop left
  exact ⟨_, by rw [laidOut_split left right (.inl stopped), laidOut_of_last left stopped]⟩

theorem laidOut_append (stop : endsShown a = true) (start : startsShown b = true) :
    laidOut (a ++ b) = laidOut a ++ laidOut b := by
  obtain ⟨init, last, left⟩ := exists_last_line a
  obtain ⟨first, rest, right⟩ := exists_first_line b
  have stopped := endsShown_last stop left
  have filled := trimRight_ne_nil_of_startsShown (startsShown_first start right)
  rw [laidOut_split left right (.inl stopped), laidOut_of_last left stopped,
    laidOut_of_first right filled]

end pieces

theorem laidOut_inside {b : List Char} (start : startsShown b = true) (stop : endsShown b = true)
    (a c : List Char) :
    ∃ before behind, laidOut (a ++ b ++ c) = before ++ laidOut b ++ behind := by
  obtain ⟨before, first⟩ := laidOut_append_of_startsShown a (startsShown_append start c)
  obtain ⟨behind, second⟩ := laidOut_append_of_endsShown stop c
  exact ⟨before, behind, by rw [List.append_assoc, first, second, List.append_assoc]⟩

theorem laidOut_line {cs : List Char} (feedless : '\n' ∉ cs) (stop : endsShown cs = true) :
    laidOut cs = cs := by
  have single : linesOf cs = [] ++ [cs] := by
    clear stop
    induction cs with
    | nil => rfl
    | cons c cs ih =>
      have later := ih (List.not_mem_of_not_mem_cons feedless)
      exact linesOf_cons (Ne.symm (List.ne_of_not_mem_cons feedless)) later
  rw [laidOut_of_last single stop]
  rfl

section shown

/-! The characters of a text that are not blank. -/

def shown (cs : List Char) : List Char := cs.filter fun c => !isBlank c

theorem shown_append (a b : List Char) : shown (a ++ b) = shown a ++ shown b :=
  List.filter_append ..

theorem shown_linesOf (cs : List Char) : (linesOf cs).flatMap shown = shown cs := by
  induction cs with
  | nil => rfl
  | cons c cs ih =>
    by_cases feed : c = '\n'
    · subst feed
      rw [linesOf, if_pos rfl, List.flatMap_cons, ih]
      rfl
    · obtain ⟨line, lines, found⟩ := exists_first_line cs
      rw [found, List.flatMap_cons] at ih
      rw [linesOf_cons feed found, List.flatMap_cons, ← List.singleton_append, shown_append,
        List.append_assoc, ih]
      exact (shown_append [c] cs).symm

theorem shown_joinLines (lines : List (List Char)) :
    shown (joinLines lines) = lines.flatMap shown := by
  induction lines with
  | nil => rfl
  | cons line rest ih =>
    cases rest with
    | nil => simp [joinLines]
    | cons next rest =>
      rw [joinLines_cons line (by simp), shown_append, List.flatMap_cons, ← ih]
      rfl

theorem filter_dropWhile {α : Type} (p : α → Bool) (as : List α) :
    (as.dropWhile p).filter (fun a => !p a) = as.filter fun a => !p a := by
  induction as with
  | nil => rfl
  | cons a as ih =>
    rw [List.dropWhile_cons]
    split
    · rename_i dropped
      rw [ih, List.filter_cons_of_neg (by simp [dropped])]
    · rfl

theorem filter_dropWhile_reverse {α : Type} (p : α → Bool) (as : List α) :
    (as.reverse.dropWhile p).reverse.filter (fun a => !p a) = as.filter fun a => !p a := by
  rw [List.filter_reverse, filter_dropWhile, List.filter_reverse, List.reverse_reverse]

theorem shown_trimRight (cs : List Char) : shown (trimRight cs) = shown cs :=
  filter_dropWhile_reverse isBlank cs

theorem filter_singleBlanks (afterBlank : Bool) (lines : List (List Char)) :
    (singleBlanks afterBlank lines).filter (fun line => !line.isEmpty) =
      lines.filter fun line => !line.isEmpty := by
  induction lines generalizing afterBlank with
  | nil => rfl
  | cons line rest ih =>
    rw [singleBlanks]
    split
    · rename_i empty
      rw [List.filter_cons_of_neg (by simp [empty])]
      split
      · exact ih true
      · rw [List.filter_cons_of_neg (by simp [empty]), ih true]
    · rename_i filled
      rw [List.filter_cons_of_pos (by simpa using filled),
        List.filter_cons_of_pos (by simpa using filled), ih false]

theorem filter_dropEmptyEnds (lines : List (List Char)) :
    (dropEmptyEnds lines).filter (fun line => !line.isEmpty) =
      lines.filter fun line => !line.isEmpty := by
  rw [dropEmptyEnds, filter_dropWhile_reverse, filter_dropWhile]

theorem filter_tidyLines (lines : List (List Char)) :
    (tidyLines lines).filter (fun line => !line.isEmpty) =
      (lines.map trimRight).filter fun line => !line.isEmpty := by
  rw [tidyLines, filter_dropEmptyEnds, filter_singleBlanks]

theorem flatMap_shown_filter (lines : List (List Char)) :
    (lines.filter fun line => !line.isEmpty).flatMap shown = lines.flatMap shown := by
  induction lines with
  | nil => rfl
  | cons line rest ih =>
    cases line with
    | nil => exact ih
    | cons c line =>
      rw [List.filter_cons_of_pos rfl, List.flatMap_cons, List.flatMap_cons, ih]

/-- The layout leaves out nothing but blanks. -/
theorem shown_laidOut (cs : List Char) : shown (laidOut cs) = shown cs := by
  rw [laidOut, shown_joinLines, ← flatMap_shown_filter, filter_tidyLines, flatMap_shown_filter,
    List.flatMap_map]
  simp only [shown_trimRight]
  exact shown_linesOf cs

end shown

end EntityScaffold.Source
