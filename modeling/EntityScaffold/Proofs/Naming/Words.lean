import EntityScaffold.Naming.Words
import EntityScaffold.Proofs.Text.Letters
import Mathlib.Data.List.TakeWhile
import Mathlib.Tactic.MkIffOfInductiveProp

/-!
Words of names. A name is one word, or a word, a separator and a name. What the words are joined to
has no separator in it, since no letter has a form that is one, and begins with its own capital
form.
-/
namespace EntityScaffold.Naming
open Text

def Unseparated (cs : List Char) : Prop := ∀ c ∈ cs, isSeparator c = false

instance (cs : List Char) : Decidable (Unseparated cs) := List.decidableBAll _ cs

/-- A text that begins with its own capital form, if with anything. -/
def Upright (cs : List Char) : Prop := ∀ c ∈ cs.head?, upperChar c = [c]

section separators

variable {c : Char} {cs ds : List Char}

theorem Unseparated.append (first : Unseparated cs) (second : Unseparated ds) :
    Unseparated (cs ++ ds) := by
  intro c member
  rcases List.mem_append.1 member with own | other
  · exact first c own
  · exact second c other

theorem Unseparated.unscored (plain : Unseparated cs) : '_' ∉ cs :=
  fun member => absurd (plain '_' member) (by decide)

theorem filter_unscored (unscored : '_' ∉ cs) : cs.filter (· != '_') = cs := by
  apply List.filter_eq_self.2
  intro c member
  rw [bne_iff_ne]
  intro score
  exact unscored (score ▸ member)

def separatorSpans : List Span := [
  ⟨9, 13, 1⟩, ⟨28, 32, 1⟩, ⟨45, 45, 1⟩, ⟨95, 95, 1⟩, ⟨0x85, 0x85, 1⟩, ⟨0xA0, 0xA0, 1⟩,
  ⟨0x1680, 0x1680, 1⟩, ⟨0x2000, 0x200A, 1⟩, ⟨0x2028, 0x2029, 1⟩, ⟨0x202F, 0x202F, 1⟩,
  ⟨0x205F, 0x205F, 1⟩, ⟨0x3000, 0x3000, 1⟩]

theorem isSeparator_iff (c : Char) : isSeparator c = true ↔ inSpans separatorSpans c = true := by
  have score : c = '_' ↔ c.toNat = 95 := Char.toNat_inj.symm
  have hyphen : c = '-' ↔ c.toNat = 45 := Char.toNat_inj.symm
  simp only [isSeparator, isBlank, Bool.or_eq_true, beq_iff_eq, score, hyphen, Bool.and_eq_true,
    decide_eq_true_eq, inSpans_iff, separatorSpans, List.mem_cons, List.not_mem_nil, or_false,
    exists_eq_or_imp, exists_eq_left, Span.contains_iff, Nat.mod_one, and_true]
  omega

theorem not_separator {a : List Span} (apart : Apart a separatorSpans)
    (held : inSpans a c = true) : isSeparator c = false := by
  rw [Bool.eq_false_iff, Ne, isSeparator_iff, outside_of_apart apart held]
  exact Bool.false_ne_true

@[mk_iff] structure SeparatorTables : Prop where
  uppercase_plain : Apart uppercaseSpans separatorSpans
  capitals_plain : Apart (upperShifts.map Shift.image) separatorSpans
  smalls_plain : Apart (lowerShifts.map Shift.image) separatorSpans
  separators_small : Apart separatorSpans (lowerShifts.map (·.span))
  expansions_plain : ∀ e ∈ upperExpansions, ∀ n ∈ e.2, isSeparator (Char.ofNat n) = false
  partners_plain : ∀ p ∈ foldPartners, isSeparator (Char.ofNat p.1) = false

instance : Decidable SeparatorTables := decidable_of_iff' _ separatorTables_iff

theorem separatorTables : SeparatorTables := by decide +kernel

@[mk_iff] structure AsciiSeparators (c : Char) : Prop where
  upper_separator : isSeparator c.toUpper = isSeparator c
  lower_separator : isSeparator c.toLower = isSeparator c
  upper_blank : isBlank c.toUpper = isBlank c
  lower_blank : isBlank c.toLower = isBlank c
  blank_uncased : isBlank c = true → c.toUpper = c.toLower
  token_plain : c.isLower = true ∨ c.isDigit = true → isSeparator c = false ∧ c.toLower = c

instance (c : Char) : Decidable (AsciiSeparators c) := decidable_of_iff' _ (asciiSeparators_iff c)

theorem ascii_separators (ascii : c.toNat < 128) : AsciiSeparators c :=
  ascii_check (by decide +kernel) ascii

theorem isUpper_unseparated (upper : isUpper c = true) : isSeparator c = false :=
  not_separator separatorTables.uppercase_plain upper

theorem upperChar_unseparated (plain : isSeparator c = false) : Unseparated (upperChar c) := by
  intro d shown
  rcases upperChar_cases c with own | ⟨e, member, form⟩ | ⟨u, form, image⟩
  · rw [own, List.mem_singleton] at shown
    exact shown ▸ plain
  · rw [form] at shown
    obtain ⟨n, inForm, rfl⟩ := List.mem_map.1 shown
    exact separatorTables.expansions_plain e member n inForm
  · rw [form, List.mem_singleton] at shown
    exact shown ▸ not_separator separatorTables.capitals_plain image

theorem lowerLetter_unseparated (plain : isSeparator c = false) :
    isSeparator (lowerLetter c) = false := by
  rcases lowerLetter_cases c with own | image
  · rwa [own]
  · exact not_separator separatorTables.smalls_plain image

theorem lowerChars_unseparated (plain : Unseparated cs) : Unseparated (lowerChars cs) :=
  lowerChars_forall (by decide) (by decide) fun c member => lowerLetter_unseparated (plain c member)

theorem foldCase_separator (separates : isSeparator c = true) : foldCase c = c := by
  have held := (isSeparator_iff c).1 separates
  have small := lowerLetter_of_outside (outside_of_apart separatorTables.separators_small held)
  have alone : foldPartners.lookup c.toNat = none := by
    apply List.lookup_eq_none_iff.2
    intro p known
    rw [bne_iff_ne]
    intro same
    have other := separatorTables.partners_plain p known
    rw [← same, Char.ofNat_toNat, separates] at other
    cases other
  rw [foldCase, small, alone]

end separators

section words

variable {c : Char} {a b w : List Char}

/-- A name is a word, or a word with a separator and a name behind it. -/
theorem word_induction {P : List Char → Prop} (word : ∀ w, Unseparated w → P w)
    (behind : ∀ w c rest, Unseparated w → isSeparator c = true → P rest → P (w ++ c :: rest))
    (name : List Char) : P name := by
  induction length : name.length using Nat.strongRecOn generalizing name with
  | _ n ih =>
    have whole := List.takeWhile_append_dropWhile (p := fun c => !isSeparator c) (l := name)
    have first : Unseparated (name.takeWhile fun c => !isSeparator c) := fun c member => by
      simpa using List.mem_takeWhile_imp member
    cases other : name.dropWhile fun c => !isSeparator c with
    | nil =>
      rw [other, List.append_nil] at whole
      exact word name (whole ▸ first)
    | cons c rest =>
      have separates : isSeparator c = true := by
        simpa [other] using List.head_dropWhile_not (fun c => !isSeparator c) (l := name)
          (by simp [other])
      rw [other] at whole
      rw [← whole]
      have shorter : rest.length < n := by
        rw [← length, ← whole]
        simp
        omega
      exact behind _ c rest first separates (ih rest.length shorter rest rfl)

theorem words_append (separates : isSeparator c = true) (a b : List Char) :
    words (a ++ c :: b) = words a ++ words b := by
  rw [words, List.splitOnP_append_cons a b separates, List.filter_append]
  rfl

theorem words_of_unseparated (plain : Unseparated w) :
    words w = if w = [] then [] else [w] := by
  rw [words, List.splitOnP_eq_singleton plain]
  cases w <;> simp

theorem joinWords_append (separates : isSeparator c = true) (a b : List Char) :
    joinWords (a ++ c :: b) = joinWords a ++ joinWords b := by
  rw [joinWords, words_append separates, List.flatMap_append]
  rfl

theorem joinWords_of_unseparated (plain : Unseparated w) : joinWords w = capitalizeRest w := by
  rw [joinWords, words_of_unseparated plain]
  cases w with
  | nil => rfl
  | cons c rest => simp

theorem capitalizeRest_unseparated (plain : Unseparated w) : Unseparated (capitalizeRest w) := by
  cases w with
  | nil => exact plain
  | cons c rest =>
    obtain ⟨own, later⟩ := List.forall_mem_cons.1 plain
    exact (upperChar_unseparated own).append (lowerChars_unseparated later)

theorem capitalizeRest_ascii (ascii : Ascii (c :: w)) :
    capitalizeRest (c :: w) = c.toUpper :: w.map Char.toLower := by
  obtain ⟨own, later⟩ := List.forall_mem_cons.1 ascii
  rw [capitalizeRest, upperChar_ascii own, lowerChars_ascii later]
  rfl

theorem joinWords_unseparated (name : List Char) : Unseparated (joinWords name) := by
  induction name using word_induction with
  | word w plain =>
    rw [joinWords_of_unseparated plain]
    exact capitalizeRest_unseparated plain
  | behind w c rest plain separates later =>
    rw [joinWords_append separates, joinWords_of_unseparated plain]
    exact (capitalizeRest_unseparated plain).append later

theorem capitalizeRest_upright (w : List Char) : Upright (capitalizeRest w) := by
  cases w with
  | nil => exact fun c first => by cases first
  | cons c rest =>
    obtain ⟨h, more, form, own⟩ := upperChar_begins c
    rw [capitalizeRest, form]
    exact fun d first => Option.some.inj first ▸ own

theorem Upright.append (first : Upright a) (second : Upright b) : Upright (a ++ b) := by
  cases a with
  | nil => exact second
  | cons c rest => exact first

theorem joinWords_upright (name : List Char) : Upright (joinWords name) := by
  induction name using word_induction with
  | word w plain =>
    rw [joinWords_of_unseparated plain]
    exact capitalizeRest_upright w
  | behind w c rest plain separates later =>
    rw [joinWords_append separates, joinWords_of_unseparated plain]
    exact (capitalizeRest_upright w).append later

end words

end EntityScaffold.Naming
