import EntityScaffold.Proofs.Text.Spans
import EntityScaffold.Text.Case
import Mathlib.Tactic.MkIffOfInductiveProp

/-!
Letters and their forms. A capital is its own capital form, what a capital form begins with is one
too, and a small form is its own: the spans of the case tables that would say otherwise have no code
point in common. Forms of ASCII characters are those of the ASCII letters, and small letters are
all that folding takes to ASCII from elsewhere.
-/
namespace EntityScaffold.Text

def Span.single (n : Nat) : Span := ⟨n, n, 1⟩

def smallSpans : List Span :=
  upperShifts.map (·.span) ++ upperExpansions.map fun e => Span.single e.1

def expansionHeads : List Span := upperExpansions.flatMap fun e => (e.2.take 1).map Span.single

/-- Characters that are their own small form, each by itself. -/
def AllSmall (cs : List Char) : Prop := ∀ c ∈ cs, lowerLetter c = c

instance (cs : List Char) : Decidable (AllSmall cs) := List.decidableBAll _ cs

/-- Characters whose small form does not depend on where they stand. -/
def Steady (cs : List Char) : Prop := ∀ c ∈ cs, c ≠ '\u03A3' ∧ c ≠ '\u0130'

def Ascii (cs : List Char) : Prop := ∀ c ∈ cs, c.toNat < 128

instance (cs : List Char) : Decidable (Ascii cs) := List.decidableBAll _ cs

@[mk_iff] structure CaseTables : Prop where
  lower_valid : ∀ s ∈ lowerShifts, s.image.valid
  upper_valid : ∀ s ∈ upperShifts, s.image.valid
  expansions_valid : ∀ e ∈ upperExpansions, e.2 ≠ [] ∧ ∀ n ∈ e.2, n < 0xD800
  uppercase_apart : Apart uppercaseSpans smallSpans
  capitals_apart : Apart (upperShifts.map Shift.image) smallSpans
  heads_apart : Apart expansionHeads smallSpans
  smalls_apart : Apart (lowerShifts.map Shift.image) (lowerShifts.map (·.span))
  dotted : AllSmall ['i', '\u0307'] ∧ lowerLetter '\u0130' ≠ '\u0130'
  sigma : AllSmall ['\u03C2', '\u03C3'] ∧ lowerLetter '\u03A3' ≠ '\u03A3'
  upper_far : ∀ s ∈ upperShifts.drop 1, 128 ≤ s.span.first
  lower_far : ∀ s ∈ lowerShifts.drop 1, 128 ≤ s.span.first
  expansions_far : ∀ e ∈ upperExpansions, 128 ≤ e.1
  lowercase_far : ∀ s ∈ lowercaseSpans.drop 1, 128 ≤ s.first
  uppercase_far : ∀ s ∈ uppercaseSpans.drop 1, 128 ≤ s.first
  smalls_far : ∀ s ∈ lowerShifts.map Shift.image, 128 ≤ s.first ∨ (97 ≤ s.first ∧ s.last ≤ 122)
  partners_far : ∀ p ∈ foldPartners, 128 ≤ (Char.ofNat p.2).toNat ∨ (Char.ofNat p.2).isLower

instance : Decidable CaseTables := decidable_of_iff' _ caseTables_iff

theorem caseTables : CaseTables := by decide +kernel

/-- The ASCII case functions on a character, and what the case tables make of it. -/
@[mk_iff] structure AsciiForms (c : Char) : Prop where
  upper_ascii : c.toUpper.toNat < 128
  lower_ascii : c.toLower.toNat < 128
  upper_upper : c.toUpper.toUpper = c.toUpper
  lower_lower : c.toLower.toLower = c.toLower
  lower_upper : c.toUpper.toLower = c.toLower
  upper_lower : c.toLower.toUpper = c.toUpper
  upper_large : c.toUpper.isLower = false
  lower_small : c.toLower.isUpper = false
  either : c = c.toLower ∨ c = c.toUpper
  letter : c.toUpper = c.toLower ∨ c.toLower.isLower = true
  small : c.isLower = true → c.toLower = c ∧ c.isUpper = false ∧ c.toUpper.isUpper = true
  between : 97 ≤ c.toNat → c.toNat ≤ 122 → c.isLower = true
  shifted_upper : (match shifted? (upperShifts.take 1) c.toNat with
    | some n => [Char.ofNat n] | none => [c]) = [c.toUpper]
  shifted_lower : (match shifted? (lowerShifts.take 1) c.toNat with
    | some n => Char.ofNat n | none => c) = c.toLower
  partner : (match foldPartners.lookup c.toLower.toNat with
    | some n => Char.ofNat n | none => c.toLower) = c.toLower
  in_lowercase : inSpans (lowercaseSpans.take 1) c = c.isLower
  in_uppercase : inSpans (uppercaseSpans.take 1) c = c.isUpper

instance (c : Char) : Decidable (AsciiForms c) := decidable_of_iff' _ (asciiForms_iff c)

theorem ascii_check {P : Char → Prop} (each : ∀ n < 128, P (Char.ofNat n)) {c : Char}
    (ascii : c.toNat < 128) : P c := by
  simpa using each c.toNat ascii

theorem ascii_forms {c : Char} (ascii : c.toNat < 128) : AsciiForms c :=
  ascii_check (by decide +kernel) ascii

section forms

variable {c : Char}

theorem lowerLetter_cases (c : Char) :
    lowerLetter c = c ∨ inSpans (lowerShifts.map Shift.image) (lowerLetter c) = true := by
  unfold lowerLetter
  split
  · rename_i n found
    exact .inr (image_of_shifted caseTables.lower_valid found)
  · exact .inl rfl

theorem upperChar_cases (c : Char) :
    upperChar c = [c] ∨
      (∃ e ∈ upperExpansions, upperChar c = e.2.map Char.ofNat) ∨
      ∃ d, upperChar c = [d] ∧ inSpans (upperShifts.map Shift.image) d = true := by
  unfold upperChar
  split
  · rename_i ns found
    obtain ⟨before, after, listed, _⟩ := List.lookup_eq_some_iff.1 found
    exact .inr (.inl ⟨(c.toNat, ns), by simp [listed], rfl⟩)
  · split
    · rename_i n found
      exact .inr (.inr ⟨_, rfl, image_of_shifted caseTables.upper_valid found⟩)
    · exact .inl rfl

theorem lowerLetter_of_outside (outside : inSpans (lowerShifts.map (·.span)) c = false) :
    lowerLetter c = c := by
  rw [lowerLetter, unshifted outside]

theorem upperChar_of_outside (outside : inSpans smallSpans c = false) : upperChar c = [c] := by
  rw [inSpans, smallSpans, List.any_append, Bool.or_eq_false_iff] at outside
  have unexpanded : upperExpansions.lookup c.toNat = none := by
    apply List.lookup_eq_none_iff.2
    intro e member
    rw [bne_iff_ne]
    intro same
    have other := List.any_eq_false.1 outside.2 (Span.single e.1)
      (List.mem_map.2 ⟨e, member, rfl⟩)
    simp [Span.single, Span.contains, same] at other
  rw [upperChar, unexpanded, unshifted outside.1]

theorem upperChar_of_isUpper (capital : isUpper c = true) : upperChar c = [c] :=
  upperChar_of_outside (outside_of_apart caseTables.uppercase_apart capital)

theorem inSpans_expanded {e : Nat × List Nat} (member : e ∈ upperExpansions) {n : Nat}
    (inForm : n ∈ e.2) {table : List Span} (listed : Span.single n ∈ table) :
    inSpans table (Char.ofNat n) = true := by
  have code : (Char.ofNat n).toNat = n := by
    rw [Char.ofNat, dif_pos (.inl ((caseTables.expansions_valid e member).2 n inForm))]
    rfl
  exact (inSpans_iff ..).2 ⟨_, listed, by simp [Span.single, Span.contains, code]⟩

theorem upperChar_begins (c : Char) :
    ∃ h rest, upperChar c = h :: rest ∧ upperChar h = [h] := by
  rcases upperChar_cases c with own | ⟨e, member, form⟩ | ⟨d, form, image⟩
  · exact ⟨c, [], own, own⟩
  · obtain ⟨n, ns, whole⟩ :=
      List.exists_cons_of_ne_nil (caseTables.expansions_valid e member).1
    have listed : Span.single n ∈ expansionHeads :=
      List.mem_flatMap.2 ⟨e, member, by simp [whole]⟩
    have head := inSpans_expanded member (by simp [whole]) listed
    rw [whole] at form
    exact ⟨_, _, form, upperChar_of_outside (outside_of_apart caseTables.heads_apart head)⟩
  · exact ⟨d, [], form, upperChar_of_outside (outside_of_apart caseTables.capitals_apart image)⟩

@[simp] theorem lowerLetter_lowerLetter (c : Char) :
    lowerLetter (lowerLetter c) = lowerLetter c := by
  rcases lowerLetter_cases c with own | image
  · rw [own, own]
  · exact lowerLetter_of_outside (outside_of_apart caseTables.smalls_apart image)

theorem lowerChars_forall {P : Char → Prop} (dotted : P 'i' ∧ P '\u0307')
    (sigma : P '\u03C2' ∧ P '\u03C3') {cs : List Char} (letters : ∀ c ∈ cs, P (lowerLetter c)) :
    ∀ d ∈ lowerChars cs, P d := by
  unfold lowerChars
  generalize [] = before
  induction cs generalizing before with
  | nil => exact fun d member => by cases member
  | cons c rest ih =>
    obtain ⟨own, later⟩ := List.forall_mem_cons.1 letters
    rw [lowerFrom, List.forall_mem_append]
    refine ⟨?_, ih later (c :: before)⟩
    split
    · unfold lowerSigma
      split
      · simpa using sigma.1
      · simpa using sigma.2
    · unfold lowerChar
      split
      · simpa using dotted
      · simpa using own

theorem lowerChars_small (cs : List Char) : AllSmall (lowerChars cs) := by
  have dotted := List.forall_mem_cons.1 caseTables.dotted.1
  have sigma := List.forall_mem_cons.1 caseTables.sigma.1
  exact lowerChars_forall (P := fun c => lowerLetter c = c) ⟨dotted.1, dotted.2 _ (by simp)⟩
    ⟨sigma.1, sigma.2 _ (by simp)⟩ fun c _ => lowerLetter_lowerLetter c

theorem lowerFrom_steady {cs : List Char} (steady : Steady cs) (before : List Char) :
    lowerFrom before cs = cs.map lowerLetter := by
  induction cs generalizing before with
  | nil => rfl
  | cons c rest ih =>
    obtain ⟨own, later⟩ := List.forall_mem_cons.1 steady
    rw [lowerFrom, if_neg own.1, lowerChar, if_neg own.2, ih later]
    rfl

theorem lowerChars_steady {cs : List Char} (steady : Steady cs) :
    lowerChars cs = cs.map lowerLetter := lowerFrom_steady steady []

theorem AllSmall.steady {cs : List Char} (small : AllSmall cs) : Steady cs := by
  intro c member
  have own := small c member
  constructor
  · intro sigma
    rw [sigma] at own
    exact caseTables.sigma.2 own
  · intro dotted
    rw [dotted] at own
    exact caseTables.dotted.2 own

end forms

section ascii

variable {c : Char}

/-- Only the first shift of a table takes ASCII characters anywhere. -/
theorem shifted_ascii {table : List Shift} (far : ∀ s ∈ table.drop 1, 128 ≤ s.span.first)
    (ascii : c.toNat < 128) : shifted? table c.toNat = shifted? (table.take 1) c.toNat := by
  have outside : (table.drop 1).find? (·.span.contains c.toNat) = none := by
    apply List.find?_eq_none.2
    intro s member held
    have low := ((Span.contains_iff ..).1 held).1
    exact absurd ascii (Nat.not_lt.2 (Nat.le_trans (far s member) low))
  rw [shifted?, shifted?]
  conv => lhs; rw [← List.take_append_drop 1 table, List.find?_append, outside, Option.or_none]

theorem upperChar_ascii (ascii : c.toNat < 128) : upperChar c = [c.toUpper] := by
  have unexpanded : upperExpansions.lookup c.toNat = none := by
    apply List.lookup_eq_none_iff.2
    intro e member
    rw [bne_iff_ne]
    intro same
    exact absurd ascii (Nat.not_lt.2 (same ▸ caseTables.expansions_far e member))
  rw [upperChar, unexpanded, shifted_ascii caseTables.upper_far ascii]
  exact (ascii_forms ascii).shifted_upper

theorem lowerLetter_ascii (ascii : c.toNat < 128) : lowerLetter c = c.toLower := by
  rw [lowerLetter, shifted_ascii caseTables.lower_far ascii]
  exact (ascii_forms ascii).shifted_lower

theorem foldCase_ascii (ascii : c.toNat < 128) : foldCase c = c.toLower := by
  rw [foldCase, lowerLetter_ascii ascii]
  exact (ascii_forms ascii).partner

theorem inSpans_ascii {table : List Span} (far : ∀ s ∈ table.drop 1, 128 ≤ s.first)
    (ascii : c.toNat < 128) : inSpans table c = inSpans (table.take 1) c := by
  have outside : (table.drop 1).any (·.contains c.toNat) = false := by
    apply List.any_eq_false.2
    intro s member held
    have low := ((Span.contains_iff ..).1 held).1
    exact absurd ascii (Nat.not_lt.2 (Nat.le_trans (far s member) low))
  rw [inSpans, inSpans]
  conv => lhs; rw [← List.take_append_drop 1 table, List.any_append, outside, Bool.or_false]

theorem isLower_ascii (ascii : c.toNat < 128) : isLower c = c.isLower := by
  rw [isLower, inSpans_ascii caseTables.lowercase_far ascii]
  exact (ascii_forms ascii).in_lowercase

theorem isUpper_ascii (ascii : c.toNat < 128) : isUpper c = c.isUpper := by
  rw [isUpper, inSpans_ascii caseTables.uppercase_far ascii]
  exact (ascii_forms ascii).in_uppercase

theorem Ascii.steady {cs : List Char} (ascii : Ascii cs) : Steady cs := by
  intro c member
  have small := ascii c member
  constructor
  · rintro rfl
    exact absurd small (by decide)
  · rintro rfl
    exact absurd small (by decide)

theorem lowerChars_ascii {cs : List Char} (ascii : Ascii cs) :
    lowerChars cs = cs.map Char.toLower := by
  rw [lowerChars_steady ascii.steady]
  exact List.map_congr_left fun c member => lowerLetter_ascii (ascii c member)

theorem upperChars_ascii {cs : List Char} (ascii : Ascii cs) :
    upperChars cs = cs.map Char.toUpper := by
  rw [upperChars, List.flatMap_def, List.map_congr_left fun c member =>
    upperChar_ascii (ascii c member), ← List.flatMap_def, ← List.map_eq_flatMap]

theorem small_ascii (small : c.isLower = true) : c.toNat < 128 := by
  have below := UInt32.le_iff_toNat_le.1 (of_decide_eq_true (Bool.and_eq_true_iff.1 small).2)
  exact Nat.lt_of_le_of_lt below (by decide)

theorem small_forms (small : c.isLower = true) : AsciiForms c := ascii_forms (small_ascii small)

theorem foldCase_of_still (ascii : (foldCase c).toNat < 128)
    (still : (foldCase c).isLower = false) : foldCase c = c := by
  unfold foldCase at ascii still ⊢
  dsimp only at ascii still ⊢
  split at ascii
  · rename_i n found
    obtain ⟨before, after, listed, _⟩ := List.lookup_eq_some_iff.1 found
    rcases caseTables.partners_far ((lowerLetter c).toNat, n) (by simp [listed]) with far | small
    · exact absurd ascii (Nat.not_lt.2 far)
    · rw [found, small] at still
      cases still
  · rename_i found
    rw [found] at still
    rcases lowerLetter_cases c with own | image
    · exact own
    · obtain ⟨s, member, held⟩ := (inSpans_iff ..).1 image
      obtain ⟨low, high, _⟩ := (Span.contains_iff ..).1 held
      rcases caseTables.smalls_far s member with far | ⟨above, below⟩
      · omega
      · have small := (ascii_forms ascii).between (Nat.le_trans above low)
          (Nat.le_trans high below)
        rw [small] at still
        cases still

end ascii

end EntityScaffold.Text
