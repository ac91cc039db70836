import EntityScaffold.Proofs.Text.Letters
import EntityScaffold.Text.Identifier

/-!
Identifiers and the case of their letters. Small letters go on an identifier where their capitals do,
and the capital form of a letter begins with a letter and goes on as an identifier may. A digit is no
letter and has no other form.
-/
namespace EntityScaffold.Text

def isLetter (c : Char) : Bool := inSpans identifierStartSpans c

def isDigit (c : Char) : Bool := (digitValue? c).isSome

/-- The letters in circles have two cases and are no letters of identifiers. -/
def circledSpan : Span := ⟨0x24B6, 0x24E9, 1⟩

def Shift.isCircled (s : Shift) : Bool :=
  Nat.ble circledSpan.first s.span.first && Nat.ble s.span.last circledSpan.last

def KeptBy (table : List Span) (shifts : List Shift) : Prop :=
  Within ((shifts.filter fun s => !s.isCircled).map Shift.image) table ∧ Apart table [circledSpan]

instance (table : List Span) (shifts : List Shift) : Decidable (KeptBy table shifts) :=
  inferInstanceAs (Decidable (_ ∧ _))

def expansionSpans : List Span := upperExpansions.flatMap fun e => e.2.map Span.single

@[mk_iff] structure IdentifierTables : Prop where
  letters_go_on : Within identifierStartSpans identifierContinueSpans
  digits_go_on : Within decimalSpans identifierContinueSpans
  digits_apart : Apart decimalSpans identifierStartSpans
  digits_still : Apart decimalSpans smallSpans
  smalls_kept : KeptBy identifierContinueSpans lowerShifts
  capitals_kept : KeptBy identifierStartSpans upperShifts
  heads_kept : Within expansionHeads identifierStartSpans
  expansions_kept : Within expansionSpans identifierContinueSpans
  dotted_kept : isIdentifierContinue 'i' ∧ isIdentifierContinue '\u0307'
  sigma_kept : isIdentifierContinue '\u03C2' ∧ isIdentifierContinue '\u03C3'
  underscore_kept : isIdentifierContinue '_'

instance : Decidable IdentifierTables := decidable_of_iff' _ identifierTables_iff

theorem identifierTables : IdentifierTables := by decide +kernel

section characters

variable {c : Char}

theorem inSpans_shifted {table : List Span} {shifts : List Shift} (kept : KeptBy table shifts)
    (valid : ∀ s ∈ shifts, s.image.valid) (held : inSpans table c = true) {n : Nat}
    (found : shifted? shifts c.toNat = some n) : inSpans table (Char.ofNat n) = true := by
  obtain ⟨s, first, rfl⟩ := Option.map_eq_some_iff.1 found
  have member := List.mem_of_find?_eq_some first
  have own : s.span.contains c.toNat :=
    @List.find?_some _ (fun s : Shift => s.span.contains c.toNat) _ _ first
  cases circled : s.isCircled with
  | true =>
    simp only [Shift.isCircled, Bool.and_eq_true, Nat.ble_eq] at circled
    obtain ⟨low, high, _⟩ := (s.span.contains_iff _).1 own
    have inside : circledSpan.contains c.toNat := by
      rw [Span.contains_iff]
      exact ⟨Nat.le_trans circled.1 low, Nat.le_trans high circled.2, Nat.mod_one _⟩
    have outside := outside_of_apart kept.2 held
    rw [(inSpans_iff ..).2 ⟨circledSpan, by simp, inside⟩] at outside
    cases outside
  | false =>
    have image := image_contains own
    rw [← toNat_of_valid (valid s member) image] at image
    have listed : s.image ∈ (shifts.filter fun s => !s.isCircled).map Shift.image :=
      List.mem_map_of_mem (List.mem_filter.2 ⟨member, by simp [circled]⟩)
    exact inside_of_within kept.1 ((inSpans_iff ..).2 ⟨s.image, listed, image⟩)

theorem isDigit_iff : isDigit c = true ↔ inSpans decimalSpans c = true := by
  rw [isDigit, digitValue?, Option.isSome_map, List.find?_isSome, inSpans_iff]

theorem continue_of_letter (letter : isLetter c = true) : isIdentifierContinue c = true :=
  inside_of_within identifierTables.letters_go_on letter

theorem continue_of_digit (digit : isDigit c = true) : isIdentifierContinue c = true :=
  inside_of_within identifierTables.digits_go_on (isDigit_iff.1 digit)

theorem upperChar_of_digit (digit : isDigit c = true) : upperChar c = [c] :=
  upperChar_of_outside (outside_of_apart identifierTables.digits_still (isDigit_iff.1 digit))

theorem lowerLetter_continues (held : isIdentifierContinue c = true) :
    isIdentifierContinue (lowerLetter c) = true := by
  unfold lowerLetter
  split
  · rename_i n found
    exact inSpans_shifted identifierTables.smalls_kept caseTables.lower_valid held found
  · exact held

theorem lowerChars_continue {cs : List Char} (held : ∀ c ∈ cs, isIdentifierContinue c = true) :
    ∀ d ∈ lowerChars cs, isIdentifierContinue d = true :=
  lowerChars_forall identifierTables.dotted_kept identifierTables.sigma_kept
    fun c member => lowerLetter_continues (held c member)

theorem upperChar_of_letter (letter : isLetter c = true) :
    ∃ h rest, upperChar c = h :: rest ∧ isLetter h = true ∧
      ∀ d ∈ h :: rest, isIdentifierContinue d = true := by
  have alone (d : Char) (own : isLetter d = true) : ∀ b ∈ [d], isIdentifierContinue b = true :=
    fun b member => List.mem_singleton.1 member ▸ continue_of_letter own
  unfold upperChar
  split
  · rename_i ns found
    obtain ⟨before, after, listed, _⟩ := List.lookup_eq_some_iff.1 found
    have member : (c.toNat, ns) ∈ upperExpansions := by simp [listed]
    obtain ⟨n, more, rfl⟩ := List.exists_cons_of_ne_nil (caseTables.expansions_valid _ member).1
    have listed : Span.single n ∈ expansionHeads :=
      List.mem_flatMap.2 ⟨_, member, List.mem_cons_self ..⟩
    have head := inSpans_expanded member (List.mem_cons_self ..) listed
    refine ⟨Char.ofNat n, more.map Char.ofNat, rfl,
      inside_of_within identifierTables.heads_kept head, fun d shown => ?_⟩
    obtain ⟨m, inForm, rfl⟩ := List.mem_map.1 (List.map_cons ▸ shown)
    exact inside_of_within identifierTables.expansions_kept
      (inSpans_expanded member inForm
        (List.mem_flatMap.2 ⟨_, member, List.mem_map_of_mem inForm⟩))
  · split
    · rename_i n found
      have own := inSpans_shifted identifierTables.capitals_kept caseTables.upper_valid letter found
      exact ⟨_, [], rfl, own, alone _ own⟩
    · exact ⟨c, [], rfl, letter, alone c letter⟩

theorem isIdentifier_iff {cs : List Char} : isIdentifier cs = true ↔
    (∃ c ∈ cs.head?, isIdentifierStart c = true) ∧ ∀ c ∈ cs, isIdentifierContinue c = true := by
  cases cs with
  | nil => simp [isIdentifier]
  | cons c rest =>
    have begins (start : isIdentifierStart c = true) : isIdentifierContinue c = true := by
      rcases Bool.or_eq_true_iff.1 start with score | letter
      · rw [beq_iff_eq] at score
        exact score ▸ identifierTables.underscore_kept
      · exact continue_of_letter letter
    rw [isIdentifier, Bool.and_eq_true, List.all_eq_true, List.forall_mem_cons]
    constructor
    · rintro ⟨start, later⟩
      exact ⟨⟨c, rfl, start⟩, begins start, later⟩
    · rintro ⟨⟨d, first, start⟩, _, later⟩
      cases first
      exact ⟨start, later⟩

end characters

end EntityScaffold.Text
