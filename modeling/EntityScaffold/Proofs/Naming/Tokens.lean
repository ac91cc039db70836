import EntityScaffold.Proofs.Naming.Settling
import EntityScaffold.Proofs.Text.Identifiers

/-!
Fixed names as single tokens, without acronyms and suffix words. An underscore never stays in one. A
hyphen or a blank stays just where the name counted as cased, since only the words of other names are
joined. Where none stays, letters, digits and separators make an identifier, if what begins the first
word is a letter.
-/
namespace EntityScaffold.Naming
open Text NamingRules

/-- A cased name with a separator other than an underscore. -/
def KeepsSeparator (name : List Char) : Prop :=
  looksPascal defaultLookahead name = true ∧ ∃ c ∈ name, isSeparator c = true ∧ c ≠ '_'

def BeginsWithLetter (name : List Char) : Prop :=
  ∃ c ∈ name.find? fun c => !isSeparator c, isLetter c = true

def Plain (cs : List Char) : Prop :=
  ∀ c ∈ cs, isLetter c = true ∨ isDigit c = true ∨ isSeparator c = true

instance (cs : List Char) : Decidable (Plain cs) := List.decidableBAll _ cs

section characters

variable {c : Char} {w : List Char}

theorem gaps_apart :
    Apart identifierContinueSpans (separatorSpans.filter fun s => s.first != 95) := by
  decide +kernel

theorem not_continue_of_gap (separates : isSeparator c = true) (other : c ≠ '_') :
    isIdentifierContinue c = false := by
  obtain ⟨s, member, held⟩ := (inSpans_iff ..).1 ((isSeparator_iff c).1 separates)
  have kept : (s.first != 95) = true := by
    rw [bne_iff_ne]
    intro score
    have alone : ∀ s ∈ separatorSpans, s.first = 95 → s.last = 95 := by decide
    obtain ⟨low, high, _⟩ := (s.contains_iff _).1 held
    have code : c.toNat = 95 := by
      rw [score] at low
      rw [alone s member score] at high
      exact Nat.le_antisymm high low
    exact other (Char.toNat_inj.1 code)
  have gap : inSpans (separatorSpans.filter fun s => s.first != 95) c = true :=
    (inSpans_iff ..).2 ⟨s, List.mem_filter.2 ⟨member, kept⟩, held⟩
  rw [Bool.eq_false_iff]
  intro goesOn
  rw [outside_of_apart gaps_apart goesOn] at gap
  cases gap

theorem start_of_unseparated (plain : isSeparator c = false) :
    isIdentifierStart c = isLetter c := by
  have other : (c == '_') = false := by
    rw [beq_eq_false_iff_ne]
    rintro rfl
    cases plain
  rw [isIdentifierStart, other, Bool.false_or]
  rfl

end characters

section words

variable {c : Char} {w name cs : List Char}

theorem token_of_plain (plain : Plain w) (whole : Unseparated w) :
    ∀ c ∈ w, isLetter c = true ∨ isDigit c = true := by
  intro c member
  rcases plain c member with letter | digit | separates
  · exact .inl letter
  · exact .inr digit
  · rw [whole c member] at separates
    cases separates

theorem continue_of_token (token : isLetter c = true ∨ isDigit c = true) :
    isIdentifierContinue c = true := by
  rcases token with letter | digit
  · exact continue_of_letter letter
  · exact continue_of_digit digit

theorem upperChar_of_token (token : isLetter c = true ∨ isDigit c = true) :
    ∃ h rest, upperChar c = h :: rest ∧ isLetter h = isLetter c ∧
      ∀ d ∈ h :: rest, isIdentifierContinue d = true := by
  rcases token with letter | digit
  · obtain ⟨h, rest, form, first, goesOn⟩ := upperChar_of_letter letter
    exact ⟨h, rest, form, first.trans letter.symm, goesOn⟩
  · refine ⟨c, [], upperChar_of_digit digit, rfl, fun d member => ?_⟩
    exact List.mem_singleton.1 member ▸ continue_of_digit digit

theorem capitalizeRest_continues (token : ∀ c ∈ w, isLetter c = true ∨ isDigit c = true) :
    ∀ d ∈ capitalizeRest w, isIdentifierContinue d = true := by
  cases w with
  | nil => exact fun d member => by cases member
  | cons c rest =>
    obtain ⟨own, later⟩ := List.forall_mem_cons.1 token
    obtain ⟨h, more, form, _, goesOn⟩ := upperChar_of_token own
    rw [capitalizeRest, form, List.forall_mem_append]
    exact ⟨goesOn, lowerChars_continue fun d member => continue_of_token (later d member)⟩

theorem joinWords_continues (plain : Plain name) :
    ∀ d ∈ joinWords name, isIdentifierContinue d = true := by
  induction name using word_induction with
  | word w whole =>
    rw [joinWords_of_unseparated whole]
    exact capitalizeRest_continues (token_of_plain plain whole)
  | behind w c rest whole separates ih =>
    obtain ⟨first, others⟩ := List.forall_mem_append.1 plain
    rw [joinWords_append separates, joinWords_of_unseparated whole, List.forall_mem_append]
    exact ⟨capitalizeRest_continues (token_of_plain first whole),
      ih (List.forall_mem_cons.1 others).2⟩

theorem beginsWithLetter_cons (plain : isSeparator c = false) (rest : List Char) :
    BeginsWithLetter (c :: rest) ↔ isLetter c = true := by
  simp [BeginsWithLetter, plain]

theorem beginsWithLetter_behind (separates : isSeparator c = true) (rest : List Char) :
    BeginsWithLetter (c :: rest) ↔ BeginsWithLetter rest := by
  simp [BeginsWithLetter, separates]

theorem joinWords_begins (plain : Plain name) :
    (∃ h ∈ (joinWords name).head?, isLetter h = true) ↔ BeginsWithLetter name := by
  have joined (c : Char) (w rest : List Char) (whole : Unseparated (c :: w))
      (token : isLetter c = true ∨ isDigit c = true) :
      (∃ h ∈ (capitalizeRest (c :: w) ++ rest).head?, isLetter h = true) ↔ isLetter c = true := by
    obtain ⟨h, more, form, same, _⟩ := upperChar_of_token token
    simp [capitalizeRest, form, same]
  induction name using word_induction with
  | word w whole =>
    rw [joinWords_of_unseparated whole]
    cases w with
    | nil => simp [capitalizeRest, BeginsWithLetter]
    | cons c w =>
      rw [beginsWithLetter_cons (whole c (by simp)),
        ← joined c w [] whole (token_of_plain plain whole c (by simp)), List.append_nil]
  | behind w c rest whole separates ih =>
    obtain ⟨first, others⟩ := List.forall_mem_append.1 plain
    rw [joinWords_append separates, joinWords_of_unseparated whole]
    cases w with
    | nil =>
      rw [List.nil_append, beginsWithLetter_behind separates]
      exact ih (List.forall_mem_cons.1 others).2
    | cons d w =>
      rw [joined d w _ whole (token_of_plain first whole d (by simp)), List.cons_append,
        beginsWithLetter_cons (whole d (by simp))]

end words

section names

variable {name : List Char}

def noCasing : Casing := ⟨id, id, raises_id, settles_id⟩

theorem noCasing_cased (cs : List Char) :
    (ofTexts [] [] []).applyCasing cs = .ok (noCasing.apply cs) := rfl

/-- A cased name loses its underscores and nothing else. -/
theorem convert_twice_of_pascal (pascal : looksPascal defaultLookahead name = true) :
    noCasing.convert (noCasing.convert name) = name.filter (· != '_') := by
  have first : noCasing.convert name = name.filter (· != '_') := by
    rw [Casing.convert, if_pos pascal]
    rfl
  have still := noCasing.convert_of_pascal (noCasing.convert_converted name)
    (first ▸ looksPascal_unscored pascal)
  rw [still, first]

/-- Any other name is one word, which begins as its joined words do. -/
theorem convert_twice_of_other (other : looksPascal defaultLookahead name = false) :
    Unseparated (noCasing.convert (noCasing.convert name)) ∧
    (noCasing.convert (noCasing.convert name)).head? = (joinWords name).head? ∧
    (Plain name →
      ∀ c ∈ noCasing.convert (noCasing.convert name), isIdentifierContinue c = true) := by
  have first : noCasing.convert name = joinWords name := by
    rw [Casing.convert, other, if_neg Bool.false_ne_true]
    rfl
  have whole := joinWords_unseparated name
  rw [first]
  cases second : looksPascal defaultLookahead (joinWords name) with
  | true =>
    have still := noCasing.convert_of_pascal (first ▸ noCasing.convert_converted name) second
    rw [still]
    exact ⟨whole, rfl, joinWords_continues⟩
  | false =>
    have again : noCasing.convert (joinWords name) = capitalizeRest (joinWords name) :=
      noCasing.convert_of_word whole second
    rw [again]
    cases joined : joinWords name with
    | nil => exact ⟨by simp [Unseparated, capitalizeRest], rfl, by simp [capitalizeRest]⟩
    | cons c rest =>
      have own := joinWords_upright name c (by rw [joined]; rfl)
      refine ⟨capitalizeRest_unseparated (joined ▸ whole), ?_, fun plain => ?_⟩
      · rw [capitalizeRest, own]
        rfl
      · obtain ⟨held, later⟩ := List.forall_mem_cons.1 (joined ▸ joinWords_continues plain)
        rw [capitalizeRest, own, List.singleton_append, List.forall_mem_cons]
        exact ⟨held, lowerChars_continue later⟩

theorem unscored_separator_iff (pascal : looksPascal defaultLookahead name = true) :
    (∃ c ∈ name.filter (· != '_'), isSeparator c = true) ↔ KeepsSeparator name := by
  simp only [KeepsSeparator, pascal, true_and, List.mem_filter, bne_iff_ne, and_assoc]
  exact exists_congr fun c => and_congr_right fun _ => and_comm

theorem unscored_identifier_iff (pascal : looksPascal defaultLookahead name = true)
    (plain : Plain name) : isIdentifier (name.filter (· != '_')) = true ↔
      BeginsWithLetter name ∧ ¬ KeepsSeparator name := by
  have goesOn : (∀ c ∈ name.filter (· != '_'), isIdentifierContinue c = true) ↔
      ¬ KeepsSeparator name := by
    rw [← unscored_separator_iff pascal]
    constructor
    · rintro held ⟨c, member, separates⟩
      have gap := not_continue_of_gap separates (bne_iff_ne.1 (List.mem_filter.1 member).2)
      rw [held c member] at gap
      cases gap
    · intro none c member
      rcases plain c (List.mem_filter.1 member).1 with letter | digit | separates
      · exact continue_of_letter letter
      · exact continue_of_digit digit
      · exact absurd ⟨c, member, separates⟩ none
  have begins : (∃ c ∈ (name.filter (· != '_')).head?, isIdentifierStart c = true) ↔
      BeginsWithLetter name := by
    cases name with
    | nil => cases pascal
    | cons c rest =>
      have upper := isUpper_of_pascal pascal
      have whole := isUpper_unseparated upper
      rw [List.filter_cons, if_pos (isUpper_unscored upper), beginsWithLetter_cons whole,
        ← start_of_unseparated whole]
      simp
  rw [isIdentifier_iff, begins, goesOn]

/-- The fixed name of a name without an override has no underscore. It has a separator just where
the name counts as cased and has one besides underscores. That of letters, digits and separators is
an identifier just where it has none and the first word begins with a letter. -/
theorem fixed_names_are_tokens (name : String) (filled : allBlank name.toList = false) :
    ∃ fixed, (ofTexts [] [] []).normalize name false = .ok (.str fixed) ∧
      '_' ∉ fixed.toList ∧
      ((∃ c ∈ fixed.toList, isSeparator c = true) ↔ KeepsSeparator name.toList) ∧
      (Plain name.toList → (isIdentifier fixed.toList = true ↔
        BeginsWithLetter name.toList ∧ ¬ KeepsSeparator name.toList)) := by
  have made := normalize_of_casing noCasing_cased rfl name
  rw [filled, if_neg Bool.false_ne_true] at made
  refine ⟨_, made, ?_⟩
  rw [String.toList_ofList]
  refine ⟨(noCasing.convert_converted _).unscored, ?_⟩
  cases pascal : looksPascal defaultLookahead name.toList with
  | true =>
    rw [convert_twice_of_pascal pascal]
    exact ⟨unscored_separator_iff pascal, unscored_identifier_iff pascal⟩
  | false =>
    obtain ⟨whole, head, goesOn⟩ := convert_twice_of_other pascal
    have none : ¬ KeepsSeparator name.toList := by
      rintro ⟨cased, _⟩
      rw [pascal] at cased
      cases cased
    constructor
    · refine iff_of_false ?_ none
      rintro ⟨c, member, separates⟩
      rw [whole c member] at separates
      cases separates
    · intro plain
      have begins : (∃ c ∈ (joinWords name.toList).head?, isIdentifierStart c = true) ↔
          ∃ c ∈ (joinWords name.toList).head?, isLetter c = true := by
        refine exists_congr fun c => and_congr_right fun first => ?_
        rw [start_of_unseparated (joinWords_unseparated _ c (List.mem_of_mem_head? first))]
      rw [isIdentifier_iff, head, begins, joinWords_begins plain,
        and_iff_left (goesOn plain), and_iff_left none]

theorem order_line_token : allBlank "_ORDER-line 2".toList = false ∧
    Plain "_ORDER-line 2".toList ∧ ∃ fixed,
      (ofTexts [] [] []).normalize "_ORDER-line 2" false = .ok (.str fixed) ∧
      '_' ∉ fixed.toList ∧
      ((∃ c ∈ fixed.toList, isSeparator c = true) ↔ KeepsSeparator "_ORDER-line 2".toList) ∧
      (isIdentifier fixed.toList = true ↔
        BeginsWithLetter "_ORDER-line 2".toList ∧ ¬ KeepsSeparator "_ORDER-line 2".toList) := by
  have filled : allBlank "_ORDER-line 2".toList = false := by decide +kernel
  have plain : Plain "_ORDER-line 2".toList := by decide +kernel
  obtain ⟨fixed, made, unscored, separated, token⟩ := fixed_names_are_tokens "_ORDER-line 2" filled
  exact ⟨filled, plain, fixed, made, unscored, separated, token plain⟩

/-- A hyphen stays in a cased name, whose fixed form is then no identifier. -/
theorem customer_order_separated : allBlank "Customer-Order".toList = false ∧
    (ofTexts [] [] []).normalize "Customer-Order" false = .ok (.str "Customer-Order") ∧
    '-' ∈ "Customer-Order".toList ∧ isIdentifier "Customer-Order".toList = false :=
  ⟨by decide +kernel, ok_of_toOption (by decide +kernel), by decide +kernel, by decide +kernel⟩

end names

end EntityScaffold.Naming
