import EntityScaffold.Proofs.Naming.Texts
import EntityScaffold.Proofs.Naming.Words

/-!
Names in letters of one case. None of them counts as cased, so their words are all that the first
conversion looks at, and words that differ in case only are joined to the same text. A name in small
letters whose first word begins with two of them is cased after that, and the second conversion
leaves it.
-/
namespace EntityScaffold.Naming
open Text NamingRules

section cases

variable {c : Char} {cs name : List Char}

theorem isLower_toUpper (ascii : c.toNat < 128) : isLower c.toUpper = false := by
  rw [isLower_ascii (ascii_forms ascii).upper_ascii, (ascii_forms ascii).upper_large]

theorem isUpper_toLower (ascii : c.toNat < 128) : isUpper c.toLower = false := by
  rw [isUpper_ascii (ascii_forms ascii).lower_ascii, (ascii_forms ascii).lower_small]

theorem unseparated_map {f : Char → Char} (kept : ∀ c ∈ cs, isSeparator (f c) = isSeparator c)
    (plain : Unseparated cs) : Unseparated (cs.map f) := by
  intro d shown
  obtain ⟨c, member, rfl⟩ := List.mem_map.1 shown
  rw [kept c member, plain c member]

theorem unseparated_upper (ascii : Ascii cs) (plain : Unseparated cs) :
    Unseparated (cs.map Char.toUpper) :=
  unseparated_map (fun c member => (ascii_separators (ascii c member)).upper_separator) plain

theorem unseparated_lower (ascii : Ascii cs) (plain : Unseparated cs) :
    Unseparated (cs.map Char.toLower) :=
  unseparated_map (fun c member => (ascii_separators (ascii c member)).lower_separator) plain

theorem ascii_map {f : Char → Char} (kept : ∀ c : Char, c.toNat < 128 → (f c).toNat < 128)
    (ascii : Ascii cs) : Ascii (cs.map f) := by
  intro d shown
  obtain ⟨c, member, rfl⟩ := List.mem_map.1 shown
  exact kept c (ascii c member)

theorem ascii_upper (ascii : Ascii cs) : Ascii (cs.map Char.toUpper) :=
  ascii_map (fun _ plain => (ascii_forms plain).upper_ascii) ascii

theorem ascii_lower (ascii : Ascii cs) : Ascii (cs.map Char.toLower) :=
  ascii_map (fun _ plain => (ascii_forms plain).lower_ascii) ascii

theorem looksPascal_of_no_lower (none : ∀ c ∈ name, isLower c = false) :
    looksPascal defaultLookahead name = false := by
  rw [looksPascal, Bool.and_eq_false_iff]
  right
  rw [List.any_eq_false]
  intro c member
  rw [none c (List.mem_of_mem_take (List.mem_of_mem_drop member))]
  exact Bool.false_ne_true

theorem looksPascal_of_small_head (small : ∀ c ∈ name.head?, isUpper c = false) :
    looksPascal defaultLookahead name = false := by
  cases name with
  | nil => rfl
  | cons c rest => simp [looksPascal, opensCapital, small c rfl]

theorem capitalizeRest_of_single_case (ascii : Ascii name) :
    capitalizeRest (name.map Char.toUpper) = capitalizeRest (name.map Char.toLower) := by
  cases name with
  | nil => rfl
  | cons c rest =>
    obtain ⟨own, later⟩ := List.forall_mem_cons.1 ascii
    have first : c.toUpper.toUpper = c.toLower.toUpper :=
      (ascii_forms own).upper_upper.trans (ascii_forms own).upper_lower.symm
    have others (d : Char) (member : d ∈ rest) : d.toUpper.toLower = d.toLower.toLower :=
      have forms := ascii_forms (later d member)
      forms.lower_upper.trans forms.lower_lower.symm
    have upper := capitalizeRest_ascii (ascii_upper ascii)
    have lower := capitalizeRest_ascii (ascii_lower ascii)
    rw [List.map_cons, List.map_cons, upper, lower, first, List.map_map, List.map_map]
    exact congrArg _ (List.map_congr_left others)

theorem joinWords_of_single_case (ascii : Ascii name) :
    joinWords (name.map Char.toUpper) = joinWords (name.map Char.toLower) := by
  induction name using word_induction with
  | word w plain =>
    have upper := unseparated_upper ascii plain
    have lower := unseparated_lower ascii plain
    rw [joinWords_of_unseparated upper, joinWords_of_unseparated lower,
      capitalizeRest_of_single_case ascii]
  | behind w c rest plain separates later =>
    have first : Ascii w := fun d member => ascii d (List.mem_append_left _ member)
    obtain ⟨own, behind⟩ := List.forall_mem_cons.1 fun d (member : d ∈ c :: rest) =>
      ascii d (List.mem_append_right _ member)
    have upper := unseparated_upper first plain
    have lower := unseparated_lower first plain
    rw [List.map_append, List.map_append, List.map_cons, List.map_cons,
      joinWords_append ((ascii_separators own).upper_separator.trans separates),
      joinWords_append ((ascii_separators own).lower_separator.trans separates), later behind,
      joinWords_of_unseparated upper, joinWords_of_unseparated lower,
      capitalizeRest_of_single_case first]

variable {rules : NamingRules}

theorem convert_of_single_case (ascii : Ascii name) :
    rules.convert (name.map Char.toUpper) = rules.convert (name.map Char.toLower) := by
  have upper : looksPascal defaultLookahead (name.map Char.toUpper) = false := by
    apply looksPascal_of_no_lower
    intro d shown
    obtain ⟨c, member, rfl⟩ := List.mem_map.1 shown
    exact isLower_toUpper (ascii c member)
  have lower : looksPascal defaultLookahead (name.map Char.toLower) = false := by
    apply looksPascal_of_small_head
    intro d first
    obtain ⟨c, member, rfl⟩ := List.mem_map.1 (List.mem_of_mem_head? first)
    exact isUpper_toLower (ascii c member)
  rw [NamingRules.convert, NamingRules.convert, upper, lower, if_neg Bool.false_ne_true,
    if_neg Bool.false_ne_true, joinWords_of_single_case ascii]

theorem allBlank_map {f : Char → Char} (kept : ∀ c ∈ name, isBlank (f c) = isBlank c) :
    allBlank (name.map f) = allBlank name := by
  rw [allBlank, List.all_map, allBlank, Bool.eq_iff_iff, List.all_eq_true, List.all_eq_true]
  exact forall₂_congr fun c member => by rw [Function.comp_apply, kept c member]

/-- The fixed name of an ASCII name in capitals is that of the name in small letters. -/
theorem normalize_of_single_case (none : rules.overrides = []) {name : String}
    (ascii : Ascii name.toList) :
    rules.normalize (upper name) false = rules.normalize (lower name) false := by
  have forms (c : Char) (member : c ∈ name.toList) := ascii_separators (ascii c member)
  rw [upper, lower, upperChars_ascii ascii, lowerChars_ascii ascii]
  unfold NamingRules.normalize
  rw [String.toList_ofList, String.toList_ofList, none, List.lookup_nil, List.lookup_nil,
    allBlank_map fun c member => (forms c member).upper_blank,
    allBlank_map fun c member => (forms c member).lower_blank]
  cases blank : allBlank name.toList with
  | true =>
    have same : name.toList.map Char.toUpper = name.toList.map Char.toLower :=
      List.map_congr_left fun c member =>
        (forms c member).blank_uncased (List.all_eq_true.1 blank c member)
    rw [same]
  | false =>
    have twice : rules.convertTwice (name.toList.map Char.toUpper) =
        rules.convertTwice (name.toList.map Char.toLower) := by
      rw [convertTwice, convertTwice, convert_of_single_case ascii]
    simp only [twice, Bool.false_eq_true, if_false]

end cases

/-- A name in small letters: tokens of letters and digits, with runs of separators between them, and
with any before the first and behind the last. The first token begins with two letters. -/
structure SmallName where
  lead : List Char
  first : List Char
  pieces : List (List Char × List Char)
  trail : List Char
  lead_separates : ∀ c ∈ lead, isSeparator c = true
  runs_separate : ∀ p ∈ pieces, p.1 ≠ [] ∧ ∀ c ∈ p.1, isSeparator c = true
  trail_separates : ∀ c ∈ trail, isSeparator c = true
  tokens_small : ∀ t ∈ first :: pieces.map (·.2), ∀ c ∈ t, c.isLower = true ∨ c.isDigit = true
  begins : ∃ a b rest, first = a :: b :: rest ∧ a.isLower = true ∧ b.isLower = true

namespace SmallName

def text (name : SmallName) : List Char :=
  name.lead ++ name.first ++ name.pieces.flatMap (fun p => p.1 ++ p.2) ++ name.trail

def tokens (name : SmallName) : List (List Char) := name.first :: name.pieces.map (·.2)

end SmallName

def capitalized (token : List Char) : List Char :=
  match token with
  | [] => []
  | c :: rest => c.toUpper :: rest

section tokens

variable {c : Char} {run token rest : List Char}

theorem joinWords_run (separates : ∀ c ∈ run, isSeparator c = true) (rest : List Char) :
    joinWords (run ++ rest) = joinWords rest := by
  induction run with
  | nil => rfl
  | cons c run ih =>
    obtain ⟨own, later⟩ := List.forall_mem_cons.1 separates
    have front := joinWords_append own [] (run ++ rest)
    rw [List.nil_append] at front
    rw [List.cons_append, front, ih later]
    rfl

theorem joinWords_word (plain : Unseparated token) (separates : ∀ c ∈ run, isSeparator c = true)
    (given : run ≠ [] ∨ rest = []) :
    joinWords (token ++ run ++ rest) = capitalizeRest token ++ joinWords rest := by
  cases run with
  | nil =>
    obtain rfl := given.resolve_left fun other => other rfl
    rw [List.append_nil, List.append_nil, joinWords_of_unseparated plain]
    exact (List.append_nil _).symm
  | cons c run =>
    obtain ⟨own, later⟩ := List.forall_mem_cons.1 separates
    rw [List.append_assoc, List.cons_append, joinWords_append own, joinWords_run later,
      joinWords_of_unseparated plain]

theorem token_forms (small : c.isLower = true ∨ c.isDigit = true) :
    c.toNat < 128 ∧ isSeparator c = false ∧ c.toLower = c := by
  have ascii : c.toNat < 128 := by
    rcases small with letter | digit
    · exact small_ascii letter
    · have below := UInt32.le_iff_toNat_le.1 (of_decide_eq_true (Bool.and_eq_true_iff.1 digit).2)
      exact Nat.lt_of_le_of_lt below (by decide)
  exact ⟨ascii, (ascii_separators ascii).token_plain small⟩

theorem token_unseparated (small : ∀ c ∈ token, c.isLower = true ∨ c.isDigit = true) :
    Unseparated token := fun c member => (token_forms (small c member)).2.1

theorem capitalizeRest_token (small : ∀ c ∈ token, c.isLower = true ∨ c.isDigit = true) :
    capitalizeRest token = capitalized token := by
  cases token with
  | nil => rfl
  | cons c rest =>
    have ascii : Ascii (c :: rest) := fun d member => (token_forms (small d member)).1
    rw [capitalizeRest_ascii ascii, capitalized]
    congr 1
    conv => rhs; rw [← List.map_id rest]
    exact List.map_congr_left fun d member =>
      (token_forms (small d (List.mem_cons_of_mem c member))).2.2

theorem joinWords_tokens {trail : List Char} {pieces : List (List Char × List Char)}
    (plain : Unseparated token)
    (runs : ∀ p ∈ pieces, p.1 ≠ [] ∧ ∀ c ∈ p.1, isSeparator c = true)
    (others : ∀ p ∈ pieces, Unseparated p.2) (behind : ∀ c ∈ trail, isSeparator c = true) :
    joinWords (token ++ pieces.flatMap (fun p => p.1 ++ p.2) ++ trail) =
      (token :: pieces.map (·.2)).flatMap capitalizeRest := by
  induction pieces generalizing token with
  | nil =>
    have whole : joinWords (token ++ trail ++ []) = capitalizeRest token ++ joinWords [] :=
      joinWords_word plain behind (.inr rfl)
    rw [List.append_nil] at whole
    rw [List.flatMap_nil, List.append_nil, whole]
    rfl
  | cons p pieces ih =>
    obtain ⟨⟨given, separates⟩, later⟩ := List.forall_mem_cons.1 runs
    obtain ⟨next, more⟩ := List.forall_mem_cons.1 others
    have split : token ++ (p :: pieces).flatMap (fun p => p.1 ++ p.2) ++ trail =
        token ++ p.1 ++ (p.2 ++ pieces.flatMap (fun p => p.1 ++ p.2) ++ trail) := by
      simp only [List.flatMap_cons, List.append_assoc]
    rw [split, joinWords_word plain separates (.inl given), ih next later more]
    rfl

theorem looksPascal_of_two {a b : Char} (large : isUpper a = true) (small : isLower b = true) :
    looksPascal defaultLookahead (a :: b :: rest) = true := by
  have unblank : isBlank a = false := (Bool.or_eq_false_iff.1 (isUpper_unseparated large)).2
  have opens : opensCapital (a :: b :: rest) = true := by
    simp [opensCapital, allBlank, unblank, large]
  have inside : b ∈ window defaultLookahead (a :: b :: rest) := by simp [window, defaultLookahead]
  rw [looksPascal, opens, Bool.true_and]
  exact List.any_eq_true.2 ⟨b, inside, small⟩

theorem letter_forms (small : c.isLower = true) :
    isUpper c = false ∧ isLower c = true ∧ isUpper c.toUpper = true ∧ isBlank c = false := by
  have ascii := small_ascii small
  have forms := ascii_forms ascii
  obtain ⟨_, uncapital, raised⟩ := forms.small small
  have plain := ((ascii_separators ascii).token_plain (.inl small)).1
  rw [isUpper_ascii ascii, isLower_ascii ascii, isUpper_ascii forms.upper_ascii]
  exact ⟨uncapital, small, raised, (Bool.or_eq_false_iff.1 plain).2⟩

end tokens

namespace SmallName

variable (name : SmallName)

theorem joinWords_text : joinWords name.text = name.tokens.flatMap capitalized := by
  have small (t : List Char) (member : t ∈ name.tokens) := name.tokens_small t member
  have first := token_unseparated (small name.first (by simp [tokens]))
  have others (p : List Char × List Char) (member : p ∈ name.pieces) : Unseparated p.2 :=
    token_unseparated (small p.2 (List.mem_cons_of_mem _ (List.mem_map_of_mem member)))
  have whole := joinWords_tokens first name.runs_separate others name.trail_separates
  rw [text, List.append_assoc, List.append_assoc, joinWords_run name.lead_separates,
    ← List.append_assoc, whole, List.flatMap_def, List.flatMap_def]
  exact congrArg List.flatten
    (List.map_congr_left fun t member => capitalizeRest_token (small t member))

theorem text_uncased : looksPascal defaultLookahead name.text = false := by
  apply looksPascal_of_small_head
  intro c first
  obtain ⟨a, b, rest, form, small, _⟩ := name.begins
  cases front : name.lead with
  | nil =>
    rw [text, front, form] at first
    cases first
    exact (letter_forms small).1
  | cons d more =>
    rw [text, front] at first
    cases first
    have separates := name.lead_separates c (by simp [front])
    rw [Bool.eq_false_iff]
    intro upper
    rw [isUpper_unseparated upper] at separates
    cases separates

theorem text_filled : allBlank name.text = false := by
  obtain ⟨a, b, rest, form, small, _⟩ := name.begins
  have member : a ∈ name.text := by simp [text, form]
  refine List.all_eq_false.2 ⟨a, member, ?_⟩
  rw [(letter_forms small).2.2.2]
  exact Bool.false_ne_true

theorem joined_cased : looksPascal defaultLookahead (joinWords name.text) = true := by
  obtain ⟨a, b, rest, form, large, small⟩ := name.begins
  rw [joinWords_text, tokens, form]
  exact looksPascal_of_two (letter_forms large).2.2.1 (letter_forms small).2.1

theorem normalize_text : (ofTexts [] [] []).normalize (.ofList name.text) false =
    .ok (.str (.ofList (name.tokens.flatMap capitalized))) := by
  have first : (ofTexts [] [] []).convert name.text = .ok (joinWords name.text) := by
    rw [convert, name.text_uncased, if_neg Bool.false_ne_true]
    rfl
  have whole := filter_unscored (joinWords_unseparated name.text).unscored
  have second : (ofTexts [] [] []).convert (joinWords name.text) = .ok (joinWords name.text) := by
    rw [convert, if_pos name.joined_cased, whole]
    rfl
  have twice : (ofTexts [] [] []).convertTwice name.text = .ok (joinWords name.text) := by
    rw [convertTwice, first]
    exact second
  unfold NamingRules.normalize
  rw [String.toList_ofList, name.text_filled, if_neg Bool.false_ne_true, twice,
    ← joinWords_text]
  rfl

end SmallName

theorem unescaped_ofTexts {acronyms : List String} (plain : ∀ a ∈ acronyms, '\\' ∉ a.toList)
    (suffixWords : List String) (overrides : List (String × String)) :
    (ofTexts acronyms suffixWords overrides).Unescaped := by
  intro s listed
  obtain ⟨a, member, same⟩ := List.mem_map.1 listed
  cases same
  exact plain _ member

theorem single_case_normalized {acronyms : List String} (plain : ∀ a ∈ acronyms, '\\' ∉ a.toList)
    (suffixWords : List String) {name : String} (ascii : Ascii name.toList) : ∃ fixed,
      (ofTexts acronyms suffixWords []).normalize (upper name) false = .ok fixed ∧
      (ofTexts acronyms suffixWords []).normalize (lower name) false = .ok fixed := by
  have unescaped := unescaped_ofTexts plain suffixWords []
  have fails := normalize_fails (texts_ofTexts acronyms suffixWords []) (lower name) false
  obtain ⟨fixed, found⟩ := succeeds_iff.2 (fails.imp fun f refused => by
    obtain ⟨a, own, _⟩ := refused
    exact not_refused unescaped a own)
  exact ⟨fixed, (normalize_of_single_case rfl ascii).trans found, found⟩

/-- A name in capitals has the fixed name of the name in small letters. Without acronyms and suffix
words, the fixed name of a name in small letters is its tokens, each with its first letter
capital. -/
theorem single_case_names :
    (∀ acronyms suffixWords : List String, (∀ a ∈ acronyms, '\\' ∉ a.toList) →
      ∀ name : String, Ascii name.toList → ∃ fixed,
        (ofTexts acronyms suffixWords []).normalize (upper name) false = .ok fixed ∧
        (ofTexts acronyms suffixWords []).normalize (lower name) false = .ok fixed) ∧
    ∀ name : SmallName, (ofTexts [] [] []).normalize (.ofList name.text) false =
      .ok (.str (.ofList (name.tokens.flatMap capitalized))) := by
  constructor
  · intro acronyms suffixWords plain name ascii
    exact single_case_normalized plain suffixWords ascii
  · intro name
    exact name.normalize_text

def orderLine : SmallName where
  lead := ['_']
  first := ['o', 'r', 'd', 'e', 'r']
  pieces := [(['-'], ['l', 'i', 'n', 'e']), (['_', ' '], ['7', 'x'])]
  trail := [' ']
  lead_separates := by simp [isSeparator]
  runs_separate := by simp [isSeparator, isBlank]
  trail_separates := by simp [isSeparator, isBlank]
  tokens_small := by simp
  begins := ⟨'o', 'r', ['d', 'e', 'r'], by decide⟩

theorem order_line_named :
    (∃ fixed, (ofTexts ["TMS"] ["Doc"] []).normalize (upper "tms_Order-2 doc") false = .ok fixed ∧
      (ofTexts ["TMS"] ["Doc"] []).normalize (lower "tms_Order-2 doc") false = .ok fixed) ∧
    (ofTexts [] [] []).normalize "_order-line_ 7x " false = .ok (.str "OrderLine7x") :=
  ⟨single_case_names.1 ["TMS"] ["Doc"] (by decide) "tms_Order-2 doc" (by decide),
    single_case_names.2 orderLine⟩

end EntityScaffold.Naming
