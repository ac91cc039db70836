import EntityScaffold.Proofs.Source.Literals
import Mathlib.Algebra.Ring.Parity
import Mathlib.Data.List.DropRight

/-!
Where literals end. A mark is escaped where the run of backslashes before it is odd, and a literal
ends at the first mark behind its opening that is not. In a literal that was written for a text this
is the last character, whatever the text has in it and whatever follows the literal.
-/
namespace EntityScaffold.Source

/-- A text with a backslash before every occurrence of a character. -/
def escaping (special : Char) (cs : List Char) : List Char :=
  cs.flatMap fun c => if c = special then ['\\', c] else [c]

/-- A literal is written in two passes, the backslashes first: the pass over the marks brings in
backslashes of its own, and these are not escaped again. -/
theorem literalChars_eq_escaping (cs : List Char) :
    literalChars cs = literalMark :: escaping literalMark (escaping '\\' cs) ++ [literalMark] := by
  have each (c : Char) :
      escaping literalMark (if c = '\\' then ['\\', c] else [c]) = literalChar c := by
    by_cases escapes : c = '\\'
    · subst escapes
      rfl
    by_cases marks : c = literalMark
    · subst marks
      rfl
    rw [if_neg escapes, literalChar, if_neg (not_or.2 ⟨escapes, marks⟩)]
    simp [escaping, marks]
  have passes : escaping literalMark (escaping '\\' cs) = cs.flatMap literalChar := by
    rw [escaping, escaping, List.flatMap_assoc]
    exact congrArg (List.flatMap · cs) (funext each)
  rw [literalChars, passes]

-- The other way round, a mark becomes two backslashes and a mark, and its literal ends early.
example : readLiteral [literalMark, '\\', '\\', literalMark, literalMark] =
    some (['\\'], [literalMark]) := by decide

section escapes

def endingBackslashes (cs : List Char) : Nat := (cs.rtakeWhile (· == '\\')).length

/-- Whether the character behind a text is escaped, where the first of the text is `escaped`. -/
def escapesNext (escaped : Bool) : List Char → Bool
  | [] => escaped
  | c :: cs => escapesNext (!escaped && c == '\\') cs

theorem escapesNext_append_singleton (escaped : Bool) (cs : List Char) (c : Char) :
    escapesNext escaped (cs ++ [c]) = (!escapesNext escaped cs && c == '\\') := by
  induction cs generalizing escaped with
  | nil => rfl
  | cons d cs ih => exact ih _

theorem escapesNext_iff_odd (cs : List Char) :
    escapesNext false cs = true ↔ Odd (endingBackslashes cs) := by
  induction cs using List.reverseRecOn with
  | nil => simp [escapesNext, endingBackslashes]
  | append_singleton cs c ih =>
    rw [escapesNext_append_singleton, endingBackslashes]
    by_cases escapes : c = '\\'
    · subst escapes
      rw [List.rtakeWhile_concat_pos _ _ _ (by rfl), List.length_append, List.length_singleton,
        Nat.odd_add_one, ← endingBackslashes, ← ih]
      simp
    · rw [List.rtakeWhile_concat_neg _ _ _ (by simpa using escapes)]
      simp [escapes]

end escapes

section readings

variable {escaped : Bool} {c : Char} {body text value rest : List Char}

def MarksEscaped (escaped : Bool) (body : List Char) : Prop :=
  ∀ before after, body = before ++ literalMark :: after → escapesNext escaped before = true

theorem MarksEscaped.cons (first : c = literalMark → escaped = true)
    (later : MarksEscaped (!escaped && c == '\\') body) : MarksEscaped escaped (c :: body) := by
  intro before after same
  cases before with
  | nil => exact first (List.cons.inj same).1
  | cons d before =>
    obtain ⟨rfl, others⟩ := List.cons.inj same
    exact later before after others

/-- How a value is spelt inside a literal: the marks in the spelling are escaped, the one behind it
is not, and there the reading stops, whatever comes next. -/
structure Spells (escaped : Bool) (body value : List Char) : Prop where
  marks : MarksEscaped escaped body
  closes : escapesNext escaped body = false
  reads : ∀ rest, scanLiteral escaped (body ++ literalMark :: rest) = some (value, rest)

theorem Spells.nil : Spells false [] [] where
  marks := by simp [MarksEscaped]
  closes := rfl
  reads := scanLiteral_mark

theorem Spells.afterBackslash (later : Spells false body value) (c : Char) :
    Spells true (c :: body) (c :: value) where
  marks := later.marks.cons fun _ => rfl
  closes := later.closes
  reads := by
    intro rest
    rw [List.cons_append, scanLiteral, if_pos rfl, later.reads]
    rfl

theorem Spells.backslash (later : Spells true body value) : Spells false ('\\' :: body) value where
  marks := MarksEscaped.cons (fun mark => absurd mark (by decide)) later.marks
  closes := later.closes
  reads := later.reads

theorem Spells.plain (unmarked : c ≠ literalMark) (unescaped : c ≠ '\\')
    (later : Spells false body value) : Spells false (c :: body) (c :: value) := by
  have next : (!false && c == '\\') = false := by simpa using unescaped
  constructor
  case marks =>
    apply MarksEscaped.cons (fun mark => absurd mark unmarked)
    rw [next]
    exact later.marks
  case closes =>
    rw [escapesNext, next]
    exact later.closes
  case reads =>
    intro rest
    rw [List.cons_append, scanLiteral_plain unmarked unescaped, later.reads]
    rfl

theorem exists_spelling (read : scanLiteral escaped text = some (value, rest)) :
    ∃ body, text = body ++ literalMark :: rest ∧ Spells escaped body value := by
  induction text generalizing escaped value with
  | nil => cases read
  | cons c text ih =>
    cases escaped with
    | true =>
      obtain ⟨read, found, same⟩ := Option.map_eq_some_iff.1 read
      cases same
      obtain ⟨body, rfl, spelling⟩ := ih found
      exact ⟨c :: body, rfl, spelling.afterBackslash c⟩
    | false =>
      by_cases marks : c = literalMark
      · subst marks
        cases read
        exact ⟨[], rfl, Spells.nil⟩
      by_cases escapes : c = '\\'
      · subst escapes
        obtain ⟨body, rfl, spelling⟩ := ih read
        exact ⟨'\\' :: body, rfl, spelling.backslash⟩
      · rw [scanLiteral_plain marks escapes] at read
        obtain ⟨read, found, same⟩ := Option.map_eq_some_iff.1 read
        cases same
        obtain ⟨body, rfl, spelling⟩ := ih found
        exact ⟨c :: body, rfl, spelling.plain marks escapes⟩

theorem Spells.readLiteral (spelling : Spells false body value) (rest : List Char) :
    readLiteral (literalMark :: body ++ literalMark :: rest) = some (value, rest) :=
  spelling.reads rest

theorem exists_spelling_of_readLiteral (read : readLiteral text = some (value, rest)) :
    ∃ body, text = literalMark :: body ++ literalMark :: rest ∧ Spells false body value := by
  cases text with
  | nil => cases read
  | cons c text =>
    rw [readLiteral] at read
    split at read
    · rename_i opens
      subst opens
      obtain ⟨body, rfl, spelling⟩ := exists_spelling read
      exact ⟨body, rfl, spelling⟩
    · cases read

/-- What is read does not hang on what stands behind the closing mark. -/
theorem readLiteral_append (read : readLiteral text = some (value, rest)) (more : List Char) :
    readLiteral (text ++ more) = some (value, rest ++ more) := by
  obtain ⟨body, rfl, spelling⟩ := exists_spelling_of_readLiteral read
  rw [List.append_assoc, List.cons_append]
  exact spelling.readLiteral (rest ++ more)

theorem readLiteral_take_isSome_iff (read : readLiteral text = some (value, rest)) (n : Nat) :
    (readLiteral (text.take n)).isSome ↔ text.length ≤ n + rest.length := by
  constructor
  · intro short
    obtain ⟨⟨early, left⟩, found⟩ := Option.isSome_iff_exists.1 short
    have whole := readLiteral_append found (text.drop n)
    rw [List.take_append_drop, read] at whole
    cases whole
    rw [List.length_append, List.length_drop]
    omega
  · intro long
    obtain ⟨body, rfl, spelling⟩ := exists_spelling_of_readLiteral read
    rw [List.append_cons, List.length_append, Nat.add_le_add_iff_right] at long
    rw [List.append_cons, List.take_append, List.take_of_length_le long, ← List.append_cons,
      spelling.readLiteral]
    rfl

end readings

section written

/-- A mark at which a literal can end: it stands behind the opening one, after an even run of
backslashes. -/
def ClosesAt (text before after : List Char) : Prop :=
  text = literalMark :: before ++ literalMark :: after ∧ Even (endingBackslashes before)

theorem Spells.closesAt_iff {body value : List Char} (spelling : Spells false body value)
    (before after : List Char) :
    ClosesAt (literalMark :: body ++ [literalMark]) before after ↔ body = before ∧ after = [] := by
  constructor
  · rintro ⟨same, even⟩
    have inside : body ++ [literalMark] = before ++ literalMark :: after := (List.cons.inj same).2
    cases after using List.reverseRecOn with
    | nil => exact ⟨(List.append_inj' inside rfl).1, rfl⟩
    | append_singleton after c =>
      -- The mark is one of those in the body, and they are all escaped.
      rw [← List.cons_append, ← List.append_assoc] at inside
      have escaped := spelling.marks before after (List.append_inj' inside rfl).1
      exact absurd even (Nat.not_even_iff_odd.2 ((escapesNext_iff_odd before).1 escaped))
  · rintro ⟨rfl, rfl⟩
    refine ⟨rfl, Nat.not_odd_iff_even.1 fun odd => ?_⟩
    have escaped := (escapesNext_iff_odd body).2 odd
    rw [spelling.closes] at escaped
    cases escaped

theorem spells_literalChars (cs : List Char) : Spells false (cs.flatMap literalChar) cs := by
  have read := readLiteral_literalChars cs []
  obtain ⟨body, same, spelling⟩ := exists_spelling_of_readLiteral read
  rw [List.append_nil] at same
  rwa [(List.append_inj' (List.cons.inj same).2 rfl).1]

/-- A way of writing texts as literals that show where they end, whatever follows them. -/
structure SelfDelimiting (write : String → String) : Prop where
  /-- Read from its opening mark, a literal gives its text back and leaves what follows it. -/
  reads (v rest : String) : readLiteral (write v ++ rest).toList = some (v.toList, rest.toList)
  /-- A beginning reads just when it has the whole literal in it. -/
  stops (v rest : String) (n : Nat) :
    (readLiteral ((write v ++ rest).toList.take n)).isSome ↔ (write v).length ≤ n
  /-- Of the marks behind the opening one, only the last character is not escaped. -/
  closes (v : String) (before after : List Char) :
    ClosesAt (write v).toList before after ↔
      (write v).toList = literalMark :: before ++ [literalMark] ∧ after = []
  /-- Different texts have different literals. -/
  distinct : Function.Injective write

theorem toList_literal (v : String) : (literal v).toList = literalChars v.toList :=
  String.toList_ofList

theorem readLiteral_literal (v rest : String) :
    readLiteral (literal v ++ rest).toList = some (v.toList, rest.toList) := by
  rw [String.toList_append, toList_literal, readLiteral_literalChars]

theorem literal_injective : Function.Injective literal := by
  intro v w same
  have read := readLiteral_literal v ""
  rw [same, readLiteral_literal w ""] at read
  obtain ⟨texts, _⟩ := Prod.mk.inj (Option.some.inj read)
  exact String.toList_inj.1 texts.symm

/-- A literal is its text with the backslashes and then the marks escaped, between two marks. It
reads back as its text and ends at its last character, whatever follows it. -/
theorem literal_delimits_itself :
    (∀ v, (literal v).toList =
      literalMark :: escaping literalMark (escaping '\\' v.toList) ++ [literalMark]) ∧
    SelfDelimiting literal := by
  constructor
  · intro v
    rw [toList_literal, literalChars_eq_escaping]
  constructor
  case reads => exact readLiteral_literal
  case stops =>
    intro v rest n
    rw [readLiteral_take_isSome_iff (readLiteral_literal v rest), String.toList_append,
      List.length_append, String.length_toList, Nat.add_le_add_iff_right]
  case closes =>
    intro v before after
    rw [toList_literal, literalChars, (spells_literalChars v.toList).closesAt_iff]
    simp
  case distinct => exact literal_injective

end written

end EntityScaffold.Source
