import EntityScaffold.Json.Printer
import EntityScaffold.Json.Reader
import Mathlib.Data.List.Nodup
import Mathlib.Tactic.SplitIfs

/-!
Reading undoes writing. What is written for a value without numbers is read back as that value,
however deep it is and whatever characters its texts have.
-/
namespace EntityScaffold.Json

section strings

def UnitFollows (cs : List Char) : Prop :=
  ∃ e f g h rest, cs = '\\' :: 'u' :: e :: f :: g :: h :: rest

theorem readString_no_unit {a b c d : Char} (unit : hexUnit? a b c d = none) (cs : List Char) :
    readString ('\\' :: 'u' :: a :: b :: c :: d :: cs) = none := by
  by_cases follows : UnitFollows cs
  · obtain ⟨e, f, g, h, rest, rfl⟩ := follows
    rw [readString, unit]
  · rw [readString, unit]
    exact fun e f g h rest same => follows ⟨e, f, g, h, rest, same⟩

theorem readString_unit {a b c d : Char} {n : Nat} (unit : hexUnit? a b c d = some n)
    (single : isHighUnit n = false) (cs : List Char) :
    readString ('\\' :: 'u' :: a :: b :: c :: d :: cs) =
      (readString cs).map (consFirst (singleUnit n)) := by
  by_cases follows : UnitFollows cs
  -- two units are looked at together, and the first is set aside only after the second is read
  · obtain ⟨e, f, g, h, rest, rfl⟩ := follows
    rw [readString, unit]
    cases next : hexUnit? e f g h with
    | none => rw [readString_no_unit next]; rfl
    | some m => simp only [single, Bool.false_and, Bool.false_eq_true, ↓reduceIte]
  · rw [readString, unit]
    exact fun e f g h rest same => follows ⟨e, f, g, h, rest, same⟩

theorem control_unit : ∀ n < 32,
    hexUnit? (Text.hexDigit (n / 16 / 16 / 16 % 16)) (Text.hexDigit (n / 16 / 16 % 16))
        (Text.hexDigit (n / 16 % 16)) (Text.hexDigit (n % 16)) = some n ∧
      isHighUnit n = false ∧ isLowUnit n = false := by decide

theorem readString_letter {c l : Char} (letter : escapedLetter? c = some l) (plain : c ≠ 'u')
    (cs : List Char) : readString ('\\' :: c :: cs) = (readString cs).map (consFirst l) := by
  rw [readString, letter]
  · exact fun _ _ _ _ _ _ _ _ _ same => absurd same plain
  · exact fun _ _ _ _ _ same => absurd same plain

theorem readString_plain {c : Char} (quote : c ≠ '\x22') (escape : c ≠ '\\')
    (shown : ¬ c.toNat < 32) (cs : List Char) :
    readString (c :: cs) = (readString cs).map (consFirst c) := by
  rw [readString, if_neg shown]
  · exact quote
  · exact fun _ _ _ _ _ _ _ _ _ same => absurd same escape
  · exact fun _ _ _ _ _ same => absurd same escape
  · exact fun _ _ same => absurd same escape

theorem readString_escapedChar (c : Char) (cs : List Char) :
    readString (escapedChar c ++ cs) = (readString cs).map (consFirst c) := by
  unfold escapedChar
  split_ifs with quote escape line carriage tab back feed control
  -- each letter after a backslash stands for the one character that is written with it
  any_goals
    subst_vars
    exact readString_letter rfl (by decide) cs
  · obtain ⟨unit, high, low⟩ := control_unit c.toNat control
    have single : singleUnit c.toNat = c := by simp [singleUnit, high, low]
    exact (readString_unit unit high cs).trans (by rw [single])
  · exact readString_plain quote escape control cs

theorem readString_escaped (s rest : List Char) :
    readString (s.flatMap escapedChar ++ '\x22' :: rest) = some (s, rest) := by
  induction s with
  | nil => exact readString.eq_2 rest
  | cons c s ih =>
    rw [List.flatMap_cons, List.append_assoc, readString_escapedChar, ih]
    rfl

end strings

/-- Values that hold no number, and whose objects hold each name once. -/
inductive Textual : Json → Prop
  | null : Textual .null
  | bool (b : Bool) : Textual (.bool b)
  | str (s : String) : Textual (.str s)
  | arr {items : List Json} (each : ∀ j ∈ items, Textual j) : Textual (.arr items)
  | obj {fields : List (String × Json)} (once : (fields.map Prod.fst).Nodup)
      (each : ∀ f ∈ fields, Textual f.2) : Textual (.obj fields)

section written

theorem toList_stringText (s : String) :
    (stringText s).toList = '\x22' :: (s.toList.flatMap escapedChar ++ ['\x22']) :=
  String.toList_ofList

theorem toList_indent (level : Nat) :
    (indent level).toList = '\n' :: List.replicate (2 * level) ' ' := by
  rw [indent, String.toList_append, String.toList_ofList, String.toList_ofList]
  rfl

theorem skipSpace_indent (level : Nat) (cs : List Char) :
    skipSpace ((indent level).toList ++ cs) = skipSpace cs := by
  have blanks (n : Nat) : skipSpace (List.replicate n ' ' ++ cs) = skipSpace cs := by
    induction n with
    | zero => rfl
    | succ n ih => exact ih
  rw [toList_indent]
  exact blanks (2 * level)

theorem skipSpace_of_ne {c : Char} (shown : isSpace c = false) (cs : List Char) :
    skipSpace (c :: cs) = c :: cs := by
  rw [skipSpace, List.dropWhile_cons_of_neg (by simp [shown])]

theorem skipSpace_stringText (s : String) (cs : List Char) :
    skipSpace ((stringText s).toList ++ cs) = (stringText s).toList ++ cs := by
  rw [toList_stringText]
  exact skipSpace_of_ne (by decide) _

theorem pretty_null (level : Nat) : pretty level .null = "null" := by simp [pretty, scalarText]

theorem pretty_false (level : Nat) : pretty level (.bool false) = "false" := by
  simp [pretty, scalarText]

theorem pretty_true (level : Nat) : pretty level (.bool true) = "true" := by
  simp [pretty, scalarText]

theorem pretty_noItems (level : Nat) : pretty level (.arr []) = "[]" := by
  simp [pretty, scalarText]

theorem pretty_noFields (level : Nat) : pretty level (.obj []) = "\x7b\x7d" := by
  simp [pretty, scalarText]

theorem toList_pretty_str (level : Nat) (s : String) :
    (pretty level (.str s)).toList = '\x22' :: (s.toList.flatMap escapedChar ++ ['\x22']) :=
  toList_stringText s

theorem toList_pretty_arr (level : Nat) (j : Json) (rest : List Json) (tail : List Char) :
    (pretty level (.arr (j :: rest))).toList ++ tail =
      '[' :: ((indent (level + 1)).toList ++ ((pretty (level + 1) j).toList ++
        ((prettyItems (level + 1) rest).toList ++ ((indent level).toList ++ ']' :: tail)))) := by
  rw [pretty]
  simp only [String.toList_append, List.append_assoc]
  rfl

theorem toList_pretty_obj (level : Nat) (name : String) (j : Json) (rest : List (String × Json))
    (tail : List Char) :
    (pretty level (.obj ((name, j) :: rest))).toList ++ tail =
      '\x7b' :: ((indent (level + 1)).toList ++ ((stringText name).toList ++ ':' :: ' ' ::
        ((pretty (level + 1) j).toList ++ ((prettyFields (level + 1) rest).toList ++
          ((indent level).toList ++ '\x7d' :: tail))))) := by
  rw [pretty]
  simp only [String.toList_append, List.append_assoc]
  rfl

theorem toList_prettyItems (level : Nat) (j : Json) (rest : List Json) :
    (prettyItems level (j :: rest)).toList =
      ',' :: ((indent level).toList ++ ((pretty level j).toList ++
        (prettyItems level rest).toList)) := by
  rw [prettyItems]
  simp only [String.toList_append, List.append_assoc]
  rfl

theorem toList_prettyFields (level : Nat) (name : String) (j : Json)
    (rest : List (String × Json)) :
    (prettyFields level ((name, j) :: rest)).toList =
      ',' :: ((indent level).toList ++ ((stringText name).toList ++ ':' :: ' ' ::
        ((pretty level j).toList ++ (prettyFields level rest).toList))) := by
  rw [prettyFields]
  simp only [String.toList_append, List.append_assoc]
  rfl

theorem pretty_opens {j : Json} (textual : Textual j) (level : Nat) (tail : List Char) :
    ∃ c cs, (pretty level j).toList ++ tail = c :: cs ∧ isSpace c = false ∧ c ≠ ']' := by
  cases textual with
  | null =>
    rw [pretty_null]
    exact ⟨'n', _, rfl, by decide, by decide⟩
  | bool b =>
    cases b with
    | false =>
      rw [pretty_false]
      exact ⟨'f', _, rfl, by decide, by decide⟩
    | true =>
      rw [pretty_true]
      exact ⟨'t', _, rfl, by decide, by decide⟩
  | str s =>
    rw [toList_pretty_str]
    exact ⟨'\x22', _, rfl, by decide, by decide⟩
  | @arr items each =>
    cases items with
    | nil =>
      rw [pretty_noItems]
      exact ⟨'[', _, rfl, by decide, by decide⟩
    | cons j rest => exact ⟨'[', _, toList_pretty_arr level j rest tail, by decide, by decide⟩
  | @obj fields once each =>
    cases fields with
    | nil =>
      rw [pretty_noFields]
      exact ⟨'\x7b', _, rfl, by decide, by decide⟩
    | cons f rest =>
      exact ⟨'\x7b', _, toList_pretty_obj level f.1 f.2 rest tail, by decide, by decide⟩

theorem skipSpace_pretty {j : Json} (textual : Textual j) (level : Nat) (tail : List Char) :
    skipSpace ((pretty level j).toList ++ tail) = (pretty level j).toList ++ tail := by
  obtain ⟨c, cs, opens, shown, _⟩ := pretty_opens textual level tail
  rw [opens, skipSpace_of_ne shown]

end written

section values

/-- What is written for a value is read back, whatever follows it, where its length bounds the
depth. -/
def ReadsBack (j : Json) : Prop := ∀ (depth level : Nat) (tail : List Char),
  (pretty level j).toList.length < depth →
    readValue depth ((pretty level j).toList ++ tail) = .ok (j, tail)

theorem readValue_scalar (depth : Nat) {c : Char} (array : c ≠ '[') (object : c ≠ '\x7b')
    (cs : List Char) : readValue (depth + 1) (c :: cs) = readScalar (c :: cs) := by
  rw [readValue]
  · exact fun rest same => array (List.cons.inj same).1
  · exact fun rest same => object (List.cons.inj same).1

theorem readsBack_null : ReadsBack .null := by
  intro depth level tail bound
  rw [pretty_null] at bound ⊢
  obtain ⟨depth, rfl⟩ := Nat.exists_eq_add_of_lt bound
  exact readValue_scalar _ (by decide) (by decide) _

theorem readsBack_bool (b : Bool) : ReadsBack (.bool b) := by
  intro depth level tail bound
  cases b with
  | false =>
    rw [pretty_false] at bound ⊢
    obtain ⟨depth, rfl⟩ := Nat.exists_eq_add_of_lt bound
    exact readValue_scalar _ (by decide) (by decide) _
  | true =>
    rw [pretty_true] at bound ⊢
    obtain ⟨depth, rfl⟩ := Nat.exists_eq_add_of_lt bound
    exact readValue_scalar _ (by decide) (by decide) _

theorem readsBack_str (s : String) : ReadsBack (.str s) := by
  intro depth level tail bound
  obtain ⟨depth, rfl⟩ : ∃ d, depth = d + 1 := ⟨depth - 1, by omega⟩
  have noWord (cs : List Char) : readWord ('\x22' :: cs) = none := rfl
  rw [toList_pretty_str, List.cons_append, List.append_assoc,
    readValue_scalar depth (by decide) (by decide), readScalar, noWord]
  simp only [List.singleton_append, readString_escaped, String.ofList_toList]

theorem readItems_pretty {j : Json} {rest : List Json} (textual : ∀ i ∈ j :: rest, Textual i)
    (reads : ∀ i ∈ j :: rest, ReadsBack i) (level : Nat) (done : List Json)
    {close tail : List Char} (closes : skipSpace close = ']' :: tail) (depth : Nat)
    (bound : (pretty level j).toList.length + (prettyItems level rest).toList.length + 1 < depth) :
    readItems depth done
        ((pretty level j).toList ++ ((prettyItems level rest).toList ++ close)) =
      .ok (done.reverse ++ j :: rest, tail) := by
  -- an item takes up one of the depth and, with its comma, more than one of the length
  induction rest generalizing j done depth with
  | nil =>
    obtain ⟨depth, rfl⟩ : ∃ d, depth = d + 1 := ⟨depth - 1, by omega⟩
    have own : readValue depth ((pretty level j).toList ++ close) = .ok (j, close) :=
      reads j (by simp) depth level close (by omega)
    have empty : (prettyItems level []).toList = [] := rfl
    rw [readItems, empty, List.nil_append, own]
    simp only [closes, List.reverse_cons]
  | cons i rest ih =>
    obtain ⟨depth, rfl⟩ : ∃ d, depth = d + 1 := ⟨depth - 1, by omega⟩
    rw [toList_prettyItems] at bound ⊢
    simp only [List.cons_append, List.append_assoc, List.length_cons, List.length_append]
      at bound ⊢
    have own := fun tail => reads j (by simp) depth level tail (by omega)
    have others := ih (j := i) (fun k member => textual k (List.mem_cons_of_mem j member))
      (fun k member => reads k (List.mem_cons_of_mem j member)) (j :: done) depth
      (by omega)
    rw [List.reverse_cons, List.append_assoc] at others
    rw [readItems, own]
    simp only [skipSpace_of_ne (show isSpace ',' = false by decide), skipSpace_indent,
      skipSpace_pretty (textual i (by simp)), others, List.singleton_append]

theorem putField_new {name : String} {fields : List (String × Json)}
    (fresh : name ∉ fields.map Prod.fst) (j : Json) :
    putField name j fields = fields ++ [(name, j)] := by
  induction fields with
  | nil => rfl
  | cons f rest ih =>
    simp only [List.map_cons, List.mem_cons, not_or] at fresh
    rw [putField, if_neg (Ne.symm fresh.1), ih fresh.2, List.cons_append]

theorem fresh_name {name : String} {j : Json} {done rest : List (String × Json)}
    (once : ((done ++ (name, j) :: rest).map Prod.fst).Nodup) : name ∉ done.map Prod.fst := by
  rw [List.map_append] at once
  exact fun listed => List.disjoint_of_nodup_append once listed (by simp)

section member

variable {depth : Nat} {done : List (String × Json)} {j : Json} {value rest more : List Char}

theorem toList_member (name : String) (value : List Char) :
    (stringText name).toList ++ ':' :: ' ' :: value =
      '\x22' :: (name.toList.flatMap escapedChar ++ '\x22' :: ':' :: ' ' :: value) := by
  rw [toList_stringText, List.cons_append, List.append_assoc]
  rfl

theorem skipSpace_blank (value : List Char) : skipSpace (' ' :: value) = skipSpace value := rfl

theorem readFields_next (name : String) (starts : skipSpace value = value)
    (read : readValue depth value = .ok (j, rest)) (after : skipSpace rest = ',' :: more) :
    readFields (depth + 1) done ((stringText name).toList ++ ':' :: ' ' :: value) =
      readFields depth (putField name j done) (skipSpace more) := by
  rw [toList_member, readFields, readString_escaped]
  simp only [skipSpace_of_ne (show isSpace ':' = false by decide), skipSpace_blank, starts, read,
    after, String.ofList_toList]

theorem readFields_last (name : String) (starts : skipSpace value = value)
    (read : readValue depth value = .ok (j, rest)) (after : skipSpace rest = '\x7d' :: more) :
    readFields (depth + 1) done ((stringText name).toList ++ ':' :: ' ' :: value) =
      .ok (putField name j done, more) := by
  rw [toList_member, readFields, readString_escaped]
  simp only [skipSpace_of_ne (show isSpace ':' = false by decide), skipSpace_blank, starts, read,
    after, String.ofList_toList]

end member

theorem readFields_pretty {name : String} {j : Json} {rest : List (String × Json)}
    (textual : ∀ f ∈ (name, j) :: rest, Textual f.2)
    (reads : ∀ f ∈ (name, j) :: rest, ReadsBack f.2) (level : Nat) (done : List (String × Json))
    (once : ((done ++ (name, j) :: rest).map Prod.fst).Nodup) {close tail : List Char}
    (closes : skipSpace close = '\x7d' :: tail) (depth : Nat)
    (bound : (pretty level j).toList.length + (prettyFields level rest).toList.length + 1 < depth) :
    readFields depth done ((stringText name).toList ++ ':' :: ' ' ::
        ((pretty level j).toList ++ ((prettyFields level rest).toList ++ close))) =
      .ok (done ++ (name, j) :: rest, tail) := by
  induction rest generalizing name j done depth with
  | nil =>
    obtain ⟨depth, rfl⟩ : ∃ d, depth = d + 1 := ⟨depth - 1, by omega⟩
    have own : readValue depth ((pretty level j).toList ++ close) = .ok (j, close) :=
      reads (name, j) (by simp) depth level close (by dsimp only; omega)
    have starts := skipSpace_pretty (textual (name, j) (by simp)) level close
    have empty : (prettyFields level []).toList = [] := rfl
    rw [empty, List.nil_append, readFields_last name starts own closes,
      putField_new (fresh_name once)]
  | cons f rest ih =>
    obtain ⟨next, i⟩ := f
    obtain ⟨depth, rfl⟩ : ∃ d, depth = d + 1 := ⟨depth - 1, by omega⟩
    rw [toList_prettyFields] at bound ⊢
    simp only [List.cons_append, List.append_assoc, List.length_cons, List.length_append]
      at bound ⊢
    have own := fun tail => reads (name, j) (by simp) depth level tail (by dsimp only; omega)
    have others := ih (fun f member => textual f (List.mem_cons_of_mem _ member))
      (fun f member => reads f (List.mem_cons_of_mem _ member)) (done ++ [(name, j)])
      (by simpa using once) depth (by omega)
    have starts := fun tail => skipSpace_pretty (textual (name, j) (by simp)) level tail
    rw [readFields_next name (starts _) (own _) (skipSpace_of_ne (by decide) _),
      putField_new (fresh_name once)]
    simp only [skipSpace_indent, skipSpace_stringText, others, List.append_assoc,
      List.singleton_append]

theorem readsBack_arr {items : List Json} (textual : ∀ j ∈ items, Textual j)
    (reads : ∀ j ∈ items, ReadsBack j) : ReadsBack (.arr items) := by
  intro depth level tail bound
  obtain ⟨depth, rfl⟩ : ∃ d, depth = d + 1 := ⟨depth - 1, by omega⟩
  cases items with
  | nil =>
    rw [pretty_noItems]
    exact readValue.eq_2 depth _
  | cons j rest =>
    have text := toList_pretty_arr level j rest
    have whole := congrArg List.length (text [])
    simp only [List.length_append, List.length_cons, List.append_nil] at whole
    have closes : skipSpace ((indent level).toList ++ ']' :: tail) = ']' :: tail := by
      rw [skipSpace_indent, skipSpace_of_ne (by decide)]
    have items := readItems_pretty textual reads (level + 1) [] closes depth (by omega)
    obtain ⟨c, cs, opens, _, array⟩ := pretty_opens (textual j (by simp)) (level + 1)
      ((prettyItems (level + 1) rest).toList ++ ((indent level).toList ++ ']' :: tail))
    rw [opens] at items
    rw [text tail, readValue, skipSpace_indent, skipSpace_pretty (textual j (by simp)), opens]
    split
    · rename_i same
      exact absurd (List.cons.inj same).1 array
    · rw [items]
      rfl

theorem readsBack_obj {fields : List (String × Json)} (once : (fields.map Prod.fst).Nodup)
    (textual : ∀ f ∈ fields, Textual f.2) (reads : ∀ f ∈ fields, ReadsBack f.2) :
    ReadsBack (.obj fields) := by
  intro depth level tail bound
  obtain ⟨depth, rfl⟩ : ∃ d, depth = d + 1 := ⟨depth - 1, by omega⟩
  cases fields with
  | nil =>
    rw [pretty_noFields]
    exact readValue.eq_3 depth _
  | cons f rest =>
    obtain ⟨name, j⟩ := f
    have text := toList_pretty_obj level name j rest
    have whole := congrArg List.length (text [])
    simp only [List.length_append, List.length_cons, List.append_nil] at whole
    have closes : skipSpace ((indent level).toList ++ '\x7d' :: tail) = '\x7d' :: tail := by
      rw [skipSpace_indent, skipSpace_of_ne (by decide)]
    have fields := readFields_pretty textual reads (level + 1) [] once closes depth
      (by omega)
    rw [toList_stringText] at fields
    rw [text tail, readValue, skipSpace_indent, skipSpace_stringText, toList_stringText]
    split
    · rename_i same
      exact absurd (List.cons.inj same).1 (by decide)
    · rw [fields]
      rfl

theorem readsBack {j : Json} (textual : Textual j) : ReadsBack j := by
  induction textual with
  | null => exact readsBack_null
  | bool b => exact readsBack_bool b
  | str s => exact readsBack_str s
  | arr each ih => exact readsBack_arr each ih
  | obj once each ih => exact readsBack_obj once each ih

/-- Reading a text that was written for a value gives that value. -/
theorem parse_pretty {j : Json} (textual : Textual j) : parse (j.pretty 0) = .ok j := by
  have starts : skipSpace (j.pretty 0).toList = (j.pretty 0).toList := by
    simpa using skipSpace_pretty textual 0 []
  have read := readsBack textual ((j.pretty 0).toList.length + 1) 0 [] (Nat.lt_succ_self _)
  rw [List.append_nil] at read
  rw [parse, starts, read]
  rfl

end values

end EntityScaffold.Json
