import EntityScaffold.Naming.Normalizer
import EntityScaffold.Proofs.Lists
import EntityScaffold.Proofs.Naming.Words

/-!
Capitals in names. An acronym of ASCII characters raises the letters where it stands, and where it
stands does not depend on the case of the name, so several acronyms raise letters together at places
that do not depend on it either. A suffix word of ASCII characters lifts small letters at the end of
a name, and finds nothing more to lift in what it has made, however many more are lifted there.
-/
namespace EntityScaffold.Naming
open Text NamingRules

/-- The capital of the small ASCII letter that a character matches, case apart; any other character
is left alone. -/
def capital (c : Char) : Char := if (foldCase c).isLower then (foldCase c).toUpper else c

def raiseAt : List Bool → List Char → List Char
  | [], cs => cs
  | _ :: _, [] => []
  | true :: places, c :: cs => capital c :: raiseAt places cs
  | false :: places, c :: cs => c :: raiseAt places cs

/-- A step that raises letters, and the same ones in texts that differ in case only. -/
def Raises (raise : List Char → List Char) : Prop :=
  ∀ cs ds, cs.map foldCase = ds.map foldCase →
    ∃ places, raise cs = raiseAt places cs ∧ raise ds = raiseAt places ds

/-- A letter that is the same as another or, where that is a small ASCII letter, its capital. -/
def Lifts (c d : Char) : Prop := d = c ∨ (c.isLower = true ∧ d = c.toUpper)

/-- A step that lifts letters, with nothing left to do however many more are lifted. -/
def Settles (settle : List Char → List Char) : Prop :=
  ∀ cs, List.Forall₂ Lifts cs (settle cs) ∧
    ∀ ds, List.Forall₂ Lifts (settle cs) ds → settle ds = ds

def Recased (c d : Char) : Prop := d = c ∨ d = capital c

section letters

variable {c d e : Char}

theorem raised_ascii (small : c.isLower = true) : c.toUpper.toNat < 128 :=
  (small_forms small).upper_ascii

theorem toUpper_not_lower (small : c.isLower = true) : c.toUpper.isLower = false :=
  (small_forms small).upper_large

theorem toLower_small (small : c.isLower = true) : c.toLower = c :=
  ((small_forms small).small small).1

theorem toLower_toUpper (small : c.isLower = true) : c.toUpper.toLower = c :=
  (small_forms small).lower_upper.trans (toLower_small small)

theorem small_unseparated (small : c.isLower = true) : isSeparator c = false :=
  ((ascii_separators (small_ascii small)).token_plain (.inl small)).1

theorem toUpper_unseparated (small : c.isLower = true) : isSeparator c.toUpper = false :=
  (ascii_separators (small_ascii small)).upper_separator.trans (small_unseparated small)

theorem foldCase_small (small : c.isLower = true) : foldCase c = c := by
  rw [foldCase_ascii (small_ascii small), toLower_small small]

theorem foldCase_toUpper (small : c.isLower = true) : foldCase c.toUpper = c := by
  rw [foldCase_ascii (raised_ascii small), toLower_toUpper small]

theorem capital_small (small : c.isLower = true) : capital c = c.toUpper := by
  rw [capital, foldCase_small small, if_pos small]

theorem capital_of_small (small : (foldCase c).isLower = true) :
    capital c = (foldCase c).toUpper := if_pos small

theorem capital_of_still (still : (foldCase c).isLower = false) : capital c = c := by
  rw [capital, still]
  rfl

@[simp] theorem foldCase_capital (c : Char) : foldCase (capital c) = foldCase c := by
  cases small : (foldCase c).isLower with
  | true => rw [capital_of_small small, foldCase_toUpper small]
  | false => rw [capital_of_still small]

@[simp] theorem capital_capital (c : Char) : capital (capital c) = capital c := by
  cases small : (foldCase c).isLower with
  | true =>
    rw [capital_of_small (by rwa [foldCase_capital]), foldCase_capital, capital_of_small small]
  | false => rw [capital_of_still small, capital_of_still small]

theorem capital_not_lower (c : Char) : (capital c).isLower = false := by
  cases small : (foldCase c).isLower with
  | true =>
    rw [capital_of_small small]
    exact toUpper_not_lower small
  | false =>
    rw [capital_of_still small, Bool.eq_false_iff]
    intro lower
    rw [foldCase_small lower, lower] at small
    cases small

theorem capital_separator (c : Char) : isSeparator (capital c) = isSeparator c := by
  cases small : (foldCase c).isLower with
  | true =>
    rw [capital_of_small small, toUpper_unseparated small, eq_comm, Bool.eq_false_iff]
    intro separates
    have own := foldCase_separator separates
    rw [← own, small_unseparated small] at separates
    cases separates
  | false => rw [capital_of_still small]

theorem capital_upright (own : upperChar c = [c]) : upperChar (capital c) = [capital c] := by
  cases small : (foldCase c).isLower with
  | true =>
    rw [capital_of_small small, upperChar_ascii (raised_ascii small),
      (small_forms small).upper_upper]
  | false => rwa [capital_of_still small]

theorem upperChar_of_match (ascii : c.toNat < 128) (same : foldCase c = foldCase d) :
    upperChar c = [capital d] := by
  have folded := foldCase_ascii ascii
  rw [upperChar_ascii ascii]
  cases small : (foldCase d).isLower with
  | true => rw [capital_of_small small, ← same, folded, (ascii_forms ascii).upper_lower]
  | false =>
    have still : c.toLower.isLower = false := by rwa [← folded, same]
    have bounds := (ascii_forms ascii).lower_ascii
    have own : c.toUpper = c.toLower :=
      (ascii_forms ascii).letter.resolve_right (Bool.eq_false_iff.1 still)
    have matched := foldCase_of_still (c := d) (by rwa [← same, folded]) small
    rw [capital_of_still small, own, ← folded, same, matched]

theorem Lifts.trans (first : Lifts c d) (second : Lifts d e) : Lifts c e := by
  rcases first with rfl | ⟨small, rfl⟩
  · exact second
  · rcases second with rfl | ⟨smaller, rfl⟩
    · exact .inr ⟨small, rfl⟩
    · rw [toUpper_not_lower small] at smaller
      cases smaller

theorem Lifts.eq_of_not_lower (lifts : Lifts c d) (large : c.isLower = false) : d = c := by
  rcases lifts with rfl | ⟨small, _⟩
  · rfl
  · rw [large] at small
    cases small

theorem Lifts.recased (lifts : Lifts c d) : Recased c d := by
  rcases lifts with rfl | ⟨small, rfl⟩
  · exact .inl rfl
  · exact .inr (capital_small small).symm

theorem Recased.trans (first : Recased c d) (second : Recased d e) : Recased c e := by
  rcases first with rfl | rfl
  · exact second
  · rcases second with rfl | rfl
    · exact .inr rfl
    · exact .inr (capital_capital c)

theorem Recased.foldCase (recased : Recased c d) : Text.foldCase d = Text.foldCase c := by
  rcases recased with rfl | rfl
  · rfl
  · exact foldCase_capital c

theorem Recased.separator (recased : Recased c d) : isSeparator d = isSeparator c := by
  rcases recased with rfl | rfl
  · rfl
  · exact capital_separator c

theorem upright_not_lower (own : upperChar c = [c]) : c.isLower = false := by
  rw [Bool.eq_false_iff]
  intro small
  rw [upperChar_ascii (small_ascii small), List.singleton_inj] at own
  have large := toUpper_not_lower small
  rw [own, small] at large
  cases large

theorem Lifts.lowered (lifts : Lifts c d) (own : lowerLetter c = c) : lowerLetter d = c := by
  rcases lifts with rfl | ⟨small, rfl⟩
  · exact own
  · rw [lowerLetter_ascii (raised_ascii small), toLower_toUpper small]

theorem Recased.lowered (recased : Recased c d) (own : lowerLetter c = c) :
    Text.foldCase (lowerLetter d) = Text.foldCase c ∧ capital (lowerLetter d) = capital c := by
  rcases recased with rfl | rfl
  · rw [own]
    exact ⟨rfl, rfl⟩
  · cases small : (Text.foldCase c).isLower with
    | true =>
      rw [capital_of_small small, lowerLetter_ascii (raised_ascii small), toLower_toUpper small,
        foldCase_small small, capital_small small]
      exact ⟨rfl, rfl⟩
    | false =>
      rw [capital_of_still small, own, capital_of_still small]
      exact ⟨rfl, rfl⟩

theorem Recased.steady (recased : Recased c d) (own : c ≠ '\u03A3' ∧ c ≠ '\u0130') :
    d ≠ '\u03A3' ∧ d ≠ '\u0130' := by
  rcases recased with rfl | rfl
  · exact own
  · cases small : (Text.foldCase c).isLower with
    | true =>
      rw [capital_of_small small]
      have single : Ascii [(Text.foldCase c).toUpper] := by
        intro d member
        rw [List.mem_singleton.1 member]
        exact raised_ascii small
      exact single.steady _ (List.mem_singleton.2 rfl)
    | false => rwa [capital_of_still small]

end letters

section raising

variable {cs ds : List Char}

@[simp] theorem raiseAt_nil (places : List Bool) : raiseAt places [] = [] := by
  cases places <;> rfl

theorem raiseAt_recased (places : List Bool) (cs : List Char) :
    List.Forall₂ Recased cs (raiseAt places cs) := by
  induction cs generalizing places with
  | nil => simp
  | cons c rest ih =>
    cases places with
    | nil => exact .cons (.inl rfl) (ih [])
    | cons place places =>
      cases place with
      | true => exact .cons (.inr rfl) (ih places)
      | false => exact .cons (.inl rfl) (ih places)

theorem folds_of_recased (recased : List.Forall₂ Recased cs ds) :
    ds.map foldCase = cs.map foldCase := by
  induction recased with
  | nil => rfl
  | cons own _ ih => rw [List.map_cons, List.map_cons, own.foldCase, ih]

theorem raiseAt_raiseAt (places others : List Bool) :
    ∃ both, ∀ cs, raiseAt places (raiseAt others cs) = raiseAt both cs := by
  induction places generalizing others with
  | nil => exact ⟨others, fun cs => rfl⟩
  | cons place places ih =>
    cases others with
    | nil => exact ⟨place :: places, fun cs => rfl⟩
    | cons other others =>
      obtain ⟨both, merged⟩ := ih others
      use (place || other) :: both
      intro cs
      cases cs with
      | nil => rfl
      | cons c rest => cases place <;> cases other <;> simp [raiseAt, merged]

theorem raises_id : Raises id := fun _ _ _ => ⟨[], rfl, rfl⟩

theorem Raises.comp {raise again : List Char → List Char} (first : Raises raise)
    (second : Raises again) : Raises (again ∘ raise) := by
  intro cs ds same
  obtain ⟨places, left, right⟩ := first cs ds same
  have folds : (raise cs).map foldCase = (raise ds).map foldCase := by
    rw [left, right, folds_of_recased (raiseAt_recased places cs),
      folds_of_recased (raiseAt_recased places ds), same]
  obtain ⟨more, leftAgain, rightAgain⟩ := second _ _ folds
  obtain ⟨both, merged⟩ := raiseAt_raiseAt more places
  use both
  constructor
  · rw [Function.comp_apply, leftAgain, left, merged]
  · rw [Function.comp_apply, rightAgain, right, merged]

theorem beginsFolded_iff (needle cs : List Char) :
    beginsFolded needle cs = true ↔ needle.map foldCase <+: cs.map foldCase := by
  induction needle generalizing cs with
  | nil => simp [beginsFolded]
  | cons n ns ih =>
    cases cs with
    | nil => simp [beginsFolded]
    | cons c cs => simp [beginsFolded, ih, List.cons_prefix_cons]

theorem raiseAt_run (n : Nat) (places : List Bool) (cs : List Char) :
    raiseAt (List.replicate n true ++ places) cs =
      (cs.take n).map capital ++ raiseAt places (cs.drop n) := by
  induction n generalizing cs with
  | zero => rfl
  | succ n ih =>
    cases cs with
    | nil => simp
    | cons c rest => simp [List.replicate_succ, raiseAt, ih]

theorem upperChars_of_begins {needle : List Char} (ascii : Ascii needle)
    (begins : needle.map foldCase <+: cs.map foldCase) :
    upperChars needle = (cs.take needle.length).map capital := by
  induction needle generalizing cs with
  | nil => simp
  | cons n ns ih =>
    obtain ⟨own, later⟩ := List.forall_mem_cons.1 ascii
    cases cs with
    | nil => simp at begins
    | cons c cs =>
      rw [List.map_cons, List.map_cons, List.cons_prefix_cons] at begins
      rw [upperChars_cons, upperChar_of_match own begins.1, ih later begins.2]
      rfl

theorem replaceFolded_skip (needle text : List Char) (skip : Nat) (cs : List Char) :
    replaceFolded needle text skip cs = replaceFolded needle text 0 (cs.drop skip) := by
  induction skip generalizing cs with
  | zero => rfl
  | succ skip ih =>
    cases cs with
    | nil => simp [replaceFolded]
    | cons c rest => rw [replaceFolded, ih, List.drop_succ_cons]

/-- Putting an acronym's capital form in its places raises the letters there. -/
theorem replaceFolded_raises {needle : List Char} (ascii : Ascii needle) (given : needle ≠ []) :
    Raises (replaceFolded needle (upperChars needle) 0) := by
  obtain ⟨n, ns, rfl⟩ := List.exists_cons_of_ne_nil given
  intro cs
  induction length : cs.length using Nat.strongRecOn generalizing cs with
  | _ k ih =>
    intro ds same
    cases cs with
    | nil =>
      obtain rfl : ds = [] := by simpa using same.symm
      exact ⟨[], rfl, rfl⟩
    | cons c cs =>
      obtain ⟨d, ds, rfl⟩ := List.exists_cons_of_ne_nil (l := ds) (by rintro rfl; simp at same)
      obtain ⟨own, rest⟩ := List.cons.inj same
      rw [replaceFolded, replaceFolded]
      cases begins : beginsFolded (n :: ns) (c :: cs) with
      | true =>
        have left := (beginsFolded_iff ..).1 begins
        have right := same ▸ left
        -- the search goes on behind the place
        obtain ⟨places, here, there⟩ := ih (cs.drop ns.length).length (by simp at length ⊢; omega)
          (cs.drop ns.length) rfl (ds.drop ns.length) (by rw [List.map_drop, List.map_drop, rest])
        use List.replicate (n :: ns).length true ++ places
        constructor
        · rw [if_pos rfl, replaceFolded_skip, raiseAt_run, ← upperChars_of_begins ascii left,
            List.length_cons, Nat.add_sub_cancel, here, List.drop_succ_cons]
        · rw [if_pos ((beginsFolded_iff ..).2 right), replaceFolded_skip, raiseAt_run,
            ← upperChars_of_begins ascii right, List.length_cons, Nat.add_sub_cancel, there,
            List.drop_succ_cons]
      | false =>
        have other : beginsFolded (n :: ns) (d :: ds) = false := by
          rw [Bool.eq_false_iff, Ne, beginsFolded_iff, ← same, ← beginsFolded_iff, begins]
          simp
        obtain ⟨places, here, there⟩ := ih cs.length (by simp at length; omega) cs rfl ds rest
        use false :: places
        constructor
        · rw [if_neg (by simp), here]
          rfl
        · rw [other, if_neg (by simp), there]
          rfl

/-- What an acronym has raised is not touched by lifting. -/
theorem raiseAt_of_lifted {places : List Bool}
    (lifted : List.Forall₂ Lifts (raiseAt places cs) ds) : raiseAt places ds = ds := by
  induction places generalizing cs ds with
  | nil => rfl
  | cons place places ih =>
    cases cs with
    | nil =>
      cases lifted
      rfl
    | cons c rest =>
      cases place with
      | true =>
        cases lifted with
        | cons own others =>
          rw [raiseAt, ih others, own.eq_of_not_lower (capital_not_lower c), capital_capital]
      | false =>
        cases lifted with
        | cons own others => rw [raiseAt, ih others]

theorem steady_of_recased (steady : Steady cs) (recased : List.Forall₂ Recased cs ds) :
    Steady ds := by
  intro d member
  obtain ⟨c, source, own⟩ := related_of_mem_right recased member
  exact own.steady (steady c source)

theorem folds_of_lowered (small : AllSmall cs) (recased : List.Forall₂ Recased cs ds) :
    (ds.map lowerLetter).map foldCase = cs.map foldCase := by
  induction recased with
  | nil => rfl
  | cons own _ ih =>
    obtain ⟨first, later⟩ := List.forall_mem_cons.1 small
    rw [List.map_cons, List.map_cons, List.map_cons, (own.lowered first).1, ih later]

theorem lowered_of_lifted (small : AllSmall cs) (lifted : List.Forall₂ Lifts cs ds) :
    ds.map lowerLetter = cs := by
  induction lifted with
  | nil => rfl
  | cons own _ ih =>
    obtain ⟨first, later⟩ := List.forall_mem_cons.1 small
    rw [List.map_cons, own.lowered first, ih later]

/-- Small letters of which some were raised and others lifted are raised to the same text again,
after they were all made small. -/
theorem raiseAt_lowered {places : List Bool} (small : AllSmall cs)
    (lifted : List.Forall₂ Lifts (raiseAt places cs) ds) :
    raiseAt places (ds.map lowerLetter) = raiseAt places cs := by
  induction places generalizing cs ds with
  | nil => exact lowered_of_lifted small lifted
  | cons place places ih =>
    cases cs with
    | nil =>
      cases lifted
      rfl
    | cons c rest =>
      obtain ⟨first, later⟩ := List.forall_mem_cons.1 small
      cases place with
      | true =>
        cases lifted with
        | cons own others =>
          rw [List.map_cons, raiseAt, raiseAt, ih later others,
            own.eq_of_not_lower (capital_not_lower c), (Recased.lowered (.inr rfl) first).2]
      | false =>
        cases lifted with
        | cons own others =>
          rw [List.map_cons, raiseAt, raiseAt, ih later others, own.lowered first]

theorem raiseAt_lowered_word {places : List Bool} {c d : Char} (upright : upperChar c = [c])
    (small : AllSmall cs) (lifted : List.Forall₂ Lifts (raiseAt places (c :: cs)) (d :: ds)) :
    raiseAt places (d :: ds.map lowerLetter) = raiseAt places (c :: cs) := by
  rcases places with _ | ⟨_ | _, places⟩
  · cases lifted with
    | cons own others =>
      rw [own.eq_of_not_lower (upright_not_lower upright), lowered_of_lifted small others]
  · cases lifted with
    | cons own others =>
      rw [raiseAt, raiseAt, own.eq_of_not_lower (upright_not_lower upright),
        raiseAt_lowered small others]
  · cases lifted with
    | cons own others =>
      rw [raiseAt, raiseAt, own.eq_of_not_lower (capital_not_lower c), capital_capital,
        raiseAt_lowered small others]

end raising

section lifting

variable {cs ds : List Char}

theorem lifts_refl (cs : List Char) : List.Forall₂ Lifts cs cs :=
  List.forall₂_same.2 fun _ _ => .inl rfl

theorem settles_id : Settles id := fun cs => ⟨lifts_refl cs, fun _ _ => rfl⟩

theorem Settles.comp {settle again : List Char → List Char} (first : Settles settle)
    (second : Settles again) : Settles (again ∘ settle) := by
  intro cs
  obtain ⟨lifted, done⟩ := first cs
  obtain ⟨more, finished⟩ := second (settle cs)
  constructor
  · exact related_trans lifted more fun _ _ _ => Lifts.trans
  · intro ds others
    rw [Function.comp_apply, done ds (related_trans more others fun _ _ _ => Lifts.trans)]
    exact finished ds others

def suffixForm (word : List Char) : List Char :=
  match word with
  | [] => []
  | w :: ws => upperChar w ++ ws

theorem lifts_toUpper {c : Char} (ascii : c.toNat < 128) : Lifts c.toLower c.toUpper := by
  rcases (ascii_forms ascii).letter with uncased | small
  · exact .inl uncased
  · exact .inr ⟨small, (ascii_forms ascii).upper_lower.symm⟩

theorem lifts_toLower {c : Char} (ascii : c.toNat < 128) : Lifts c.toLower c := by
  rcases (ascii_forms ascii).either with own | raised
  · exact .inl own
  · conv => rhs; rw [raised]
    exact lifts_toUpper ascii

theorem suffixForm_lifts {word : List Char} (ascii : Ascii word) :
    List.Forall₂ Lifts (lowerChars word) (suffixForm word) := by
  rw [lowerChars_ascii ascii]
  cases word with
  | nil => exact .nil
  | cons w ws =>
    obtain ⟨own, later⟩ := List.forall_mem_cons.1 ascii
    rw [suffixForm, upperChar_ascii own]
    apply List.Forall₂.cons (lifts_toUpper own)
    induction ws with
    | nil => exact .nil
    | cons v vs ih =>
      obtain ⟨next, others⟩ := List.forall_mem_cons.1 later
      exact .cons (lifts_toLower next) (ih (List.forall_mem_cons.2 ⟨own, others⟩) others)

theorem capitalizeSuffix_cases {word : String} (ascii : Ascii word.toList) (name : List Char) :
    (∃ stem, stem ≠ [] ∧ name = stem ++ lowerChars word.toList ∧
      capitalizeSuffix word name = stem ++ suffixForm word.toList) ∨
    (capitalizeSuffix word name = name ∧
      ∀ stem, stem ≠ [] → word.toList ≠ [] → name ≠ stem ++ lowerChars word.toList) := by
  have lengths : (lowerChars word.toList).length = word.toList.length := by
    rw [lowerChars_ascii ascii, List.length_map]
  unfold capitalizeSuffix
  cases letters : word.toList with
  | nil => exact .inr ⟨rfl, fun _ _ given => absurd rfl given⟩
  | cons w ws =>
    rw [letters] at lengths
    dsimp only
    split
    · rename_i found
      obtain ⟨ends, longer⟩ := Bool.and_eq_true_iff.1 found
      obtain ⟨stem, rfl⟩ := List.isSuffixOf_iff_suffix.1 ends
      have stemLength : (stem ++ lowerChars (w :: ws)).length - (w :: ws).length = stem.length := by
        rw [List.length_append, lengths, Nat.add_sub_cancel]
      refine .inl ⟨stem, ?_, rfl, ?_⟩
      · intro empty
        rw [empty, List.nil_append, lengths] at longer
        simp at longer
      · rw [stemLength, List.take_left', List.append_assoc]
        · rfl
        · rfl
    · rename_i other
      right
      constructor
      · rfl
      · intro stem filled _ whole
        apply other
        rw [Bool.and_eq_true_iff, whole]
        constructor
        · exact List.isSuffixOf_iff_suffix.2 ⟨stem, rfl⟩
        · rw [List.length_append, lengths]
          simpa using List.length_pos_iff.2 filled

theorem eq_of_lifts_lower {word : List Char} (ascii : Ascii word)
    (lifted : List.Forall₂ Lifts cs (lowerChars word)) : cs = lowerChars word := by
  rw [lowerChars_ascii ascii] at lifted ⊢
  induction word generalizing cs with
  | nil =>
    cases lifted
    rfl
  | cons w ws ih =>
    obtain ⟨own, later⟩ := List.forall_mem_cons.1 ascii
    cases lifted with
    | @cons c _ cs _ lifts others =>
      rw [ih later others, List.map_cons]
      rcases lifts with same | ⟨small, raised⟩
      · rw [same]
      · have twice : w.toLower.toLower = w.toLower :=
          (ascii_forms own).lower_lower
        rw [raised, toLower_toUpper small] at twice
        have large := toUpper_not_lower small
        rw [← twice, small] at large
        cases large

theorem capitalizeSuffix_settles {word : String} (ascii : Ascii word.toList) :
    Settles (capitalizeSuffix word) := by
  intro cs
  constructor
  · rcases capitalizeSuffix_cases ascii cs with ⟨stem, _, whole, form⟩ | ⟨same, _⟩
    · rw [form]
      conv => lhs; rw [whole]
      exact List.rel_append (lifts_refl stem) (suffixForm_lifts ascii)
    · rw [same]
      exact lifts_refl cs
  · intro ds lifted
    rcases capitalizeSuffix_cases ascii ds with ⟨stem, filled, whole, form⟩ | ⟨same, _⟩
    · -- the word ended the text before the lifting, so the text has the form already
      rw [whole] at lifted
      have ending := eq_of_lifts_lower ascii (List.forall₂_drop_append _ _ _ lifted)
      have parts := List.take_append_drop stem.length (capitalizeSuffix word cs)
      rw [ending] at parts
      have front : (capitalizeSuffix word cs).take stem.length ≠ [] := by
        intro empty
        have lengths := (List.forall₂_take_append _ _ _ lifted).length_eq
        rw [empty, List.length_nil, eq_comm, List.length_eq_zero_iff] at lengths
        exact filled lengths
      rw [form, whole]
      congr 1
      rcases capitalizeSuffix_cases ascii cs with ⟨other, _, _, formed⟩ | ⟨same, unended⟩
      · rw [formed] at parts
        exact (List.append_inj_right' parts (suffixForm_lifts ascii).length_eq).symm
      · cases letters : word.toList with
        | nil => rfl
        | cons w ws =>
          exact absurd (same.symm.trans parts.symm) (unended _ front (by simp [letters]))
    · exact same

end lifting

end EntityScaffold.Naming
