import EntityScaffold.Proofs.Naming.Capitals
import EntityScaffold.Proofs.Naming.Texts

/-!
The casing of names by acronyms and suffix words: the acronyms raise letters, and the suffix words
lift letters of what that gives. What a casing has made of a name stays as it is, also where more
letters are lifted, and a name that is read as one word once more is cased as before. Tables of
ASCII texts always make a casing, and a name that no override gives is converted by it twice.
-/
namespace EntityScaffold.Naming
open Text NamingRules

/-- A casing: what acronyms raise, and what suffix words lift behind them. -/
structure Casing where
  raise : List Char → List Char
  settle : List Char → List Char
  raises : Raises raise
  settles : Settles settle

namespace Casing

variable (casing : Casing) {cs ds : List Char}

def apply (cs : List Char) : List Char := casing.settle (casing.raise cs)

theorem apply_recased (cs : List Char) : List.Forall₂ Recased cs (casing.apply cs) := by
  obtain ⟨places, raised, _⟩ := casing.raises cs cs rfl
  have lifted := (casing.settles (casing.raise cs)).1.imp fun _ _ => Lifts.recased
  exact related_trans (raised ▸ raiseAt_recased places cs) lifted fun _ _ _ => Recased.trans

theorem apply_folds (cs : List Char) : (casing.apply cs).map foldCase = cs.map foldCase :=
  folds_of_recased (casing.apply_recased cs)

theorem apply_of_lifted (lifted : List.Forall₂ Lifts (casing.apply cs) ds) :
    casing.apply ds = ds := by
  obtain ⟨first, done⟩ := casing.settles (casing.raise cs)
  have folds : cs.map foldCase = ds.map foldCase := by
    rw [folds_of_recased (lifted.imp fun _ _ => Lifts.recased), casing.apply_folds]
  obtain ⟨places, here, there⟩ := casing.raises cs ds folds
  have kept : casing.raise ds = ds := by
    rw [there]
    exact raiseAt_of_lifted (here ▸ related_trans first lifted fun _ _ _ => Lifts.trans)
  rw [apply, kept]
  exact done ds lifted

@[simp] theorem apply_apply (cs : List Char) : casing.apply (casing.apply cs) = casing.apply cs :=
  casing.apply_of_lifted (lifts_refl _)

@[simp] theorem apply_nil : casing.apply [] = [] :=
  List.forall₂_nil_left_iff.1 (casing.apply_recased [])

theorem separator_of_apply {c : Char} (shown : c ∈ casing.apply cs)
    (separates : isSeparator c = true) : c ∈ cs := by
  obtain ⟨d, member, recased⟩ := related_of_mem_right (casing.apply_recased cs) shown
  rcases recased with rfl | rfl
  · exact member
  · rw [capital_separator] at separates
    have own := foldCase_separator separates
    rwa [capital_of_still]
    rw [own, Bool.eq_false_iff]
    intro small
    rw [small_unseparated small] at separates
    cases separates

theorem apply_unseparated (plain : Unseparated cs) : Unseparated (casing.apply cs) := by
  intro c shown
  rw [Bool.eq_false_iff]
  intro separates
  have member := casing.separator_of_apply shown separates
  rw [plain c member] at separates
  cases separates

theorem apply_upright (upright : Upright cs) : Upright (casing.apply cs) := by
  intro d first
  have recased := casing.apply_recased cs
  cases cs with
  | nil =>
    rw [apply_nil] at first
    cases first
  | cons c rest =>
    generalize casing.apply (c :: rest) = es at first recased
    cases recased with
    | cons own _ =>
      cases first
      rcases own with rfl | rfl
      · exact upright _ rfl
      · exact capital_upright (upright c rfl)

theorem apply_capitalizeRest {w : List Char} (upright : Upright w) :
    casing.apply (capitalizeRest (casing.apply (capitalizeRest w))) =
      casing.apply (capitalizeRest w) := by
  cases w with
  | nil => simp [capitalizeRest]
  | cons c rest =>
    have own := upright c rfl
    have single (us : List Char) : Upright (c :: us) := by
      intro d first
      cases first
      exact own
    have small := lowerChars_small rest
    rw [capitalizeRest, own, List.singleton_append]
    generalize lowerChars rest = us at small
    have recased := casing.apply_recased (c :: us)
    have lifted := (casing.settles (casing.raise (c :: us))).1
    cases form : casing.apply (c :: us) with
    | nil =>
      rw [form] at recased
      cases recased
    | cons d vs =>
      rw [form] at recased
      cases recased with
      | cons first later =>
        have head : upperChar d = [d] := casing.apply_upright (single us) d (by rw [form]; rfl)
        rw [capitalizeRest, head, List.singleton_append,
          lowerChars_steady (steady_of_recased small.steady later)]
        have folds : (c :: us).map foldCase = (d :: vs.map lowerLetter).map foldCase := by
          rw [List.map_cons, List.map_cons, first.foldCase, folds_of_lowered small later]
        obtain ⟨places, here, there⟩ := casing.raises _ _ folds
        rw [← apply, form, here] at lifted
        rw [← form, apply, apply, there, here, raiseAt_lowered_word own small lifted]

def convert (name : List Char) : List Char :=
  if looksPascal defaultLookahead name then casing.apply (name.filter (· != '_'))
  else casing.apply (joinWords name)

end Casing

section tables

variable {acronyms suffixWords : List String}

/-- Acronyms and suffix words of ASCII characters, no acronym with a backslash. -/
structure AsciiTables (acronyms suffixWords : List String) : Prop where
  asciiAcronyms : ∀ a ∈ acronyms, Ascii a.toList
  asciiSuffixWords : ∀ w ∈ suffixWords, Ascii w.toList
  unescaped : ∀ a ∈ acronyms, '\\' ∉ a.toList

theorem default_tables : AsciiTables ["TMS"] ["Doc"] := ⟨by decide, by decide, by decide⟩

theorem foldlM_steps {α : Type} {step : List Char → α → Except Fault (List Char)} {as : List α}
    {Q : (List Char → List Char) → Prop} (idle : Q id)
    (next : ∀ f g, Q f → Q g → Q (g ∘ f))
    (each : ∀ a ∈ as, ∃ f, Q f ∧ ∀ cs, step cs a = .ok (f cs)) :
    ∃ f, Q f ∧ ∀ cs, as.foldlM step cs = .ok (f cs) := by
  induction as with
  | nil => exact ⟨id, idle, fun cs => rfl⟩
  | cons a as ih =>
    obtain ⟨f, first, done⟩ := each a (by simp)
    obtain ⟨g, others, finished⟩ := ih fun b member => each b (List.mem_cons_of_mem a member)
    use g ∘ f, next f g first others
    intro cs
    rw [List.foldlM_cons, done]
    exact finished (f cs)

theorem given_of_mem {texts : List String} {l : Label}
    (member : l ∈ (texts.map Json.str).filter Label.isGiven) :
    ∃ s ∈ texts, l = .str s ∧ s.toList ≠ [] := by
  obtain ⟨listed, given⟩ := List.mem_filter.1 member
  obtain ⟨s, source, rfl⟩ := List.mem_map.1 listed
  have filled : s.toList ≠ [] := by
    intro empty
    rw [String.toList_eq_nil_iff.1 empty] at given
    exact absurd given (by decide)
  exact ⟨s, source, rfl, filled⟩

theorem replaceAcronym_plain {acronym : String} (plain : '\\' ∉ acronym.toList) (cs : List Char) :
    replaceAcronym acronym cs =
      .ok (replaceFolded acronym.toList (upperChars acronym.toList) 0 cs) := by
  have capitals : '\\' ∉ upperChars acronym.toList := by
    intro shown
    obtain ⟨c, member, inCapital⟩ := List.mem_flatMap.1 shown
    exact plain (backslash_of_upperChar inCapital ▸ member)
  rw [replaceAcronym, replacementText?, literalText_plain capitals]

theorem exists_casing (tables : AsciiTables acronyms suffixWords)
    (overrides : List (String × String)) : ∃ casing : Casing,
      ∀ cs, (ofTexts acronyms suffixWords overrides).applyCasing cs = .ok (casing.apply cs) := by
  obtain ⟨raise, raises, raised⟩ : ∃ raise, Raises raise ∧
      ∀ cs, (ofTexts acronyms suffixWords overrides).applyAcronyms cs = .ok (raise cs) := by
    apply foldlM_steps raises_id fun _ _ => Raises.comp
    intro a member
    obtain ⟨s, source, rfl, given⟩ := given_of_mem member
    exact ⟨_, replaceFolded_raises (tables.asciiAcronyms s source) given,
      replaceAcronym_plain (tables.unescaped s source)⟩
  obtain ⟨settle, settles, settled⟩ : ∃ settle, Settles settle ∧
      ∀ cs, (ofTexts acronyms suffixWords overrides).applySuffixes cs = .ok (settle cs) := by
    apply foldlM_steps settles_id fun _ _ => Settles.comp
    intro w member
    obtain ⟨s, source, rfl, given⟩ := given_of_mem member
    exact ⟨capitalizeSuffix s, capitalizeSuffix_settles (tables.asciiSuffixWords s source),
      fun cs => rfl⟩
  use ⟨raise, settle, raises, settles⟩
  intro cs
  rw [applyCasing, raised]
  exact settled (raise cs)

variable {rules : NamingRules} {casing : Casing}

theorem convert_of_casing (cased : ∀ cs, rules.applyCasing cs = .ok (casing.apply cs))
    (name : List Char) : rules.convert name = .ok (casing.convert name) := by
  rw [NamingRules.convert, Casing.convert]
  split
  · exact cased _
  · exact cased _

theorem convertTwice_of_casing (cased : ∀ cs, rules.applyCasing cs = .ok (casing.apply cs))
    (name : List Char) :
    rules.convertTwice name = .ok (casing.convert (casing.convert name)) := by
  rw [convertTwice, convert_of_casing cased]
  exact convert_of_casing cased _

theorem normalize_of_casing (cased : ∀ cs, rules.applyCasing cs = .ok (casing.apply cs))
    (none : rules.overrides = []) (name : String) :
    rules.normalize name false = .ok (.str (String.ofList
      (if allBlank name.toList then name.toList
      else casing.convert (casing.convert name.toList)))) := by
  rw [NamingRules.normalize, none, List.lookup_nil]
  split
  · rw [String.ofList_toList]
  · dsimp only
    rw [if_neg Bool.false_ne_true, convertTwice_of_casing cased]
    rfl

end tables

end EntityScaffold.Naming
