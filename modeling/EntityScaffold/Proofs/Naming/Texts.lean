import EntityScaffold.Config
import EntityScaffold.Proofs.Outcomes

/-!
Settings of their declared form. A file may put any value in place of a name, but names are meant to
be texts; where they are, every label that is made from them is a text too, and no step that looks
at the letters of a label refuses it. A name then has a fixed form unless an acronym is refused,
and none is that has no backslash.
-/
namespace EntityScaffold

namespace Label

def IsText (l : Label) : Prop := ∃ s, l = .str s

theorem isText_str (s : String) : IsText (.str s) := ⟨s, rfl⟩

theorem IsText.atom {l : Label} (text : l.IsText) : l.atom = .ok l := by
  obtain ⟨s, rfl⟩ := text
  rfl

theorem IsText.letters {l : Label} (text : l.IsText) : l.letters = .ok l.display := by
  obtain ⟨s, rfl⟩ := text
  rfl

theorem IsText.text {l : Label} (text : l.IsText) : l.text = .ok l.display := by
  obtain ⟨s, rfl⟩ := text
  rfl

end Label

namespace Naming
open Text NamingRules

structure NamingRules.Texts (rules : NamingRules) : Prop where
  acronyms : ∀ a ∈ rules.acronyms, a.IsText
  suffixWords : ∀ w ∈ rules.suffixWords, w.IsText
  overrides : ∀ o ∈ rules.overrides, o.2.IsText

theorem NamingRules.texts_ofTexts (acronyms suffixWords : List String)
    (overrides : List (String × String)) :
    (NamingRules.ofTexts acronyms suffixWords overrides).Texts := by
  refine ⟨?_, ?_, ?_⟩
  · intro a member
    obtain ⟨s, _, rfl⟩ := List.mem_map.1 member
    exact Label.isText_str s
  · intro w member
    obtain ⟨s, _, rfl⟩ := List.mem_map.1 member
    exact Label.isText_str s
  · intro o member
    obtain ⟨s, _, rfl⟩ := List.mem_map.1 member
    exact Label.isText_str _

variable {rules : NamingRules}

theorem override_text (texts : rules.Texts) {name : String} {fixed : Label}
    (found : rules.overrides.lookup name = some fixed) : fixed.IsText := by
  obtain ⟨before, after, listed, _⟩ := List.lookup_eq_some_iff.1 found
  exact texts.overrides (name, fixed) (by simp [listed])

theorem normalize_text (texts : rules.Texts) {name : String} {isView : Bool} {fixed : Label}
    (found : rules.normalize name isView = .ok fixed) : fixed.IsText := by
  unfold NamingRules.normalize at found
  split at found
  · cases found
    exact ⟨name, rfl⟩
  · split at found
    · rename_i known
      cases found
      exact override_text texts known
    · split at found
      · obtain ⟨cs, _, rfl⟩ := map_ok.1 found
        exact ⟨_, rfl⟩
      · obtain ⟨cs, _, rfl⟩ := map_ok.1 found
        exact ⟨_, rfl⟩

def NamingRules.Unescaped (rules : NamingRules) : Prop :=
  ∀ s, .str s ∈ rules.acronyms → '\\' ∉ s.toList

theorem ofNat_eq_backslash {n : Nat} (same : Char.ofNat n = '\\') : n = 92 := by
  by_cases valid : n.isValidChar
  · have code : (Char.ofNat n).toNat = n := by
      rw [Char.ofNat, dif_pos valid]
      rfl
    rw [← code, same]
    rfl
  · rw [Char.ofNat, dif_neg valid] at same
    cases same

theorem expansions_plain : ∀ p ∈ upperExpansions, ∀ n ∈ p.2, n ≠ 92 := by decide +kernel

theorem shifts_plain : ∀ s ∈ upperShifts,
    92 < s.target ∨ s.target + (s.span.last - s.span.first) < 92 := by decide +kernel

theorem backslash_of_upperChar {c : Char} (shown : '\\' ∈ upperChar c) : c = '\\' := by
  unfold upperChar at shown
  split at shown
  · rename_i ns found
    obtain ⟨before, after, listed, _⟩ := List.lookup_eq_some_iff.1 found
    obtain ⟨n, member, same⟩ := List.mem_map.1 shown
    have plain := expansions_plain (c.toNat, ns) (by simp [listed])
    exact absurd (ofNat_eq_backslash same) (plain n member)
  · split at shown
    · rename_i n found
      obtain ⟨s, inTable, rfl⟩ := Option.map_eq_some_iff.1 found
      have code := ofNat_eq_backslash (List.mem_singleton.1 shown).symm
      have own := @List.find?_some _ (fun s : Shift => s.span.contains c.toNat) _ _ inTable
      obtain ⟨_, within, _⟩ := (Span.contains_iff ..).1 own
      rcases shifts_plain s (List.mem_of_find?_eq_some inTable) with above | below
      · omega
      · omega
    · exact (List.mem_singleton.1 shown).symm

theorem literalText_plain {cs : List Char} (plain : '\\' ∉ cs) : literalText? 0 cs = some cs := by
  induction cs with
  | nil => rfl
  | cons c rest ih =>
    obtain ⟨other, later⟩ := not_or.1 (List.mem_cons.not.1 plain)
    rw [literalText?, if_neg (Ne.symm other), ih later]
    rfl

/-- The capital form of an acronym is no replacement text. -/
def NamingRules.Refuses (rules : NamingRules) (acronym : String) : Prop :=
  .str acronym ∈ rules.acronyms ∧ replacementText? (upperChars acronym.toList) = none

def RefusedAcronym (rules : NamingRules) (f : Fault) : Prop :=
  ∃ a, rules.Refuses a ∧ f = .brokenReplacement a

theorem backslash_of_refused {acronym : String} (refused : rules.Refuses acronym) :
    '\\' ∈ acronym.toList := by
  by_contra plain
  have capitals : '\\' ∉ upperChars acronym.toList := by
    intro shown
    obtain ⟨c, member, inCapital⟩ := List.mem_flatMap.1 shown
    exact plain (backslash_of_upperChar inCapital ▸ member)
  have broken := refused.2
  rw [replacementText?, literalText_plain capitals] at broken
  cases broken

theorem not_refused (unescaped : rules.Unescaped) (acronym : String) : ¬ rules.Refuses acronym :=
  fun refused => unescaped acronym refused.1 (backslash_of_refused refused)

theorem replaceAcronym_fails {acronym : String} (listed : .str acronym ∈ rules.acronyms)
    (name : List Char) : FailsWith (RefusedAcronym rules) (replaceAcronym acronym name) := by
  unfold replaceAcronym
  split
  · rename_i broken
    exact failsWith_error.2 ⟨acronym, ⟨listed, broken⟩, rfl⟩
  · exact failsWith_ok _

theorem applyAcronyms_fails (texts : rules.Texts) (name : List Char) :
    FailsWith (RefusedAcronym rules) (rules.applyAcronyms name) := by
  refine .foldlM (fun a member name => ?_) name
  have listed := (List.mem_filter.1 member).1
  obtain ⟨s, rfl⟩ := texts.acronyms a listed
  exact replaceAcronym_fails listed name

theorem unrefused_of_applyAcronyms {name cs : List Char} (found : rules.applyAcronyms name = .ok cs)
    (acronym : String) : ¬ rules.Refuses acronym := by
  intro refused
  have given : Label.isGiven (.str acronym) = true := by
    rw [Label.isGiven_str, bne_iff_ne]
    rintro rfl
    exact List.not_mem_nil (backslash_of_refused refused)
  obtain ⟨before, after, replaced⟩ :=
    step_of_foldlM found (List.mem_filter.2 ⟨refused.1, given⟩)
  obtain ⟨_, same, replaced⟩ := bind_ok.1 replaced
  cases same
  rw [replaceAcronym, refused.2] at replaced
  cases replaced

theorem applySuffixes_total (texts : rules.Texts) (name : List Char) :
    ∃ cs, rules.applySuffixes name = .ok cs := by
  refine succeeds_iff.2 (.foldlM (fun w member name => ?_) name)
  obtain ⟨s, rfl⟩ := texts.suffixWords w (List.mem_filter.1 member).1
  exact failsWith_ok (capitalizeSuffix s name)

theorem convert_fails (texts : rules.Texts) (name : List Char) :
    FailsWith (RefusedAcronym rules) (rules.convert name) := by
  have casing (name : List Char) : FailsWith (RefusedAcronym rules) (rules.applyCasing name) := by
    refine .bind (applyAcronyms_fails texts name) fun cs _ => ?_
    obtain ⟨ds, suffixes⟩ := applySuffixes_total texts cs
    exact failsWith_of_ok suffixes
  unfold NamingRules.convert
  split
  · exact casing _
  · exact casing _

theorem convertTwice_fails (texts : rules.Texts) (name : List Char) :
    FailsWith (RefusedAcronym rules) (rules.convertTwice name) :=
  .bind (convert_fails texts name) fun cs _ => convert_fails texts cs

theorem normalize_fails (texts : rules.Texts) (name : String) (isView : Bool) :
    FailsWith (RefusedAcronym rules) (rules.normalize name isView) := by
  unfold NamingRules.normalize
  split
  · exact failsWith_ok _
  · split
    · exact failsWith_ok _
    · split
      · exact (convertTwice_fails texts _).map
      · exact (convertTwice_fails texts _).map

/-- Whether a name is converted: it has letters, and no override gives its fixed name. -/
def NamingRules.Converts (rules : NamingRules) (name : String) : Prop :=
  allBlank name.toList = false ∧ rules.overrides.lookup name = none

theorem unrefused_of_normalize {name : String} {isView : Bool} {fixed : Label}
    (converted : rules.Converts name) (found : rules.normalize name isView = .ok fixed)
    (acronym : String) : ¬ rules.Refuses acronym := by
  have convert {cs ds : List Char} (found : rules.convert cs = .ok ds) :
      ¬ rules.Refuses acronym := by
    unfold NamingRules.convert at found
    split at found
    all_goals
      obtain ⟨_, acronyms, _⟩ := bind_ok.1 found
      exact unrefused_of_applyAcronyms acronyms acronym
  obtain ⟨filled, own⟩ := converted
  simp only [NamingRules.normalize, filled, own, Bool.false_eq_true, if_false] at found
  split at found
  all_goals
    obtain ⟨_, twice, _⟩ := map_ok.1 found
    obtain ⟨_, first, _⟩ := bind_ok.1 twice
    exact convert first

theorem normalizeFunction_fails (texts : rules.Texts) (name : String) :
    FailsWith (RefusedAcronym rules) (rules.normalizeFunction name) := by
  unfold NamingRules.normalizeFunction
  split
  · exact failsWith_ok _
  · exact normalize_fails texts _ false

end Naming

end EntityScaffold
