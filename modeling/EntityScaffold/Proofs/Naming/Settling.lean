import EntityScaffold.Config
import EntityScaffold.Proofs.Naming.Casing

/-!
Fixed names that are fixed once more. A conversion leaves a cased name without underscores, which
a further one changes only by making words of it. After two conversions a name is one word as a
rule, and a word settles with the next. What is left is a name that counts as cased only the first
time: a hyphen or blank in it is a separator for the second conversion, which gives the words behind
it capitals, and for a third one it is a single word with small letters behind the first. A fixed
name of a fixed name never changes any more.
-/
namespace EntityScaffold.Naming
open Text NamingRules

/-- A name whose fixed form is not its own fixed form. It counts as cased, with a separator that its
conversion leaves in it; then it counts as cased no more, neither as it was converted nor as that is
converted again, and making one word of that changes it. -/
structure NamingRules.SettlesLate (rules : NamingRules) (name : List Char) : Prop where
  cased : looksPascal defaultLookahead name = true
  separated : ∃ c ∈ name, isSeparator c = true ∧ c ≠ '_'
  uncased : ∃ first second, rules.convert name = .ok first ∧
    looksPascal defaultLookahead first = false ∧ rules.convert first = .ok second ∧
    looksPascal defaultLookahead second = false ∧
    rules.applyCasing (capitalizeRest second) ≠ .ok second

section capitals

variable {c : Char} {rest : List Char}

theorem isUpper_of_pascal (pascal : looksPascal defaultLookahead (c :: rest) = true) :
    isUpper c = true :=
  (Bool.and_eq_true_iff.1 (Bool.and_eq_true_iff.1 pascal).1).2

theorem isUpper_unscored (upper : isUpper c = true) : (c != '_') = true := by
  rw [bne_iff_ne]
  rintro rfl
  exact absurd (isUpper_unseparated upper) (by decide)

end capitals

namespace Casing

variable (casing : Casing) {name cs : List Char}

structure Converted (cs : List Char) : Prop where
  cased : casing.apply cs = cs
  unscored : '_' ∉ cs
  upright : Upright cs

theorem converted_apply (unscored : '_' ∉ cs) (upright : Upright cs) :
    casing.Converted (casing.apply cs) where
  cased := casing.apply_apply cs
  unscored shown := unscored (casing.separator_of_apply shown rfl)
  upright := casing.apply_upright upright

theorem upright_of_pascal (pascal : looksPascal defaultLookahead name = true) :
    Upright (name.filter (· != '_')) := by
  cases name with
  | nil => cases pascal
  | cons c rest =>
    have upper := isUpper_of_pascal pascal
    rw [List.filter_cons, if_pos (isUpper_unscored upper)]
    exact fun d first => Option.some.inj first ▸ upperChar_of_isUpper upper

theorem convert_converted (name : List Char) : casing.Converted (casing.convert name) := by
  unfold convert
  split
  · rename_i pascal
    exact casing.converted_apply (by simp) (upright_of_pascal pascal)
  · exact casing.converted_apply (joinWords_unseparated name).unscored (joinWords_upright name)

theorem convert_of_pascal (converted : casing.Converted cs)
    (pascal : looksPascal defaultLookahead cs = true) : casing.convert cs = cs := by
  rw [convert, if_pos pascal, filter_unscored converted.unscored, converted.cased]

theorem convert_of_word (plain : Unseparated cs)
    (other : looksPascal defaultLookahead cs = false) :
    casing.convert cs = casing.apply (capitalizeRest cs) := by
  rw [convert, other, if_neg Bool.false_ne_true, joinWords_of_unseparated plain]

theorem convert_unseparated (other : looksPascal defaultLookahead name = false) :
    Unseparated (casing.convert name) := by
  rw [convert, other, if_neg Bool.false_ne_true]
  exact casing.apply_unseparated (joinWords_unseparated name)

theorem convert_word_twice (converted : casing.Converted cs) (plain : Unseparated cs) :
    casing.convert (casing.convert cs) = casing.convert cs := by
  cases first : looksPascal defaultLookahead cs with
  | true => rw [casing.convert_of_pascal converted first, casing.convert_of_pascal converted first]
  | false =>
    cases second : looksPascal defaultLookahead (casing.convert cs) with
    | true => exact casing.convert_of_pascal (casing.convert_converted cs) second
    | false =>
      rw [casing.convert_of_word (casing.convert_unseparated first) second,
        casing.convert_of_word plain first, casing.apply_capitalizeRest converted.upright]

/-- A name has settled with its third conversion. -/
theorem convert_settles (name : List Char) :
    casing.convert (casing.convert (casing.convert (casing.convert name))) =
      casing.convert (casing.convert (casing.convert name)) := by
  have converted := casing.convert_converted name
  cases first : looksPascal defaultLookahead (casing.convert name) with
  | true => simp only [casing.convert_of_pascal converted first]
  | false =>
    exact casing.convert_word_twice (casing.convert_converted _) (casing.convert_unseparated first)

def fixed (name : List Char) : List Char :=
  if allBlank name then name else casing.convert (casing.convert name)

theorem convert_nil : casing.convert [] = [] := casing.apply_nil

theorem convert_of_blank
    (blank : allBlank (casing.convert (casing.convert name)) = true) :
    casing.convert (casing.convert (casing.convert name)) =
      casing.convert (casing.convert name) := by
  cases first : looksPascal defaultLookahead (casing.convert name) with
  | true => exact congrArg _ (casing.convert_of_pascal (casing.convert_converted name) first)
  | false =>
    have word := casing.convert_unseparated first
    have empty : casing.convert (casing.convert name) = [] := by
      apply List.eq_nil_iff_forall_not_mem.2
      intro c member
      have separates : isSeparator c = true := by
        rw [isSeparator, List.all_eq_true.1 blank c member, Bool.or_true]
      rw [word c member] at separates
      cases separates
    rw [empty, convert_nil]

theorem fixed_fixed (filled : allBlank name = false) :
    casing.fixed (casing.fixed name) =
      casing.convert (casing.convert (casing.convert name)) := by
  rw [fixed, fixed, filled, if_neg Bool.false_ne_true]
  split
  · rename_i blank
    exact (casing.convert_of_blank blank).symm
  · exact casing.convert_settles name

theorem fixed_settles (name : List Char) :
    casing.fixed (casing.fixed (casing.fixed name)) = casing.fixed (casing.fixed name) := by
  cases blank : allBlank name with
  | true =>
    have own : casing.fixed name = name := if_pos blank
    rw [own, own, own]
  | false =>
    rw [casing.fixed_fixed blank]
    unfold fixed
    split
    · rfl
    · rw [casing.convert_settles, casing.convert_settles]

end Casing

section rules

variable {rules : NamingRules} {casing : Casing} {name : List Char}

theorem filled_of_pascal (pascal : looksPascal defaultLookahead name = true) :
    allBlank name = false := by
  have opens := (Bool.and_eq_true_iff.1 pascal).1
  cases name with
  | nil => cases opens
  | cons c rest => exact Bool.not_eq_true' _ ▸ (Bool.and_eq_true_iff.1 opens).1

theorem settlesLate_iff (cased : ∀ cs, rules.applyCasing cs = .ok (casing.apply cs))
    (name : List Char) : rules.SettlesLate name ↔
      casing.convert (casing.convert (casing.convert name)) ≠
        casing.convert (casing.convert name) := by
  have made := convert_of_casing cased
  constructor
  · rintro ⟨_, _, first, second, one, uncased, two, uncasedToo, lost⟩
    obtain rfl := Except.ok.inj ((made name).symm.trans one)
    obtain rfl := Except.ok.inj ((made _).symm.trans two)
    rw [casing.convert_of_word (casing.convert_unseparated uncased) uncasedToo]
    exact fun same => lost ((cased _).trans (congrArg _ same))
  · intro changed
    have converted := casing.convert_converted name
    cases uncased : looksPascal defaultLookahead (casing.convert name) with
    | true => exact absurd (congrArg _ (casing.convert_of_pascal converted uncased)) changed
    | false =>
      have word := casing.convert_unseparated uncased
      cases uncasedToo : looksPascal defaultLookahead (casing.convert (casing.convert name)) with
      | true =>
        exact absurd (casing.convert_of_pascal (casing.convert_converted _) uncasedToo) changed
      | false =>
        have many : ¬ Unseparated (casing.convert name) :=
          fun plain => changed (casing.convert_word_twice converted plain)
        cases pascal : looksPascal defaultLookahead name with
        | false => exact absurd (casing.convert_unseparated pascal) many
        | true =>
          refine ⟨pascal, ?_, _, _, made name, uncased, made _, uncasedToo, fun same => ?_⟩
          · simp only [Unseparated, not_forall, Bool.not_eq_false] at many
            obtain ⟨c, shown, separates⟩ := many
            rw [Casing.convert, if_pos pascal] at shown
            have member := casing.separator_of_apply shown separates
            obtain ⟨source, other⟩ := List.mem_filter.1 member
            exact ⟨c, source, separates, bne_iff_ne.1 other⟩
          · rw [casing.convert_of_word word uncasedToo] at changed
            exact changed (Except.ok.inj ((cased _).symm.trans same))

theorem fixed_fixed_iff (cased : ∀ cs, rules.applyCasing cs = .ok (casing.apply cs))
    (name : List Char) :
    casing.fixed (casing.fixed name) = casing.fixed name ↔ ¬ rules.SettlesLate name := by
  cases blank : allBlank name with
  | true =>
    have own : casing.fixed name = name := if_pos blank
    rw [own, own]
    apply iff_of_true rfl
    intro late
    rw [filled_of_pascal late.cased] at blank
    cases blank
  | false =>
    rw [casing.fixed_fixed blank, Casing.fixed, blank, if_neg Bool.false_ne_true,
      settlesLate_iff cased, not_not]

/-- The fixed name of a fixed name is its own, and it is the fixed name just where the name does not
settle late. -/
theorem fixed_names_settle {acronyms suffixWords : List String}
    (tables : AsciiTables acronyms suffixWords)
    (name : String) : ∃ fixed again,
      (ofTexts acronyms suffixWords []).normalize name false = .ok (.str fixed) ∧
      (ofTexts acronyms suffixWords []).normalize fixed false = .ok (.str again) ∧
      (ofTexts acronyms suffixWords []).normalize again false = .ok (.str again) ∧
      (again = fixed ↔ ¬ (ofTexts acronyms suffixWords []).SettlesLate name.toList) := by
  obtain ⟨casing, cased⟩ := exists_casing tables []
  have made (cs : List Char) : (ofTexts acronyms suffixWords []).normalize (.ofList cs) false =
      .ok (.str (.ofList (casing.fixed cs))) := by
    rw [normalize_of_casing cased rfl, String.toList_ofList]
    rfl
  refine ⟨.ofList (casing.fixed name.toList), .ofList (casing.fixed (casing.fixed name.toList)),
    ?_, made _, ?_, ?_⟩
  · rw [← made, String.ofList_toList]
  · rw [made, casing.fixed_settles]
  · rw [String.ofList_inj, fixed_fixed_iff cased]

theorem ghi_settles_late : AsciiTables ["TMS"] ["Doc"] ∧ ∃ fixed again,
    (ofTexts ["TMS"] ["Doc"] []).normalize "Tms-12-ghi" false = .ok (.str fixed) ∧
    (ofTexts ["TMS"] ["Doc"] []).normalize fixed false = .ok (.str again) ∧
    (ofTexts ["TMS"] ["Doc"] []).normalize again false = .ok (.str again) ∧
    (again = fixed ↔ ¬ (ofTexts ["TMS"] ["Doc"] []).SettlesLate "Tms-12-ghi".toList) :=
  ⟨default_tables, fixed_names_settle default_tables "Tms-12-ghi"⟩

/-- With the default tables, the fixed name of that code is not its own fixed name. -/
theorem ghi_fixed_again :
    Settings.defaults.naming = .ok (ofTexts ["TMS"] ["Doc"] []) ∧
      (ofTexts ["TMS"] ["Doc"] []).normalize "Tms-12-ghi" false = .ok (.str "TMS12Ghi") ∧
      (ofTexts ["TMS"] ["Doc"] []).normalize "TMS12Ghi" false = .ok (.str "TMS12ghi") ∧
      "TMS12ghi" ≠ "TMS12Ghi" :=
  ⟨rfl, ok_of_toOption (by decide +kernel), ok_of_toOption (by decide +kernel), by decide⟩

theorem any_take_filter {p q : Char → Bool} {n : Nat} (kept : ∀ c, p c = true → q c = true)
    (found : (name.take n).any p = true) : ((name.filter q).take n).any p = true := by
  obtain ⟨c, member, own⟩ := List.any_eq_true.1 found
  have front : (name.take n).filter q <+: (name.filter q).take n := by
    rw [List.prefix_take_iff]
    constructor
    · exact (List.take_prefix n name).filter q
    · exact Nat.le_trans (List.length_filter_le ..) (List.length_take_le ..)
  exact List.any_eq_true.2 ⟨c, front.subset (List.mem_filter.2 ⟨member, kept c own⟩), own⟩

theorem looksPascal_unscored (pascal : looksPascal defaultLookahead name = true) :
    looksPascal defaultLookahead (name.filter (· != '_')) = true := by
  cases name with
  | nil => cases pascal
  | cons c rest =>
    have upper := isUpper_of_pascal pascal
    have small := (Bool.and_eq_true_iff.1 pascal).2
    have unblank : isBlank c = false := (Bool.or_eq_false_iff.1 (isUpper_unseparated upper)).2
    have unscored (d : Char) (lower : isLower d = true) : (d != '_') = true := by
      rw [bne_iff_ne]
      rintro rfl
      rw [isLower_ascii (by decide)] at lower
      exact absurd lower (by decide)
    rw [List.filter_cons, if_pos (isUpper_unscored upper), looksPascal, Bool.and_eq_true_iff]
    exact ⟨by simp [opensCapital, allBlank, unblank, upper],
      any_take_filter unscored (n := 5) small⟩

/-- Without acronyms and suffix words no name settles late. -/
theorem settled_without_tables (overrides : List (String × String)) (name : List Char) :
    ¬ (ofTexts [] [] overrides).SettlesLate name := by
  rintro ⟨pascal, _, first, _, one, uncased, _⟩
  rw [NamingRules.convert, if_pos pascal] at one
  cases one
  rw [looksPascal_unscored pascal] at uncased
  cases uncased

end rules

end EntityScaffold.Naming
