import EntityScaffold.Naming.Plural

/-!
Names with one plural. The ending that a name gets depends on its last letter, so a plural can be
reached from several names: from itself, from names with a last `z` or with `ce` in its place, and
from a name both with and without a last `e`. There are no other ways.
-/
namespace EntityScaffold.Naming
open Text

def endingOf (name : List Char) : Option PluralEnding :=
  name.getLast?.map fun last => endingAfter [last]

/-- A name comes to the plural of another: the other is that plural, or differs from it in the last
`z`, or is that plural without its last letter. -/
inductive Meets (name : List Char) : List Char → Prop
  | plural : Meets name (pluralChars name)
  | zed (other : List Char) : endingOf name = some .ces → endingOf other = some .ces →
      other.dropLast = name.dropLast → Meets name other
  | ce : endingOf name = some .ces → Meets name (name.dropLast ++ ['c', 'e'])
  | e : endingOf name = some .es → Meets name (name ++ ['e'])

def ended (name : List Char) : PluralEnding → List Char
  | .kept => name
  | .s => name ++ ['s']
  | .ces => name.dropLast ++ ['c', 'e', 's']
  | .es => name ++ ['e', 's']

theorem pluralChars_eq (name : List Char) :
    pluralChars name = (endingOf name).elim name (ended name) := by
  unfold pluralChars endingOf
  cases last : name.getLast? with
  | none => exact (List.getLast?_eq_none_iff.1 last).symm
  | some l =>
    rw [Option.map_some, Option.elim_some]
    show (match endingAfter [l] with | .kept => _ | .s => _ | .ces => _ | .es => _) = _
    cases endingAfter [l] <;> rfl

theorem pluralChars_of {name : List Char} {ending : PluralEnding}
    (ends : endingOf name = some ending) : pluralChars name = ended name ending := by
  rw [pluralChars_eq, ends, Option.elim_some]

theorem pluralChars_append (name : List Char) (last : Char) :
    pluralChars (name ++ [last]) = ended (name ++ [last]) (endingAfter [last]) :=
  pluralChars_of (by rw [endingOf, List.getLast?_concat, Option.map_some])

theorem pluralChars_append_s (name : List Char) : pluralChars (name ++ ['s']) = name ++ ['s'] :=
  pluralChars_append name 's'

theorem pluralChars_append_e (name : List Char) :
    pluralChars (name ++ ['e']) = name ++ ['e', 's'] := by
  rw [pluralChars_append, show endingAfter ['e'] = .s by decide, ended, List.append_assoc]
  rfl

/-- A plural is its own plural. -/
theorem pluralChars_pluralChars (name : List Char) :
    pluralChars (pluralChars name) = pluralChars name := by
  cases ends : endingOf name with
  | none => rw [pluralChars_eq name, ends, Option.elim_none, pluralChars_eq, ends, Option.elim_none]
  | some ending =>
    rw [pluralChars_of ends]
    cases ending with
    | kept => exact pluralChars_of ends
    | s => exact pluralChars_append_s name
    | ces => simpa [ended] using pluralChars_append_s (name.dropLast ++ ['c', 'e'])
    | es => simpa [ended] using pluralChars_append_s (name ++ ['e'])

theorem Meets.same {a b : List Char} (meets : Meets a b) : pluralChars a = pluralChars b := by
  cases meets with
  | plural => exact (pluralChars_pluralChars a).symm
  | zed _ ends endsToo stem => rw [pluralChars_of ends, pluralChars_of endsToo, ended, ended, stem]
  | ce ends =>
    rw [pluralChars_of ends, ended]
    simpa using (pluralChars_append_e (a.dropLast ++ ['c'])).symm
  | e ends => rw [pluralChars_of ends, pluralChars_append_e, ended]

section shared

variable {a b : List Char} {ending other : PluralEnding}

theorem meets_of_settled (settled : pluralChars b = b) (same : pluralChars a = pluralChars b) :
    Meets a b := by
  rw [← settled, ← same]
  exact .plural

theorem ended_inj (same : ended a ending = ended b ending) (cut : ending ≠ .ces) : a = b := by
  cases ending with
  | kept => exact same
  | s => exact List.append_cancel_right same
  | ces => exact absurd rfl cut
  | es => exact List.append_cancel_right same

theorem meets_of_s (endsToo : endingOf b = some other) (same : ended a .s = ended b other)
    (added : other ≠ .kept) : a = b ∨ Meets b a := by
  cases other with
  | kept => exact absurd rfl added
  | s => exact .inl (ended_inj same nofun)
  | ces =>
    have ending : a ++ ['s'] = b.dropLast ++ ['c', 'e'] ++ ['s'] := by simpa [ended] using same
    have stem := List.append_cancel_right ending
    exact .inr (stem ▸ .ce endsToo)
  | es =>
    have ending : a ++ ['s'] = b ++ ['e'] ++ ['s'] := by simpa [ended] using same
    have stem := List.append_cancel_right ending
    exact .inr (stem ▸ .e endsToo)

theorem ended_ces_ne_es (endsToo : endingOf b = some .es) : ended a .ces ≠ ended b .es := by
  intro same
  have ending : b ++ ['e', 's'] = a.dropLast ++ ['c'] ++ ['e', 's'] := by
    simpa [ended] using same.symm
  have stem := List.append_cancel_right ending
  rw [stem, endingOf, List.getLast?_concat, Option.map_some] at endsToo
  exact absurd (Option.some.inj endsToo) (by decide)

theorem meets_of_endings (ends : endingOf a = some ending) (endsToo : endingOf b = some other)
    (same : pluralChars a = pluralChars b) : a = b ∨ Meets a b ∨ Meets b a := by
  by_cases kept : ending = .kept
  · exact .inr (.inr (meets_of_settled (by rw [pluralChars_of ends, kept]; rfl) same.symm))
  by_cases keptToo : other = .kept
  · exact .inr (.inl (meets_of_settled (by rw [pluralChars_of endsToo, keptToo]; rfl) same))
  rw [pluralChars_of ends, pluralChars_of endsToo] at same
  cases ending with
  | kept => exact absurd rfl kept
  | s => exact (meets_of_s endsToo same keptToo).imp_right .inr
  | ces =>
    cases other with
    | kept => exact absurd rfl keptToo
    | s => exact (meets_of_s ends same.symm kept).imp Eq.symm .inl
    | ces => exact .inr (.inl (.zed b ends endsToo (List.append_cancel_right same).symm))
    | es => exact absurd same (ended_ces_ne_es endsToo)
  | es =>
    cases other with
    | kept => exact absurd rfl keptToo
    | s => exact (meets_of_s ends same.symm kept).imp Eq.symm .inl
    | ces => exact absurd same.symm (ended_ces_ne_es ends)
    | es => exact .inl (ended_inj same nofun)

theorem pluralChars_eq_iff :
    pluralChars a = pluralChars b ↔ a = b ∨ Meets a b ∨ Meets b a := by
  constructor
  · intro same
    cases ends : endingOf a with
    | none =>
      have settled : pluralChars a = a := by rw [pluralChars_eq, ends, Option.elim_none]
      exact .inr (.inr (meets_of_settled settled same.symm))
    | some ending =>
      cases endsToo : endingOf b with
      | none =>
        have settled : pluralChars b = b := by rw [pluralChars_eq, endsToo, Option.elim_none]
        exact .inr (.inl (meets_of_settled settled same))
      | some other => exact meets_of_endings ends endsToo same
  · rintro (rfl | meets | meets)
    · rfl
    · exact meets.same
    · exact meets.same.symm

end shared

def SharePlural (s t : String) : Prop :=
  s = t ∨ Meets s.toList t.toList ∨ Meets t.toList s.toList

theorem pluralize_eq_iff {s t : String} : pluralize s = pluralize t ↔ SharePlural s t := by
  rw [pluralize, pluralize, String.ofList_inj, pluralChars_eq_iff, String.toList_inj, SharePlural]

example : SharePlural "Luz" "Luce" := .inr (.inl (.ce (by decide)))

example : SharePlural "Plan" "Plane" := .inr (.inl (.e (by decide)))

end EntityScaffold.Naming
