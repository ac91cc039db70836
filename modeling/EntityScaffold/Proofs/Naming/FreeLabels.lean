import EntityScaffold.Naming.Collision
import EntityScaffold.Proofs.Naming.Texts
import Mathlib.Data.List.Nodup

/-!
What a free label is: none of those that are taken, and one that shows when its base does. There is
none only where the base and all its suffixes are taken, which are more than ten thousand labels.
-/
namespace EntityScaffold

theorem Label.atom_ok {label atom : Label} (found : label.atom = .ok atom) : atom = label := by
  unfold Label.atom at found
  split at found <;> cases found
  rfl

namespace Naming

theorem suffixed_ne_empty (base : String) (k : Nat) : suffixed base k ≠ "" := by
  intro empty
  exact Nat.repr_ne_empty (String.append_eq_empty_iff.1 empty).2

theorem firstFree_ok {base name : String} {taken : String → Bool} {tries k : Nat}
    (found : firstFree? base taken tries k = some name) :
    taken name = false ∧ name ≠ "" := by
  induction tries generalizing k with
  | zero => cases found
  | succ tries ih =>
    rw [firstFree?] at found
    split at found
    · exact ih found
    · rename_i free
      cases found
      exact ⟨by simpa using free, suffixed_ne_empty base k⟩

theorem freeSuffixed_ok {base name : String} {taken : String → Bool}
    (freed : freeSuffixed base taken = .ok name) : taken name = false ∧ name ≠ "" := by
  unfold freeSuffixed at freed
  split at freed
  · rename_i name found
    cases freed
    exact firstFree_ok found
  · cases freed

theorem freeLabel_ok {base label : Label} {taken : Label → Bool}
    (freed : freeLabel base taken = .ok label) :
    taken label = false ∧ (base.isGiven → label.isGiven) := by
  unfold freeLabel at freed
  obtain ⟨atom, same, decided⟩ := bind_ok.1 freed
  rw [Label.atom_ok same] at decided
  split at decided
  · obtain ⟨name, suffix, made⟩ := bind_ok.1 decided
    rw [← pure_ok.1 made]
    obtain ⟨free, filled⟩ := freeSuffixed_ok suffix
    exact ⟨free, fun _ => by simpa using filled⟩
  · rename_i free
    rw [← pure_ok.1 decided]
    exact ⟨by simpa using free, id⟩

theorem freeLabel_atom {base label : Label} {taken : Label → Bool}
    (freed : freeLabel base taken = .ok label) : label.atom = .ok label := by
  unfold freeLabel at freed
  obtain ⟨atom, same, decided⟩ := bind_ok.1 freed
  have equal := Label.atom_ok same
  subst equal
  split at decided
  · obtain ⟨name, _, made⟩ := bind_ok.1 decided
    rw [← pure_ok.1 made]
    rfl
  · rw [← pure_ok.1 decided]
    exact same

theorem freeLabel_ne_null {base label : Label} {taken : Label → Bool} (given : base ≠ .null)
    (freed : freeLabel base taken = .ok label) : label ≠ .null := by
  unfold freeLabel at freed
  obtain ⟨atom, same, decided⟩ := bind_ok.1 freed
  rw [Label.atom_ok same] at decided
  split at decided
  · obtain ⟨name, _, rfl⟩ := map_ok.1 decided
    nofun
  · obtain rfl := pure_ok.1 decided
    exact given

section overflow

theorem toList_suffixed (base : String) (k : Nat) :
    (suffixed base k).toList = base.toList ++ Nat.toDigits 10 k := by
  rw [suffixed, String.toList_append, show toString k = k.repr from rfl, Nat.toList_repr]

theorem suffixed_injective (base : String) : Function.Injective (suffixed base) := by
  intro i j same
  have chars := congrArg String.toList same
  rw [toList_suffixed, toList_suffixed, List.append_cancel_left_eq] at chars
  rw [← @Nat.ofDigitChars_ten_toDigits i, chars, Nat.ofDigitChars_ten_toDigits]

theorem suffixed_ne_base (base : String) (k : Nat) : suffixed base k ≠ base := by
  intro same
  have chars := congrArg String.toList same
  rw [toList_suffixed] at chars
  exact Nat.toDigits_ne_nil (List.append_right_eq_self.1 chars)

theorem firstFree_none_iff {base : String} {taken : String → Bool} {tries k : Nat} :
    firstFree? base taken tries k = none ↔ ∀ i < tries, taken (suffixed base (k + i)) = true := by
  induction tries generalizing k with
  | zero => simp [firstFree?]
  | succ tries ih =>
    rw [firstFree?]
    by_cases first : taken (suffixed base k) = true
    · rw [if_pos first, ih]
      constructor
      · intro others i within
        cases i with
        | zero => exact first
        | succ i =>
          have next := others i (by omega)
          rwa [show k + (i + 1) = k + 1 + i by omega]
      · intro all i within
        have next := all (i + 1) (by omega)
        rwa [show k + 1 + i = k + (i + 1) by omega]
    · rw [if_neg first]
      constructor
      · intro absurdly
        cases absurdly
      · intro all
        exact absurd (all 0 (by omega)) first

def tried (base : String) : List String :=
  base :: (List.range Fault.suffixLimit).map fun i => suffixed base (1 + i)

theorem nodup_tried (base : String) : (tried base).Nodup := by
  refine List.nodup_cons.2 ⟨?_, ?_⟩
  · intro listed
    obtain ⟨i, _, same⟩ := List.mem_map.1 listed
    exact suffixed_ne_base base (1 + i) same
  · refine List.nodup_range.map fun i j same => ?_
    have equal := suffixed_injective base same
    omega

theorem length_tried (base : String) : (tried base).length = Fault.suffixLimit + 1 := by
  simp [tried]

theorem freeLabel_str_error_iff {base : String} {taken : Label → Bool} {f : Fault} :
    freeLabel (.str base) taken = .error f ↔
      f = .noFreeName base ∧ ∀ s ∈ tried base, taken (.str s) = true := by
  have all : (∀ s ∈ tried base, taken (.str s) = true) ↔ taken (.str base) = true ∧
      firstFree? base (fun s => taken (.str s)) Fault.suffixLimit 1 = none := by
    simp [tried, firstFree_none_iff]
  rw [all, freeLabel_str, freeName]
  by_cases own : taken (.str base) = true
  · rw [if_pos own, freeSuffixed]
    cases firstFree? base (fun s => taken (.str s)) Fault.suffixLimit 1 with
    | none => simp [own, Except.map, eq_comm]
    | some name => simp [Except.map]
  · rw [if_neg own]
    simp [own, Except.map]

theorem freeLabel_error_iff {base : String} {taken : List Label} {f : Fault} :
    freeLabel (.str base) taken.contains = .error f ↔
      f = .noFreeName base ∧ ∀ s ∈ tried base, Json.str s ∈ taken := by
  simp only [freeLabel_str_error_iff, List.contains_iff_mem]

/-- Where all that is tried is taken, more labels are taken than suffixes are tried. -/
theorem tried_outnumbers {base : String} {taken : List Label}
    (full : ∀ s ∈ tried base, Json.str s ∈ taken) : Fault.suffixLimit < taken.length := by
  have distinct : ((tried base).map Json.str).Nodup :=
    (nodup_tried base).map fun _ _ equal => Json.str.inj equal
  have within : (tried base).map Json.str ⊆ taken := by
    intro label listed
    obtain ⟨name, inTried, rfl⟩ := List.mem_map.1 listed
    exact full name inTried
  have bound := distinct.length_le_of_subset within
  rw [List.length_map, length_tried] at bound
  omega

theorem freeLabel_fails {base : Label} (text : base.IsText) (taken : List Label) :
    FailsWith (fun f => f = .noFreeName base.display ∧ Fault.suffixLimit < taken.length)
      (freeLabel base taken.contains) := by
  obtain ⟨s, rfl⟩ := text
  intro f failed
  obtain ⟨same, full⟩ := freeLabel_error_iff.1 failed
  exact ⟨same, tried_outnumbers full⟩

theorem freeLabel_text {base label : Label} {taken : Label → Bool} (text : base.IsText)
    (freed : freeLabel base taken = .ok label) : label.IsText := by
  obtain ⟨s, rfl⟩ := text
  rw [freeLabel_str] at freed
  obtain ⟨name, _, rfl⟩ := map_ok.1 freed
  exact ⟨name, rfl⟩

end overflow

end Naming

end EntityScaffold
