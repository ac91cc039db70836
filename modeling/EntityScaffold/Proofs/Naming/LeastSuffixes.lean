import EntityScaffold.Proofs.Naming.FreeLabels
import Mathlib.Data.Finset.Card
import Mathlib.Order.Bounds.Defs

/-!
What a text is freed to: itself where it is free, and else itself with the least number behind it
that makes it free. As no two numbers make the same text, a set of labels must have more members
than there are numbers to try before it can hold all of them.
-/
namespace EntityScaffold.Naming

variable {base name : String} {taken : String → Bool} {label : Label}

theorem firstFree_some_iff {tries k : Nat} : firstFree? base taken tries k = some name ↔
    ∃ i, k ≤ i ∧ i < k + tries ∧ taken (suffixed base i) = false ∧
      (∀ j, k ≤ j → j < i → taken (suffixed base j) = true) ∧ name = suffixed base i := by
  induction tries generalizing k with
  | zero =>
    constructor
    · nofun
    · intro found
      obtain ⟨i, from_, below, _⟩ := found
      omega
  | succ tries ih =>
    unfold firstFree?
    by_cases first : taken (suffixed base k) = true
    · rw [if_pos first, ih]
      constructor
      · intro found
        obtain ⟨i, start, stop, free, earlier, same⟩ := found
        refine ⟨i, by omega, by omega, free, ?_, same⟩
        intro j low high
        by_cases own : j = k
        · exact own ▸ first
        · exact earlier j (by omega) high
      · intro found
        obtain ⟨i, start, stop, free, earlier, same⟩ := found
        have later : i ≠ k := by
          rintro rfl
          rw [first] at free
          cases free
        exact ⟨i, by omega, by omega, free, fun j low => earlier j (by omega), same⟩
    · rw [if_neg first, Option.some.injEq]
      constructor
      · intro same
        refine ⟨k, by omega, by omega, by simpa using first, ?_, same.symm⟩
        intro j low high
        omega
      · intro found
        obtain ⟨i, start, stop, free, earlier, same⟩ := found
        have own : i = k := by
          by_contra other
          exact first (earlier k (by omega) (by omega))
        rw [same, own]

def FreeSuffixes (base : String) (taken : String → Bool) : Set Nat :=
  {k | 1 ≤ k ∧ taken (base ++ toString k) = false}

theorem firstFree_least : firstFree? base taken Fault.suffixLimit 1 = some name ↔
    ∃ k, IsLeast (FreeSuffixes base taken) k ∧ k ≤ Fault.suffixLimit ∧
      name = base ++ toString k := by
  rw [firstFree_some_iff]
  constructor
  · intro found
    obtain ⟨k, positive, bounded, free, earlier, same⟩ := found
    refine ⟨k, ⟨⟨positive, free⟩, ?_⟩, by omega, same⟩
    intro j other
    by_contra less
    have used := earlier j other.1 (by omega)
    rw [show taken (suffixed base j) = false from other.2] at used
    cases used
  · intro found
    obtain ⟨k, ⟨⟨positive, free⟩, least⟩, bounded, same⟩ := found
    refine ⟨k, positive, by omega, free, ?_, same⟩
    intro j low high
    by_contra unused
    have below : k ≤ j := least ⟨low, Bool.eq_false_of_not_eq_true unused⟩
    omega

theorem freeSuffixed_eq_ok : freeSuffixed base taken = .ok name ↔
    firstFree? base taken Fault.suffixLimit 1 = some name := by
  unfold freeSuffixed
  cases firstFree? base taken Fault.suffixLimit 1 <;> simp

theorem mem_tried : name ∈ tried base ↔
    name = base ∨ ∃ k, 1 ≤ k ∧ k ≤ Fault.suffixLimit ∧ name = base ++ toString k := by
  unfold tried
  rw [List.mem_cons, List.mem_map]
  apply or_congr_right
  constructor
  · intro listed
    obtain ⟨i, within, same⟩ := listed
    have bound := List.mem_range.1 within
    exact ⟨1 + i, by omega, by omega, same.symm⟩
  · intro numbered
    obtain ⟨k, positive, bounded, same⟩ := numbered
    refine ⟨k - 1, List.mem_range.2 (by omega), ?_⟩
    rw [same, show 1 + (k - 1) = k by omega]
    rfl

theorem freeLabel_str_ok_iff {taken : Label → Bool} : freeLabel (.str base) taken = .ok label ↔
    taken (.str base) = false ∧ label = .str base ∨
    taken (.str base) = true ∧ ∃ k, IsLeast (FreeSuffixes base fun s => taken (.str s)) k ∧
      k ≤ Fault.suffixLimit ∧ label = .str (base ++ toString k) := by
  rw [freeLabel_str, freeName]
  by_cases own : taken (.str base) = true
  · rw [if_pos own, own, map_ok]
    simp only [freeSuffixed_eq_ok, firstFree_least, Bool.true_eq_false, false_and, true_and,
      false_or]
    constructor
    · intro freed
      obtain ⟨name, ⟨k, least, bounded, rfl⟩, rfl⟩ := freed
      exact ⟨k, least, bounded, rfl⟩
    · intro freed
      obtain ⟨k, least, bounded, same⟩ := freed
      exact ⟨_, ⟨k, least, bounded, rfl⟩, same.symm⟩
  · have free : taken (.str base) = false := Bool.eq_false_of_not_eq_true own
    simp [free, map_ok, eq_comm]

/-- A text that is free stays as it is, and one that is taken gets the least number that makes it
free. None does only where the text is taken with each number and without one, which a set of labels
brings about only if it has more members than there are numbers to try. -/
theorem freeLabel_least (base : String) (taken : Label → Bool) :
    (∀ label, freeLabel (.str base) taken = .ok label ↔
      taken (.str base) = false ∧ label = .str base ∨
      taken (.str base) = true ∧ ∃ k, IsLeast (FreeSuffixes base fun s => taken (.str s)) k ∧
        k ≤ Fault.suffixLimit ∧ label = .str (base ++ toString k)) ∧
    (∀ f, freeLabel (.str base) taken = .error f ↔
      f = .noFreeName base ∧ taken (.str base) = true ∧
        ∀ k, 1 ≤ k → k ≤ Fault.suffixLimit → taken (.str (base ++ toString k)) = true) ∧
    (∀ label, freeLabel (.str base) taken = .ok label → taken label = false) ∧
    ∀ names : Finset Label, (∀ label, taken label = true → label ∈ names) →
      names.card ≤ Fault.suffixLimit → ∃ label, freeLabel (.str base) taken = .ok label := by
  refine ⟨fun label => freeLabel_str_ok_iff, ?_, fun label freed => (freeLabel_ok freed).1, ?_⟩
  · intro f
    rw [freeLabel_str_error_iff]
    apply and_congr_right
    intro _
    constructor
    · intro full
      refine ⟨full base (mem_tried.2 (.inl rfl)), ?_⟩
      intro k positive bounded
      exact full _ (mem_tried.2 (.inr ⟨k, positive, bounded, rfl⟩))
    · intro full s listed
      obtain rfl | ⟨k, positive, bounded, rfl⟩ := mem_tried.1 listed
      · exact full.1
      · exact full.2 k positive bounded
  · intro names covered few
    apply succeeds_iff.2
    intro f failed
    obtain ⟨_, full⟩ := freeLabel_str_error_iff.1 failed
    have many : Fault.suffixLimit < names.toList.length := by
      apply tried_outnumbers
      intro s listed
      exact Finset.mem_toList.2 (covered _ (full s listed))
    rw [Finset.length_toList] at many
    omega

def customerNames : List Label := [.str "Customer", .str "Customer3", .str "Customer1"]

theorem customer_freed :
    IsLeast (FreeSuffixes "Customer" fun s => customerNames.contains (.str s)) 2 ∧
      freeLabel (.str "Customer") customerNames.contains = .ok (.str "Customer2") ∧
      customerNames.contains (.str "Customer2") = false ∧
      customerNames.toFinset.card ≤ Fault.suffixLimit ∧
      ∃ label, freeLabel (.str "Order") customerNames.contains = .ok label := by
  have least : IsLeast (FreeSuffixes "Customer" fun s => customerNames.contains (.str s)) 2 := by
    constructor
    · exact ⟨by decide, by decide⟩
    · intro k free
      by_contra less
      have one : k = 1 := by
        have positive := free.1
        omega
      subst one
      exact absurd free.2 (by decide)
  have freed : freeLabel (.str "Customer") customerNames.contains = .ok (.str "Customer2") :=
    ((freeLabel_least ..).1 _).2 (.inr ⟨by decide, 2, least, by decide, rfl⟩)
  have few : customerNames.toFinset.card ≤ Fault.suffixLimit := by decide
  refine ⟨least, freed, (freeLabel_least ..).2.2.1 _ freed, few, ?_⟩
  apply (freeLabel_least ..).2.2.2 customerNames.toFinset _ few
  intro label held
  exact List.mem_toFinset.2 (List.contains_iff_mem.1 held)

end EntityScaffold.Naming
