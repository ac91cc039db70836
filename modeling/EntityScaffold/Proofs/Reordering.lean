import EntityScaffold.Sorting
import EntityScaffold.Proofs.Outcomes

/-!
Lists in another order. A sort by keys that tell the members apart forgets the order they came in;
a walk with one possible fault ends with it in every order, or in none.
-/
namespace EntityScaffold

variable {ε α β γ δ : Type}

section sorting

def byKeys (first second : α → String) (a b : α) : Bool :=
  decide (first a < first b) || (first a == first b && decide (second a ≤ second b))

variable {first second : α → String}

theorem byKeys_iff {a b : α} : byKeys first second a b = true ↔
    first a < first b ∨ (first a = first b ∧ second a ≤ second b) := by
  simp [byKeys]

theorem byKeys_total (a b : α) (later : byKeys first second a b = false) :
    byKeys first second b a = true := by
  rw [← Bool.not_eq_true, byKeys_iff, not_or, not_and, String.not_lt, String.not_le] at later
  obtain ⟨upper, tie⟩ := later
  rw [byKeys_iff]
  by_cases same : first a = first b
  · exact .inr ⟨same.symm, String.not_lt.1 (String.lt_asymm (tie same))⟩
  · exact .inl (String.not_le.1 fun lower => same (String.le_antisymm lower upper))

theorem byKeys_trans (a b c : α) (left : byKeys first second a b = true)
    (right : byKeys first second b c = true) : byKeys first second a c = true := by
  rw [byKeys_iff] at left right ⊢
  rcases left with before | ⟨same, before⟩
  · rcases right with later | ⟨sameToo, _⟩
    · exact .inl (String.lt_trans before later)
    · exact .inl (sameToo ▸ before)
  · rcases right with later | ⟨sameToo, later⟩
    · exact .inl (same ▸ later)
    · exact .inr ⟨same.trans sameToo, String.le_trans before later⟩

theorem byKeys_antisymm {a b : α} (left : byKeys first second a b = true)
    (right : byKeys first second b a = true) : first a = first b ∧ second a = second b := by
  rw [byKeys_iff] at left right
  rcases left with before | ⟨same, before⟩
  · rcases right with later | ⟨equal, _⟩
    · exact absurd later (String.lt_asymm before)
    · exact absurd (equal ▸ before) (String.lt_irrefl _)
  · rcases right with later | ⟨_, later⟩
    · exact absurd (same ▸ later) (String.lt_irrefl _)
    · exact ⟨same, String.le_antisymm before later⟩

theorem sortBy_byKeys_perm (first second : α → String) {as bs : List α} (perm : as.Perm bs)
    (apart : ∀ a ∈ as, ∀ b ∈ as, second a = second b → a = b) :
    sortBy (byKeys first second) as = sortBy (byKeys first second) bs := by
  refine List.Perm.eq_of_pairwise (fun a b inAs inBs left right => ?_)
    (sortBy_ordered as byKeys_total byKeys_trans) (sortBy_ordered bs byKeys_total byKeys_trans)
    (((sortBy_perm _ as).trans perm).trans (sortBy_perm _ bs).symm)
  exact apart a (mem_sortBy.1 inAs) b (perm.mem_iff.2 (mem_sortBy.1 inBs))
    (byKeys_antisymm left right).2

end sorting

theorem eraseDups_perm [BEq α] [LawfulBEq α] {as bs : List α} (perm : as.Perm bs) :
    as.eraseDups.Perm bs.eraseDups := by
  refine (List.perm_ext_iff_of_nodup (nodup_eraseDups as) (nodup_eraseDups bs)).2 fun a => ?_
  rw [List.mem_eraseDups, List.mem_eraseDups, perm.mem_iff]

/-- Two steps that end with the same fault, or with related results. -/
inductive Agree (R : α → β → Prop) : Except ε α → Except ε β → Prop
  | error (e : ε) : Agree R (.error e) (.error e)
  | ok {a : α} {b : β} : R a b → Agree R (.ok a) (.ok b)

namespace Agree

variable {R : α → β → Prop} {S : γ → δ → Prop}

theorem bind {x : Except ε α} {y : Except ε β} {f : α → Except ε γ} {g : β → Except ε δ}
    (first : Agree R x y) (next : ∀ a b, x = .ok a → R a b → Agree S (f a) (g b)) :
    Agree S (x >>= f) (y >>= g) := by
  cases first with
  | error e => exact .error e
  | ok related => exact next _ _ rfl related

theorem map {x : Except ε α} {y : Except ε β} {f : α → γ} {g : β → δ} (same : Agree R x y)
    (step : ∀ a b, R a b → S (f a) (g b)) : Agree S (x.map f) (y.map g) := by
  cases same with
  | error e => exact .error e
  | ok related => exact .ok (step _ _ related)

theorem imp {Q : α → β → Prop} {x : Except ε α} {y : Except ε β} (same : Agree R x y)
    (step : ∀ a b, x = .ok a → R a b → Q a b) : Agree Q x y := by
  cases same with
  | error e => exact .error e
  | ok related => exact .ok (step _ _ rfl related)

theorem of_ok {a : α} {y : Except ε β} (same : Agree R (.ok a) y) : ∃ b, y = .ok b ∧ R a b := by
  cases same with
  | ok related => exact ⟨_, rfl, related⟩

theorem eq {x y : Except ε α} (same : Agree Eq x y) : x = y := by
  cases same with
  | error e => rfl
  | ok equal => rw [equal]

theorem bind_same {x : Except ε α} {f : α → Except ε γ} {g : α → Except ε δ}
    (next : ∀ a, Agree S (f a) (g a)) : Agree S (x >>= f) (x >>= g) := by
  cases x with
  | error e => exact .error e
  | ok a => exact next a

theorem of_oneFault {fault : ε} {x : Except ε α} {y : Except ε β} (left : FailsWith (· = fault) x)
    (right : FailsWith (· = fault) y) (forth : ∀ a, x = .ok a → ∃ b, y = .ok b ∧ R a b)
    (back : ∀ b, y = .ok b → ∃ a, x = .ok a) : Agree R x y := by
  cases x with
  | ok a =>
    obtain ⟨b, rfl, related⟩ := forth a rfl
    exact .ok related
  | error e =>
    cases y with
    | ok b =>
      obtain ⟨a, found⟩ := back b rfl
      cases found
    | error e' =>
      rw [left e rfl, right e' rfl]
      exact .error fault

end Agree

section walks

variable {as bs : List α}

theorem mapM_agree (fault : ε) {f : α → Except ε β} (perm : as.Perm bs)
    (each : ∀ a ∈ as, FailsWith (· = fault) (f a)) :
    Agree List.Perm (as.mapM f) (bs.mapM f) :=
  .of_oneFault (.mapM each) (.mapM fun a member => each a (perm.mem_iff.2 member))
    (fun _ walked => mapM_perm perm walked)
    (fun _ walked => (mapM_perm perm.symm walked).imp fun _ found => found.1)

theorem forM_perm (fault : ε) {f : α → Except ε Unit} (perm : as.Perm bs)
    (each : ∀ a ∈ as, FailsWith (· = fault) (f a)) : as.forM f = bs.forM f := by
  refine Agree.eq (.of_oneFault (.forM each)
    (.forM fun a member => each a (perm.mem_iff.2 member)) (fun u walked => ?_) fun u walked => ?_)
  · exact ⟨u, forM_ok.2 fun a member => forM_ok.1 walked a (perm.mem_iff.2 member), rfl⟩
  · exact ⟨u, forM_ok.2 fun a member => forM_ok.1 walked a (perm.mem_iff.1 member)⟩

end walks

end EntityScaffold
