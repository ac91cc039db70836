import Mathlib.Data.List.Forall2

/-!
Lists that go side by side, and lists whose members are known by a tag. Walks over a model leave
related lists behind; tags that are all different single out what one member has brought in.
-/
namespace EntityScaffold

variable {α β γ : Type}

theorem related_of_mem_right {R : α → β → Prop} {as : List α} {bs : List β}
    (related : List.Forall₂ R as bs) {b : β} (member : b ∈ bs) : ∃ a ∈ as, R a b := by
  induction related with
  | nil => cases member
  | @cons a c as bs own rest ih =>
    rcases List.mem_cons.1 member with same | later
    · exact ⟨a, by simp, same ▸ own⟩
    · obtain ⟨d, earlier, found⟩ := ih later
      exact ⟨d, List.mem_cons_of_mem a earlier, found⟩

theorem related_of_mem_left {R : α → β → Prop} {as : List α} {bs : List β}
    (related : List.Forall₂ R as bs) {a : α} (member : a ∈ as) : ∃ b ∈ bs, R a b :=
  related_of_mem_right related.flip member

theorem related_at {R : α → β → Prop} {as : List α} {bs : List β} (related : List.Forall₂ R as bs)
    {i : Nat} {a : α} {b : β} (left : as[i]? = some a) (right : bs[i]? = some b) : R a b := by
  obtain ⟨inside, rfl⟩ := List.getElem?_eq_some_iff.1 left
  obtain ⟨insideToo, rfl⟩ := List.getElem?_eq_some_iff.1 right
  exact related.get inside insideToo

theorem related_of_keys {R : α → β → Prop} {f : α → γ} {g : β → γ} {as : List α} {bs : List β}
    (keys : as.map f = bs.map g) (each : ∀ a ∈ as, ∀ b ∈ bs, f a = g b → R a b) :
    List.Forall₂ R as bs := by
  induction as generalizing bs with
  | nil =>
    cases bs with
    | nil => exact .nil
    | cons b rest => cases keys
  | cons a as ih =>
    cases bs with
    | nil => cases keys
    | cons b bs =>
      obtain ⟨own, others⟩ := List.cons.inj keys
      refine .cons (each a (by simp) b (by simp) own) (ih others fun c left d right => ?_)
      exact each c (List.mem_cons_of_mem a left) d (List.mem_cons_of_mem b right)

theorem related_singleton {R : α → β → Prop} {a : α} {bs : List β}
    (related : List.Forall₂ R [a] bs) : ∃ b, bs = [b] ∧ R a b := by
  cases related with
  | cons own rest =>
    cases rest
    exact ⟨_, rfl, own⟩

theorem related_pair {R : α → β → Prop} {a c : α} {bs : List β}
    (related : List.Forall₂ R [a, c] bs) : ∃ b d, bs = [b, d] ∧ R a b ∧ R c d := by
  cases related with
  | cons own rest =>
    obtain ⟨d, rfl, second⟩ := related_singleton rest
    exact ⟨_, d, rfl, own, second⟩

theorem related_trans {R : α → α → Prop} {as bs cs : List α} (first : List.Forall₂ R as bs)
    (second : List.Forall₂ R bs cs) (trans : ∀ a b c, R a b → R b c → R a c) :
    List.Forall₂ R as cs := by
  induction first generalizing cs with
  | nil => exact second
  | cons own _ ih =>
    cases second with
    | cons next others => exact .cons (trans _ _ _ own next) (ih others)

theorem map_eq_of_related {R : α → β → Prop} {as : List α} {bs : List β}
    (related : List.Forall₂ R as bs) {f : α → γ} {g : β → γ}
    (same : ∀ a b, R a b → f a = g b) : as.map f = bs.map g := by
  induction related with
  | nil => rfl
  | cons own _ ih => rw [List.map_cons, List.map_cons, same _ _ own, ih]

theorem map_eq_zipWith_of_related {δ : Type} {P : α → β → Prop} {Q : α → γ → Prop} {as : List α}
    {bs : List β} {cs : List γ} (left : List.Forall₂ P as bs) (right : List.Forall₂ Q as cs)
    {f : α → β → δ} {g : γ → δ} (same : ∀ a b c, P a b → Q a c → g c = f a b) :
    cs.map g = List.zipWith f as bs := by
  induction left generalizing cs with
  | nil =>
    cases right
    rfl
  | cons own _ ih =>
    cases right with
    | cons ownToo rest => rw [List.map_cons, List.zipWith_cons_cons, same _ _ _ own ownToo, ih rest]

theorem filterMap_related {R : α → β → Prop} {S : γ → β → Prop} {f : α → Option γ} {as : List α}
    {bs : List β} (related : List.Forall₂ R as bs)
    (found : ∀ a ∈ as, ∀ b, R a b → ∃ c, f a = some c ∧ S c b) :
    List.Forall₂ S (as.filterMap f) bs := by
  induction related with
  | nil => exact .nil
  | @cons a b as bs own _ ih =>
    obtain ⟨c, made, related⟩ := found a (List.mem_cons_self ..) b own
    rw [List.filterMap_cons_some made]
    exact .cons related (ih fun d later => found d (List.mem_cons_of_mem a later))

theorem flatMap_const_nil (as : List α) : (as.flatMap fun _ => ([] : List β)) = [] :=
  List.flatMap_eq_nil_iff.2 fun _ _ => rfl

theorem find_of_related {R : α → β → Prop} {as : List α} {bs : List β}
    (related : List.Forall₂ R as bs) {p : α → Bool} {q : β → Bool}
    (same : ∀ a b, R a b → p a = q b) : Option.Rel R (as.find? p) (bs.find? q) := by
  induction related with
  | nil => exact .none
  | @cons a b as bs own _ ih =>
    rw [List.find?_cons, List.find?_cons, same a b own]
    cases q b
    · exact ih
    · exact .some own

theorem filter_related {R : α → β → Prop} {as : List α} {bs : List β}
    (related : List.Forall₂ R as bs) {p : α → Bool} {q : β → Bool}
    (same : ∀ a b, R a b → p a = q b) : List.Forall₂ R (as.filter p) (bs.filter q) := by
  refine List.rel_filter (fun a b own => ?_) related
  show p a = true ↔ q b = true
  rw [same a b own]

/-- Of all that the members of a list bring in, what has the tag of one is what that one brings. -/
theorem filter_flatMap_of_nodup [DecidableEq γ] {bring : α → List β} {key : α → γ} {tag : β → γ}
    {as : List α} (distinct : (as.map key).Nodup)
    (tagged : ∀ a ∈ as, ∀ b ∈ bring a, tag b = key a) {a : α} (member : a ∈ as) :
    (as.flatMap bring).filter (tag · == key a) = bring a := by
  induction as with
  | nil => cases member
  | cons first rest ih =>
    obtain ⟨apart, others⟩ := List.nodup_cons.1 distinct
    have inRest := fun c later => tagged c (List.mem_cons_of_mem first later)
    have own := tagged first (List.mem_cons_self ..)
    rw [List.flatMap_cons, List.filter_append]
    rcases List.mem_cons.1 member with rfl | later
    · have kept : (bring a).filter (tag · == key a) = bring a :=
        List.filter_eq_self.2 fun b inOwn => by simp [own b inOwn]
      have dropped : (rest.flatMap bring).filter (tag · == key a) = [] := by
        refine List.filter_eq_nil_iff.2 fun b brought same => apart ?_
        obtain ⟨c, later, inOther⟩ := List.mem_flatMap.1 brought
        have equal : key c = key a := (inRest c later b inOther).symm.trans (by simpa using same)
        exact List.mem_map.2 ⟨c, later, equal⟩
      rw [kept, dropped, List.append_nil]
    · have dropped : (bring first).filter (tag · == key a) = [] := by
        refine List.filter_eq_nil_iff.2 fun b inOwn same => apart ?_
        have equal : tag b = key a := by simpa using same
        exact List.mem_map.2 ⟨a, later, equal.symm.trans (own b inOwn)⟩
      rw [dropped, List.nil_append, ih others inRest later]

theorem filter_of_nodup_map [DecidableEq γ] {key : α → γ} {as : List α}
    (distinct : (as.map key).Nodup) {a : α} (member : a ∈ as) :
    as.filter (key · == key a) = [a] := by
  have single := @filter_flatMap_of_nodup α α γ _ (fun a => [a]) key key as distinct
    (fun a _ b inOwn => by rw [List.mem_singleton.1 inOwn]) a member
  rwa [List.flatMap_singleton'] at single

theorem length_filter_eq_one {as : List α} {p : α → Bool} : (as.filter p).length = 1 ↔
    ∃ i, i < as.length ∧ ∀ j a, as[j]? = some a → (p a = true ↔ j = i) := by
  induction as with
  | nil => simp
  | cons first rest ih =>
    by_cases own : p first = true
    · rw [List.filter_cons_of_pos own, List.length_cons, Nat.add_eq_right, List.length_eq_zero_iff,
        List.filter_eq_nil_iff]
      constructor
      · intro none
        refine ⟨0, by simp, fun j a found => ?_⟩
        cases j with
        | zero => simp_all
        | succ k => simpa using none a (List.mem_of_getElem? found)
      · rintro ⟨i, _, only⟩ a member passes
        obtain ⟨k, found⟩ := List.getElem?_of_mem member
        have atFirst := (only 0 first rfl).1 own
        have later := (only (k + 1) a found).1 passes
        omega
    · rw [List.filter_cons_of_neg own, ih]
      constructor
      · rintro ⟨i, inside, only⟩
        refine ⟨i + 1, by simpa using inside, fun j a found => ?_⟩
        cases j with
        | zero => simp_all
        | succ k => simpa using only k a found
      · rintro ⟨i, inside, only⟩
        cases i with
        | zero => exact absurd ((only 0 first rfl).2 rfl) own
        | succ k =>
          refine ⟨k, by simpa using inside, fun j a found => ?_⟩
          simpa using only (j + 1) a found

theorem nodup_eraseDups [BEq α] [LawfulBEq α] (as : List α) : as.eraseDups.Nodup := by
  induction length : as.length using Nat.strongRecOn generalizing as with
  | ind n ih =>
    cases as with
    | nil => simp
    | cons a rest =>
      have shorter : (rest.filter fun b => !b == a).length < n := by
        have bound := List.length_filter_le (fun b => !b == a) rest
        simp only [List.length_cons] at length
        omega
      rw [List.eraseDups_cons, List.nodup_cons]
      exact ⟨by simp, ih _ shorter _ rfl⟩

instance decidableOnly {P : α → Prop} [DecidablePred P] :
    (as : List α) → Decidable (∃ a, as = [a] ∧ P a)
  | [] => isFalse (by simp)
  | [a] => decidable_of_iff (P a) (by simp)
  | _ :: _ :: _ => isFalse (by simp)

instance decidablePair {P : α → α → Prop} [∀ a b, Decidable (P a b)] :
    (as : List α) → Decidable (∃ a b, as = [a, b] ∧ P a b)
  | [] => isFalse (by simp)
  | [_] => isFalse (by simp)
  | [a, b] => decidable_of_iff (P a b) (by simp)
  | _ :: _ :: _ :: _ => isFalse (by simp)

end EntityScaffold
