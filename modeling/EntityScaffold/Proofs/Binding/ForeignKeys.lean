import EntityScaffold.Binding.ForeignKeys
import EntityScaffold.Proofs.Binding.Navigations

/-!
Naming of foreign keys. A walk over the keys of a table hands out the navigations that are still
free; what it hands out to the keys of one association depends on the navigations of that
association alone. Names that are borrowed and names that are made up never meet.
-/
namespace EntityScaffold.Binding

section choice

variable {k : ForeignKey} {target : Table} {free : List Navigation} {n : Navigation}

theorem chosen_ok (chosen : chosen? k target free = some n) :
    n ∈ free ∧ fitsEnd k target n = true := by
  unfold chosen? at chosen
  have candidate : n ∈ free.filter (fitsEnd k target) := by
    rcases Option.or_eq_some_iff.1 chosen with agreeing | ⟨_, first⟩
    · exact List.mem_of_find?_eq_some agreeing
    · exact List.mem_of_mem_head? first
  exact List.mem_filter.1 candidate

theorem association_of_chosen (chosen : chosen? k target free = some n) :
    n.association = k.association := by
  have fits := (chosen_ok chosen).2
  simp only [fitsEnd, Bool.and_eq_true, beq_iff_eq] at fits
  exact fits.1

theorem chosen_filter (k : ForeignKey) (target : Table) (free : List Navigation) :
    chosen? k target (free.filter (·.association == k.association)) = chosen? k target free := by
  have fitting : (free.filter (·.association == k.association)).filter (fitsEnd k target) =
      free.filter (fitsEnd k target) := by
    rw [List.filter_filter]
    congr 1
    funext n
    cases h : n.association == k.association <;> simp [fitsEnd, h]
  simp only [chosen?, fitting]

end choice

def claim? (storage : StorageModel) (free : List Navigation) (k : ForeignKey) :
    Option Navigation :=
  (storage.tables.find? k.table).bind fun target => chosen? k target free

def claims (storage : StorageModel) :
    List Navigation → List ForeignKey → List (ForeignKey × Option Navigation)
  | _, [] => []
  | free, k :: rest =>
    match claim? storage free k with
    | some n => (k, some n) :: claims storage (free.erase n) rest
    | none => (k, none) :: claims storage free rest

theorem keys_of_claims (storage : StorageModel) (free : List Navigation)
    (keys : List ForeignKey) : (claims storage free keys).map Prod.fst = keys := by
  induction keys generalizing free with
  | nil => rfl
  | cons k rest ih =>
    rw [claims]
    cases claim? storage free k with
    | some n => rw [List.map_cons, ih]
    | none => rw [List.map_cons, ih]

theorem association_of_claim {storage : StorageModel} {free : List Navigation} {k : ForeignKey}
    {n : Navigation} (claimed : claim? storage free k = some n) :
    n.association = k.association := by
  obtain ⟨target, _, chosen⟩ := Option.bind_eq_some_iff.1 claimed
  exact association_of_chosen chosen

theorem claim_filter (storage : StorageModel) (free : List Navigation) (k : ForeignKey) :
    claim? storage (free.filter (·.association == k.association)) k = claim? storage free k := by
  simp only [claim?, chosen_filter]

/-- Associations do not compete: the claims on one are those that its own keys and navigations
would make on their own. -/
theorem claims_filter (storage : StorageModel) (free : List Navigation) (keys : List ForeignKey)
    (association : String) :
    (claims storage free keys).filter (fun x => x.1.association == association) =
      claims storage (free.filter (·.association == association))
        (keys.filter (·.association == association)) := by
  induction keys generalizing free with
  | nil => rfl
  | cons k rest ih =>
    by_cases own : k.association = association
    · have kept : ((k :: rest).filter (·.association == association)) =
          k :: rest.filter (·.association == association) := by simp [own]
      have same : claim? storage (free.filter (·.association == association)) k =
          claim? storage free k := own ▸ claim_filter storage free k
      rw [kept, claims, claims, same]
      cases claim? storage free k with
      | none => simp [own, ih]
      | some n => simp [own, ih, List.erase_filter]
    · have dropped : ((k :: rest).filter (·.association == association)) =
          rest.filter (·.association == association) := by simp [own]
      rw [dropped, claims]
      cases claimed : claim? storage free k with
      | none => simp [own, ih]
      | some n =>
        have other : n.association ≠ association := association_of_claim claimed ▸ own
        have untouched : (free.erase n).filter (·.association == association) =
            free.filter (·.association == association) := by
          rw [← List.erase_filter, List.erase_of_not_mem]
          simp [other]
        simp [own, ih, untouched]

section taking

variable {storage : StorageModel} {target : Table} {k g : ForeignKey} {n m : Navigation}

theorem claim_single (known : storage.tables.find? k.table = some target)
    (fits : fitsEnd k target n = true) : claim? storage [n] k = some n := by
  rw [claim?, known, Option.bind_some, chosen?]
  by_cases agrees : (n.multiplicity.isMany == k.destination.isMany) = true
  · simp [fits, agrees]
  · simp [fits, agrees]

theorem claims_single (known : storage.tables.find? k.table = some target)
    (fits : fitsEnd k target n = true) : claims storage [n] [k] = [(k, some n)] := by
  rw [claims, claim_single known fits]
  rfl

/-- Of two navigations that fit, a key takes the first, unless the second alone agrees with it. -/
theorem claim_pair (known : storage.tables.find? k.table = some target)
    (fitsFirst : fitsEnd k target n = true) (fitsSecond : fitsEnd k target m = true) :
    claim? storage [n, m] k =
      some (if n.multiplicity.isMany ≠ k.destination.isMany ∧
        m.multiplicity.isMany = k.destination.isMany then m else n) := by
  rw [claim?, known, Option.bind_some, chosen?]
  by_cases first : n.multiplicity.isMany = k.destination.isMany
  · simp [fitsFirst, fitsSecond, first]
  · by_cases second : m.multiplicity.isMany = k.destination.isMany
    · simp [fitsFirst, fitsSecond, first, second]
    · simp [fitsFirst, fitsSecond, first, second]

theorem claims_pair (apart : n ≠ m) (known : storage.tables.find? k.table = some target)
    (knownToo : storage.tables.find? g.table = some target)
    (fits : ∀ x ∈ [n, m], fitsEnd k target x = true ∧ fitsEnd g target x = true) :
    ∃ x y, (x = n ∧ y = m ∨ x = m ∧ y = n) ∧
      claims storage [n, m] [k, g] = [(k, some x), (g, some y)] ∧
      ((n.multiplicity.isMany = k.destination.isMany ∧
          m.multiplicity.isMany = g.destination.isMany ∨
        m.multiplicity.isMany = k.destination.isMany ∧
          n.multiplicity.isMany = g.destination.isMany) →
        x.multiplicity.isMany = k.destination.isMany ∧
          y.multiplicity.isMany = g.destination.isMany) := by
  obtain ⟨firstFits, firstFitsToo⟩ := fits n (by simp)
  obtain ⟨secondFits, secondFitsToo⟩ := fits m (by simp)
  have choice := claim_pair known firstFits secondFits
  by_cases second : n.multiplicity.isMany ≠ k.destination.isMany ∧
      m.multiplicity.isMany = k.destination.isMany
  · have left : [n, m].erase m = [n] := by simp [apart]
    refine ⟨m, n, .inr ⟨rfl, rfl⟩, ?_, ?_⟩
    · rw [claims, choice, if_pos second]
      simp only [left]
      rw [claims_single knownToo firstFitsToo]
    · rintro (⟨first, _⟩ | agree)
      · exact absurd first second.1
      · exact agree
  · have left : [n, m].erase n = [m] := by simp
    refine ⟨n, m, .inl ⟨rfl, rfl⟩, ?_, ?_⟩
    · rw [claims, choice, if_neg second]
      simp only [left]
      rw [claims_single knownToo secondFitsToo]
    · rintro (agree | ⟨other, back⟩)
      · exact agree
      · have first : n.multiplicity.isMany = k.destination.isMany :=
          Classical.byContradiction fun differs => second ⟨differs, other⟩
        exact ⟨first, by rw [other, ← first, back]⟩

end taking

/-- A key with its claim, and what naming makes of it. -/
structure NamedKey (storage : StorageModel) (claim : ForeignKey × Option Navigation)
    (named : ForeignKey) : Prop where
  target : ∃ target, storage.tables.find? claim.1.table = some target ∧
    named = { claim.1 with
      tableFixedName := target.fixedName
      tableSchema := target.schema
      identifier := named.identifier
      inverseIdentifier := named.inverseIdentifier }
  borrowed : ∀ n, claim.2 = some n →
    named.identifier = n.identifier ∧ named.inverseIdentifier = n.inverseIdentifier

namespace NamedKey

variable {storage : StorageModel} {claim : ForeignKey × Option Navigation} {named : ForeignKey}

theorem association (given : NamedKey storage claim named) :
    named.association = claim.1.association := by
  obtain ⟨_, _, made⟩ := given.target
  rw [made]

theorem isPrincipal (given : NamedKey storage claim named) :
    named.isPrincipal = claim.1.isPrincipal := by
  obtain ⟨_, _, made⟩ := given.target
  rw [made]

theorem destination (given : NamedKey storage claim named) :
    named.destination = claim.1.destination := by
  obtain ⟨_, _, made⟩ := given.target
  rw [made]

end NamedKey

theorem nameForeignKeys_cons {storage : StorageModel} {own : Table} {taken : List Label}
    {free : List Navigation} {k : ForeignKey} {rest named : List ForeignKey}
    (ok : nameForeignKeys storage own taken free (k :: rest) = .ok named) :
    ∃ first others, named = first :: others ∧
      NamedKey storage (k, claim? storage free k) first ∧
      ((∃ n ∈ free, claim? storage free k = some n ∧
          nameForeignKeys storage own taken (free.erase n) rest = .ok others) ∨
        (claim? storage free k = none ∧
          (first.identifier ∉ taken ∧ first.inverseIdentifier = k.inverseIdentifier) ∧
          nameForeignKeys storage own (first.identifier :: taken) free rest = .ok others)) := by
  rw [nameForeignKeys] at ok
  cases known : storage.tables.find? k.table with
  | none => rw [known] at ok; cases ok
  | some target =>
    have choice : claim? storage free k = chosen? k target free := by simp [claim?, known]
    simp only [known] at ok
    cases chosen : chosen? k target free with
    | some n =>
      simp only [chosen, bind_ok, pure_ok] at ok
      obtain ⟨others, walked, rfl⟩ := ok
      rw [choice, chosen]
      refine ⟨_, others, rfl, ⟨⟨target, known, rfl⟩, ?_⟩,
        .inl ⟨n, (chosen_ok chosen).1, rfl, walked⟩⟩
      rintro _ ⟨⟩
      exact ⟨rfl, rfl⟩
    | none =>
      simp only [chosen, bind_ok, pure_ok] at ok
      obtain ⟨identifier, freed, others, walked, rfl⟩ := ok
      have untaken : identifier ∉ taken := by simpa using (Naming.freeLabel_ok freed).1
      rw [choice, chosen]
      exact ⟨_, others, rfl, ⟨⟨target, known, rfl⟩, by simp⟩, .inr ⟨rfl, ⟨untaken, rfl⟩, walked⟩⟩

theorem nameForeignKeys_claims {storage : StorageModel} {own : Table} {taken : List Label}
    {free : List Navigation} {keys named : List ForeignKey}
    (ok : nameForeignKeys storage own taken free keys = .ok named) :
    List.Forall₂ (NamedKey storage) (claims storage free keys) named := by
  induction keys generalizing taken free named with
  | nil =>
    cases ok
    exact .nil
  | cons k rest ih =>
    obtain ⟨first, others, rfl, given, ⟨n, _, claimed, walked⟩ | ⟨unclaimed, _, walked⟩⟩ :=
      nameForeignKeys_cons ok
    · rw [claimed] at given
      rw [claims, claimed]
      exact .cons given (ih walked)
    · rw [unclaimed] at given
      rw [claims, unclaimed]
      exact .cons given (ih walked)

/-- A key has the name of a navigation of its own association, or one that was not taken. -/
def Sourced (taken : List Label) (free : List Navigation) (k : ForeignKey) : Prop :=
  (∃ n ∈ free, n.association = k.association ∧ n.identifier = k.identifier) ∨ k.identifier ∉ taken

theorem nameForeignKeys_distinct {storage : StorageModel} {own : Table} {taken : List Label}
    {free : List Navigation} {keys named : List ForeignKey}
    (distinct : (free.map (·.identifier)).Nodup) (listed : ∀ n ∈ free, n.identifier ∈ taken)
    (ok : nameForeignKeys storage own taken free keys = .ok named) :
    (named.map (·.identifier)).Nodup ∧ ∀ k ∈ named, Sourced taken free k := by
  induction keys generalizing taken free named with
  | nil =>
    cases ok
    exact ⟨List.nodup_nil, by simp⟩
  | cons k rest ih =>
    obtain ⟨first, others, rfl, given, ⟨n, member, claimed, walked⟩ | ⟨_, ⟨untaken, _⟩, walked⟩⟩ :=
      nameForeignKeys_cons ok
    · have split := ((List.perm_cons_erase member).map (·.identifier)).nodup_iff.1 distinct
      obtain ⟨apart, left⟩ := List.nodup_cons.1 split
      obtain ⟨others_distinct, sourced⟩ :=
        ih left (fun m later => listed m (List.mem_of_mem_erase later)) walked
      have borrowed : first.identifier = n.identifier := (given.borrowed n claimed).1
      refine ⟨List.nodup_cons.2 ⟨?_, others_distinct⟩, ?_⟩
      · intro again
        obtain ⟨other, inOthers, equal⟩ := List.mem_map.1 again
        have same : other.identifier = n.identifier := equal.trans borrowed
        rcases sourced other inOthers with ⟨m, later, _, source⟩ | fresh
        · exact apart (List.mem_map.2 ⟨m, later, source.trans same⟩)
        · exact fresh (same ▸ listed n member)
      · intro named inNamed
        rcases List.mem_cons.1 inNamed with rfl | later
        · have own := association_of_claim claimed
          exact .inl ⟨n, member, own.trans given.association.symm, borrowed.symm⟩
        · rcases sourced named later with ⟨m, left, source⟩ | fresh
          · exact .inl ⟨m, List.mem_of_mem_erase left, source⟩
          · exact .inr fresh
    · obtain ⟨others_distinct, sourced⟩ :=
        ih distinct (fun m member => List.mem_cons_of_mem _ (listed m member)) walked
      refine ⟨List.nodup_cons.2 ⟨?_, others_distinct⟩, ?_⟩
      · intro again
        obtain ⟨other, inOthers, same⟩ := List.mem_map.1 again
        rcases sourced other inOthers with ⟨m, member, _, source⟩ | fresh
        · have taken : m.identifier ∈ taken := listed m member
          rw [source.trans same] at taken
          exact untaken taken
        · exact fresh (same ▸ List.mem_cons_self ..)
      · intro named inNamed
        rcases List.mem_cons.1 inNamed with rfl | later
        · exact .inr untaken
        · rcases sourced named later with source | fresh
          · exact .inl source
          · exact .inr fun taken => fresh (List.mem_cons_of_mem _ taken)

end EntityScaffold.Binding
