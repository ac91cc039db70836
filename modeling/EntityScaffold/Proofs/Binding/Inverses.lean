import EntityScaffold.Proofs.Binding.Associations
import EntityScaffold.Proofs.Binding.Idempotence
import EntityScaffold.Proofs.Binding.Identifiers

/-!
Ways back. Linking gives a navigation the name of another one, which lies on its target, belongs to
the same association and leads to where the navigation starts. Where an association has its name for
itself it has brought two navigations and no third goes by that name, so each of them is the only
way back of the other. On one entity they lie side by side and differ in their names alone; on two
they differ in where they start.
-/
namespace EntityScaffold.Binding
open Reading

structure WayBack (r : ResolvedModel) (e : Entity) (n : Navigation) (d : Entity)
    (m : Navigation) : Prop where
  target : r.conceptual.entities.find? n.targetName = some d
  inUse : d.isUsed = true
  member : m ∈ d.navigations
  other : m ≠ n
  association : m.association = n.association
  leads : m.targetName = e.name
  named : n.inverseIdentifier = m.identifier

section ends

variable {p : ModelPair} {b : EntityAssociation} {e d : Entity} {near far : List Navigation}
  {n : Navigation}

/-- Two navigations are each other's way back, as linking looks for them among those that the
association has on the entities where they lead. -/
structure Opposite (here there : String) (near far : List Navigation) (n m : Navigation) :
    Prop where
  back : far.find? (fun x => x != n && x.targetName == here) = some m
  forth : near.find? (fun x => x != m && x.targetName == there) = some n

theorem opposite_within (given : List.Forall₂ (NamedNavigation p) (b.navigationsAt e.name) near)
    (distinct : (near.map (·.identifier)).Nodup) (first : b.first.1 = e.name)
    (second : b.second.1 = e.name) (member : n ∈ near) : ∃ m, Opposite e.name e.name near near n m := by
  have both : b.navigationsAt e.name = [b.firstNavigation, b.secondNavigation] := by
    simp [EntityAssociation.navigationsAt, first, second]
  obtain ⟨x, y, rfl, naming, namingToo⟩ := related_pair (both ▸ given)
  have leads : x.targetName = e.name := naming.targetName.trans second
  have leadsToo : y.targetName = e.name := namingToo.targetName.trans first
  have differ : x ≠ y := by
    rintro rfl
    simp at distinct
  rcases List.mem_pair.1 member with rfl | rfl
  · exact ⟨y, by simp [differ.symm, leadsToo], by simp [differ, leads]⟩
  · exact ⟨x, by simp [differ, leads], by simp [differ.symm, leadsToo]⟩

theorem opposite_across (apart : e.name ≠ d.name) (joins : Joins b e d)
    (given : List.Forall₂ (NamedNavigation p) (b.navigationsAt e.name) near)
    (givenFar : List.Forall₂ (NamedNavigation p) (b.navigationsAt d.name) far)
    (member : n ∈ near) : ∃ m, Opposite e.name d.name near far n m := by
  obtain ⟨forth, back, ends⟩ := exists_ends apart joins
  obtain ⟨x, rfl, naming⟩ := related_singleton (ends.here ▸ given)
  obtain ⟨y, rfl, namingFar⟩ := related_singleton (ends.there ▸ givenFar)
  obtain rfl := List.mem_singleton.1 member
  have leads : n.targetName = d.name := naming.targetName.trans ends.forthLeads
  have leadsBack : y.targetName = e.name := namingFar.targetName.trans ends.backLeads
  have starts : n.entityName = e.name := naming.entityName.trans ends.forthOwn
  have startsFar : y.entityName = d.name := namingFar.entityName.trans ends.backOwn
  have differ : n ≠ y := fun same => apart (starts.symm.trans (same ▸ startsFar))
  exact ⟨y, by simp [differ.symm, leadsBack], by simp [differ, leads]⟩

end ends

theorem joins_of_navigation {b : EntityAssociation} {e d : Entity} {n : Navigation}
    (member : n ∈ b.navigationsAt e.name) (leads : n.targetName = d.name) : Joins b e d := by
  rcases mem_navigationsAt.1 member with ⟨starts, rfl⟩ | ⟨starts, rfl⟩
  · exact .inl ⟨starts, leads⟩
  · exact .inr ⟨leads, starts⟩

namespace BoundEntity

variable {storage : StorageModel} {conceptual : ConceptualModel} {links : List Link}
  {named : ModelPair} {read e : Entity} {navigations : List Navigation}
  {joined : List EntityAssociation}

theorem navigation_source
    (bound : BoundEntity storage conceptual links named read navigations e) {n : Navigation}
    (member : n ∈ e.navigations) :
    ∃ before ∈ navigations, n = linkNavigation named.conceptual read before ∧
      ∃ first ∈ read.navigations,
        NamedNavigation (markAll ⟨storage, conceptual⟩ links) first before := by
  obtain ⟨_, _, given⟩ := bound.scope
  rw [bound.made] at member
  obtain ⟨before, inNamed, rfl⟩ := List.mem_map.1 member
  exact ⟨before, inNamed, rfl, related_of_mem_right given.each inNamed⟩

theorem navigations_named
    (bound : BoundEntity storage conceptual links named read navigations e)
    (entity : ReadEntity joined read) (names : (joined.map (·.name)).Nodup)
    {b : EntityAssociation} (inJoined : b ∈ joined) :
    List.Forall₂ (NamedNavigation (markAll ⟨storage, conceptual⟩ links))
        (b.navigationsAt e.name) (navigations.filter (·.association == b.name)) ∧
      ((navigations.filter (·.association == b.name)).map (·.identifier)).Nodup := by
  obtain ⟨_, _, given⟩ := bound.scope
  have own : read.name = e.name := Catalog.key_of_find? bound.inRead
  refine ⟨?_, (List.filter_sublist.map _).nodup given.distinct⟩
  rw [← own, ← navigationsAt_of_read entity names inJoined]
  exact filter_related given.each fun _ _ naming => by rw [naming.association]

theorem find_named (bound : BoundEntity storage conceptual links named read navigations e) :
    named.conceptual.entities.find? (markedEntity links read).name =
      some { markedEntity links read with navigations := navigations } := by
  rw [name_markedEntity, show read.name = e.name from Catalog.key_of_find? bound.inRead]
  exact bound.inNamed

end BoundEntity

namespace Stages

variable {storage : StorageModel} {conceptual : ConceptualModel} {mappings : List Mapping}
  {links : List Link} {named : ModelPair} {r : ResolvedModel} {joined : List EntityAssociation}
  {e d read far : Entity} {near others : List Navigation}

theorem bound_entity (stages : Stages storage conceptual mappings links named r)
    (inUse : e ∈ r.usedEntities) :
    ∃ read navigations, BoundEntity storage conceptual links named read navigations e := by
  obtain ⟨inModel, used⟩ := mem_usedEntities.1 inUse
  exact stages.used_entity (Catalog.find?_of_mem inModel) used

theorem wayBack_of_inverse
    (bound : BoundEntity storage conceptual links named read near e)
    (boundFar : BoundEntity storage conceptual links named far others d)
    (target : d ∈ r.usedEntities) {n back : Navigation} (member : n ∈ near)
    (leads : n.targetName = d.name) (found : inverse? named.conceptual read n = some back) :
    WayBack r e (linkNavigation named.conceptual read n) d
      (linkNavigation named.conceptual far back) := by
  obtain ⟨inModel, used⟩ := mem_usedEntities.1 target
  obtain ⟨_, _, given⟩ := bound.scope
  have own : read.name = e.name := Catalog.key_of_find? bound.inRead
  have inNamed := leads ▸ boundFar.inNamed
  have inOthers := inverse_of_named inNamed ▸ found
  obtain ⟨inFar, association⟩ := List.mem_filter.1 (List.mem_of_find?_eq_some inOthers)
  have conditions := List.find?_some inOthers
  simp only [Bool.and_eq_true, bne_iff_ne, beq_iff_eq] at conditions
  have apart : linkNavigation named.conceptual far back ≠ linkNavigation named.conceptual read n := by
    rw [linkNavigation_of_name _ (name_markedEntity links far).symm,
      linkNavigation_of_name _ (name_markedEntity links read).symm]
    exact (linkNavigation_inj (d := { markedEntity links read with navigations := near })
      bound.find_named given.distinct member inNamed inFar
      (conditions.2.trans (name_markedEntity links read).symm)).not.2 conditions.1
  refine ⟨?_, used, ?_, apart, ?_, ?_, ?_⟩
  · rw [targetName_linkNavigation, leads]
    exact Catalog.find?_of_mem inModel
  · rw [boundFar.made]
    exact List.mem_map_of_mem inFar
  · simpa using association
  · rw [targetName_linkNavigation, conditions.2, own]
  · rw [inverseIdentifier_of_inverse found, identifier_linkNavigation]

theorem far_end (stages : Stages storage conceptual mappings links named r)
    (entities : ∀ e ∈ conceptual.entities.entries, ReadEntity joined e)
    (inUse : e ∈ r.usedEntities) {n : Navigation} (member : n ∈ e.navigations) :
    ∃ d ∈ r.usedEntities, n.targetName = d.name ∧
      ∃ far others, BoundEntity storage conceptual links named far others d := by
  have unused : Unused conceptual := fun e member => (entities e member).unused
  obtain ⟨d, target, name, _, _⟩ := stages.target_of_navigation unused inUse member
  exact ⟨d, target, name.symm, stages.bound_entity target⟩

theorem opposite_of_named (entities : ∀ e ∈ conceptual.entities.entries, ReadEntity joined e)
    (names : (joined.map (·.name)).Nodup)
    (bound : BoundEntity storage conceptual links named read near e)
    (boundFar : BoundEntity storage conceptual links named far others d)
    {n : Navigation} (member : n ∈ near) (leads : n.targetName = d.name) :
    ∃ m ∈ others, inverse? named.conceptual read n = some m ∧
      inverse? named.conceptual far m = some n := by
  have own : read.name = e.name := Catalog.key_of_find? bound.inRead
  have ownFar : far.name = d.name := Catalog.key_of_find? boundFar.inRead
  have entity := entities read (Catalog.mem_of_find? bound.inRead)
  have entityFar := entities far (Catalog.mem_of_find? boundFar.inRead)
  obtain ⟨_, _, given⟩ := bound.scope
  obtain ⟨first, inRead, naming⟩ := related_of_mem_right given.each member
  rw [entity.navigations, own] at inRead
  obtain ⟨b, inJoined, inAssociation⟩ := List.mem_flatMap.1 inRead
  have association : n.association = b.name :=
    naming.association.trans (association_of_navigation inAssociation)
  have joins : Joins b e d := joins_of_navigation inAssociation (naming.targetName.symm.trans leads)
  obtain ⟨related, distinct⟩ := bound.navigations_named entity names inJoined
  obtain ⟨relatedFar, _⟩ := boundFar.navigations_named entityFar names inJoined
  have inOwn : n ∈ near.filter (·.association == b.name) := by simp [member, association]
  have opposite : ∃ m, Opposite e.name d.name (near.filter (·.association == b.name))
      (others.filter (·.association == b.name)) n m := by
    by_cases same : e.name = d.name
    · have inNamed := bound.inNamed
      rw [same, boundFar.inNamed, Option.some.injEq] at inNamed
      have lists : others = near := congrArg Entity.navigations inNamed
      rw [Joins, ← same] at joins
      rw [lists, ← same]
      exact opposite_within related distinct (joins.elim And.left And.left)
        (joins.elim And.right And.right) inOwn
    · exact opposite_across same joins related relatedFar inOwn
  obtain ⟨m, back, forth⟩ := opposite
  obtain ⟨inFar, belongs⟩ := List.mem_filter.1 (List.mem_of_find?_eq_some back)
  have leadsBack : m.targetName = e.name := by
    have conditions := List.find?_some back
    simp only [Bool.and_eq_true, beq_iff_eq] at conditions
    exact conditions.2
  refine ⟨m, inFar, ?_, ?_⟩
  · rw [inverse_of_named (leads ▸ boundFar.inNamed), association, own]
    exact back
  · rw [inverse_of_named (leadsBack ▸ bound.inNamed), eq_of_beq belongs, ownFar]
    exact forth

/-- Where an association has its name for itself, its navigations are each other's ways back. -/
theorem mutual_wayBack (stages : Stages storage conceptual mappings links named r)
    (entities : ∀ e ∈ conceptual.entities.entries, ReadEntity joined e)
    (names : (joined.map (·.name)).Nodup) (inUse : e ∈ r.usedEntities) {n : Navigation}
    (member : n ∈ e.navigations) : ∃ d m, WayBack r e n d m ∧ WayBack r d m e n := by
  obtain ⟨read, near, bound⟩ := stages.bound_entity inUse
  obtain ⟨d, target, leads, far, others, boundFar⟩ := stages.far_end entities inUse member
  obtain ⟨before, inNear, rfl, _⟩ := bound.navigation_source member
  rw [targetName_linkNavigation] at leads
  obtain ⟨m, inFar, back, forth⟩ :=
    opposite_of_named entities names bound boundFar inNear leads
  have wayBack := wayBack_of_inverse bound boundFar target inNear leads back
  have leadsBack : m.targetName = e.name := by simpa using wayBack.leads
  exact ⟨d, _, wayBack, wayBack_of_inverse boundFar bound inUse inFar leadsBack forth⟩

theorem wayBack_of_given (stages : Stages storage conceptual mappings links named r)
    (entities : ∀ e ∈ conceptual.entities.entries, ReadEntity joined e) (inUse : e ∈ r.usedEntities)
    {n : Navigation} (member : n ∈ e.navigations) (given : n.inverseIdentifier ≠ .null) :
    ∃ d m, WayBack r e n d m := by
  obtain ⟨read, near, bound⟩ := stages.bound_entity inUse
  obtain ⟨d, target, leads, far, others, boundFar⟩ := stages.far_end entities inUse member
  obtain ⟨before, inNear, rfl, first, inRead, naming⟩ := bound.navigation_source member
  rw [targetName_linkNavigation] at leads
  cases found : inverse? named.conceptual read before with
  | some back => exact ⟨d, _, wayBack_of_inverse bound boundFar target inNear leads found⟩
  | none =>
    -- Neither reading nor naming gives a way back.
    have entity := entities read (Catalog.mem_of_find? bound.inRead)
    obtain ⟨_, _, _, made⟩ := naming.target
    have nothing : before.inverseIdentifier = .null := by
      rw [made]
      exact (entity.fresh inRead).2
    rw [linkNavigation_eq, found, Option.map_none, Option.getD_none, nothing] at given
    exact absurd rfl given

theorem distinctNavigations (stages : Stages storage conceptual mappings links named r)
    (inUse : e ∈ r.usedEntities) : DistinctNavigations e := by
  obtain ⟨_, _, bound⟩ := stages.bound_entity inUse
  exact bound.distinctNavigations

end Stages

theorem WayBack.unique {r : ResolvedModel} {e d f : Entity} {n m k : Navigation}
    (wayBack : WayBack r e n d m) (another : WayBack r e n f k) (names : DistinctNavigations d) :
    f = d ∧ k = m := by
  have target := another.target
  rw [wayBack.target, Option.some.injEq] at target
  subst target
  refine ⟨rfl, List.inj_on_of_nodup_map names.distinct another.member wayBack.member ?_⟩
  exact another.named.symm.trans wayBack.named

theorem nameNavigations_given {p : ModelPair} {e : Entity} {taken : List Label}
    {read named : List Navigation} (given : ∀ t ∈ p.storage.tables.entries, t.fixedName ≠ .null)
    (ok : nameNavigations p e taken read = .ok named) : ∀ n ∈ named, n.identifier ≠ .null := by
  induction read generalizing taken named with
  | nil =>
    cases ok
    exact fun n member => absurd member List.not_mem_nil
  | cons n rest ih =>
    simp only [nameNavigations, bind_ok, pure_ok] at ok
    obtain ⟨⟨target, table⟩, aimed, identifier, freed, others, walked, rfl⟩ := ok
    obtain ⟨_, _, resolved⟩ := (targetOf_ok aimed).table
    intro m member
    rcases List.mem_cons.1 member with rfl | later
    · exact Naming.freeLabel_ne_null (given table (mem_of_resolveTable resolved)) freed
    · exact ih walked m later

section bound

variable {naming : Naming.NamingRules} {root : Xml.Element} {storage : StorageModel}
  {conceptual : ConceptualModel} {mappings : List Mapping}
  {functionMappings : List FunctionMapping} {r : ResolvedModel}

theorem navigation_given (given : ∀ t ∈ storage.tables.entries, t.fixedName ≠ .null)
    (bound : (bind storage conceptual mappings functionMappings).outcome = .ok r) {e : Entity}
    (inUse : e ∈ r.usedEntities) {n : Navigation} (member : n ∈ e.navigations) :
    n.identifier ≠ .null := by
  obtain ⟨links, named, run⟩ := bind_run bound
  obtain ⟨d, entity⟩ := run.stages.given_entity run.entities inUse
  obtain ⟨_, _, _, walked⟩ := entity.named
  rw [entity.navigations] at member
  obtain ⟨before, inNamed, rfl⟩ := List.mem_map.1 member
  rw [identifier_linkNavigation]
  exact nameNavigations_given (fixedNames_markAll (P := (· ≠ .null)) (p := ⟨storage, conceptual⟩)
    given links) walked before inNamed

/-- A way back that a navigation of an entity in use has is a navigation of its target. Where no two
associations of a document share a name, each navigation has one, and is the way back of that; it
has no name only where a table has none. -/
theorem navigations_lead_back (read : (readConceptual naming root).outcome = .ok conceptual)
    (bound : (bind storage conceptual mappings functionMappings).outcome = .ok r) :
    (∀ e ∈ r.usedEntities, ∀ n ∈ e.navigations, n.inverseIdentifier ≠ .null →
        ∃ d m, WayBack r e n d m) ∧
      ∀ joined, entityAssociations conceptual root = .ok joined → (joined.map (·.name)).Nodup →
        ∀ e ∈ r.usedEntities, ∀ n ∈ e.navigations,
          (∃ d m, WayBack r e n d m) ∧ (∀ d m, WayBack r e n d m → WayBack r d m e n) ∧
            ((∀ t ∈ storage.tables.entries, t.fixedName ≠ .null) →
              n.inverseIdentifier ≠ .null) := by
  obtain ⟨associations, walked, entities⟩ := readConceptual_ok read
  obtain ⟨links, named, stages⟩ := bind_stages bound
  refine ⟨fun e inUse n member given => stages.wayBack_of_given entities inUse member given, ?_⟩
  intro joined walkedToo names e inUse n member
  cases walked.symm.trans walkedToo
  obtain ⟨d, m, wayBack, forth⟩ := stages.mutual_wayBack entities names inUse member
  have target : d ∈ r.usedEntities :=
    mem_usedEntities.2 ⟨Catalog.mem_of_find? wayBack.target, wayBack.inUse⟩
  refine ⟨⟨d, m, wayBack⟩, fun f k another => ?_, fun given => ?_⟩
  · obtain ⟨rfl, rfl⟩ := wayBack.unique another (stages.distinctNavigations target)
    exact forth
  · rw [wayBack.named]
    exact navigation_given given bound target wayBack.member

end bound

section managers

def employeeTables : StorageModel where
  tables := .ofList [{ name := "Employee", fixedName := .str "Employee" }]

def waysBack (r : ResolvedModel) : List (List (Label × Label)) :=
  r.usedEntities.map fun e => e.navigations.map fun n => (n.identifier, n.inverseIdentifier)

def ManagersBound (conceptual : ConceptualModel) : Prop :=
  (entityAssociations conceptual managerDocument).toOption = some [managerEntities] ∧
    ((bind employeeTables conceptual [managerMapping] []).outcome.toOption.map waysBack) =
      some [[(.str "Employee1", .str "Employee2"), (.str "Employee2", .str "Employee1")]]

instance : DecidablePred ManagersBound := fun _ => inferInstanceAs (Decidable (_ ∧ _))

set_option maxRecDepth 100000 in
theorem managers_bound :
    ∃ conceptual, (readConceptual ⟨[], [], []⟩ managerDocument).outcome = .ok conceptual ∧
      ManagersBound conceptual :=
  ok_of_any (by decide +kernel)

/-- The way up from an employee and the way down lead back to each other. -/
theorem managers_lead_back :
    ∃ conceptual r e n m,
      (readConceptual ⟨[], [], []⟩ managerDocument).outcome = .ok conceptual ∧
        (bind employeeTables conceptual [managerMapping] []).outcome = .ok r ∧
        e ∈ r.usedEntities ∧ n ∈ e.navigations ∧ n.identifier = .str "Employee1" ∧
        n.inverseIdentifier ≠ .null ∧ WayBack r e n e m ∧ WayBack r e m e n := by
  obtain ⟨conceptual, read, joined, found⟩ := managers_bound
  obtain ⟨r, made, ways⟩ := Option.map_eq_some_iff.1 found
  have bound := ok_of_toOption made
  obtain ⟨e, used, own⟩ := List.map_eq_singleton_iff.1 ways
  obtain ⟨n, rest, navigations, names, _⟩ := List.map_eq_cons_iff.1 own
  have inUse : e ∈ r.usedEntities := by simp [used]
  have member : n ∈ e.navigations := by simp [navigations]
  have given : ∀ t ∈ employeeTables.tables.entries, t.fixedName ≠ .null := by decide
  obtain ⟨leads, each⟩ := navigations_lead_back read bound
  obtain ⟨_, returns, known⟩ := each _ (ok_of_toOption joined) (by simp) e inUse n member
  obtain ⟨d, m, wayBack⟩ := leads e inUse n member (known given)
  have target : d ∈ r.usedEntities :=
    mem_usedEntities.2 ⟨Catalog.mem_of_find? wayBack.target, wayBack.inUse⟩
  obtain rfl : d = e := by simpa [used] using target
  exact ⟨conceptual, r, d, n, m, read, bound, inUse, member, (Prod.mk.inj names).1, known given,
    wayBack, returns d m wayBack⟩

end managers

end EntityScaffold.Binding
