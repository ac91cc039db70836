import EntityScaffold.Proofs.Binding.Correspondence
import EntityScaffold.Proofs.Reading.EntityAssociations
import EntityScaffold.Proofs.Reading.TableAssociations

/-!
The two sides of an association. On each side stand a table and the entity that corresponds to it:
the table has the keys that reading gave it, the entity the navigations, and the keys of the
association have taken from the navigations of the association and from no others.
-/
namespace EntityScaffold.Binding
open Reading

theorem keysAt_of_read {stored : List TableAssociation} {a : TableAssociation} {t : Table}
    (read : ReadTable stored t) (names : (stored.map (·.name)).Nodup) (member : a ∈ stored) :
    t.foreignKeys.filter (·.association == a.name) = a.keysAt t.name := by
  rw [read.keys]
  exact filter_flatMap_of_nodup names (fun _ _ _ inKeys => association_of_key inKeys) member

theorem navigationsAt_of_read {joined : List EntityAssociation} {b : EntityAssociation}
    {e : Entity} (read : ReadEntity joined e) (names : (joined.map (·.name)).Nodup)
    (member : b ∈ joined) :
    e.navigations.filter (·.association == b.name) = b.navigationsAt e.name := by
  rw [read.navigations]
  exact filter_flatMap_of_nodup names
    (fun _ _ _ inNavigations => association_of_navigation inNavigations) member

/-- What an association has come to at a table and its entity: `ends` are its navigations there
before they learnt of the ways back. -/
structure Side (r : ResolvedModel) (named : ModelPair) (marked : ModelPair)
    (a : TableAssociation) (b : EntityAssociation) (t : Table) (e : Entity)
    (ends : List Navigation) : Prop where
  given : List.Forall₂ (NamedNavigation marked) (b.navigationsAt e.name) ends
  distinct : (ends.map (·.identifier)).Nodup
  linked : e.navigations.filter (·.association == a.name) =
    ends.map (linkNavigation named.conceptual e)
  inNamed : ∃ before, named.conceptual.entities.find? e.name = some before ∧
    before.navigations.filter (·.association == a.name) = ends
  table : ∃ target, named.storage.tables.find? t.name = some target ∧
    target.fixedName = t.fixedName
  keys : List.Forall₂ (NamedKey named.storage)
    (claims named.storage (e.navigations.filter (·.association == a.name)) (a.keysAt t.name))
    (t.foreignKeys.filter (·.association == a.name))
  reaches : ∀ n ∈ ends, ∀ u d, Mapped r u d → n.targetName = d.name →
    n.targetFixedName = u.fixedName

/-- A binding of models that were read, with the associations of both. -/
structure ReadStages (stored : List TableAssociation) (joined : List EntityAssociation)
    (storage : StorageModel) (conceptual : ConceptualModel) (mappings : List Mapping)
    (links : List Link) (named : ModelPair) (r : ResolvedModel) : Prop where
  stages : Stages storage conceptual mappings links named r
  tables : ∀ t ∈ storage.tables.entries, ReadTable stored t
  entities : ∀ e ∈ conceptual.entities.entries, ReadEntity joined e

namespace ReadStages

variable {stored : List TableAssociation} {joined : List EntityAssociation}
  {storage : StorageModel} {conceptual : ConceptualModel} {mappings : List Mapping}
  {links : List Link} {named : ModelPair} {r : ResolvedModel}

theorem unused (model : ReadStages stored joined storage conceptual mappings links named r) :
    Unused conceptual := fun e member => (model.entities e member).unused

theorem side (model : ReadStages stored joined storage conceptual mappings links named r)
    (one : OneToOne r) (tableNames : (stored.map (·.name)).Nodup)
    (entityNames : (joined.map (·.name)).Nodup) {a : TableAssociation} {b : EntityAssociation}
    (inStored : a ∈ stored) (inJoined : b ∈ joined) (same : b.name = a.name) {t : Table}
    {e : Entity} (mapped : Mapped r t e) :
    ∃ ends, Side r named (markAll ⟨storage, conceptual⟩ links) a b t e ends := by
  obtain ⟨l, member, _, own⟩ := model.stages.link_of_mapped mapped
  have found := Stages.find_mapped_entity mapped
  have used : e.isUsed = true := model.stages.used_of_link member (own ▸ found)
  obtain ⟨read, navigations, bound⟩ := model.stages.used_entity found used
  obtain ⟨taken, _, given⟩ := bound.scope
  obtain ⟨before, inTables, known, fixedName, claimed⟩ := model.stages.keys_of_mapped one mapped
  have readName : read.name = e.name := Catalog.key_of_find? bound.inRead
  have beforeName : before.name = t.name := Catalog.key_of_find? inTables
  have readNavigations := navigationsAt_of_read
    (model.entities read (Catalog.mem_of_find? bound.inRead)) entityNames inJoined
  have readKeys := keysAt_of_read
    (model.tables before (Catalog.mem_of_find? inTables)) tableNames inStored
  refine ⟨navigations.filter (·.association == a.name), ?_, ?_, ?_, ?_, ?_, ?_, ?_⟩
  · rw [← readName, ← readNavigations, same]
    exact filter_related given.each fun _ _ own => by rw [own.association]
  · exact (List.filter_sublist.map _).nodup given.distinct
  · rw [linkNavigation_of_name named.conceptual readName.symm]
    conv_lhs => rw [bound.made]
    rw [List.filter_map]
    congr 2
    funext n
    simp
  · exact ⟨_, bound.inNamed, rfl⟩
  · exact ⟨markedTable links before, known, by rw [fixedName_markedTable, fixedName]⟩
  · rw [← beforeName, ← readKeys, ← claims_filter]
    exact filter_related claimed fun _ _ own => by rw [own.association]
  · intro n inEnds u d target leads
    obtain ⟨_, _, naming⟩ := related_of_mem_right given.each (List.mem_of_mem_filter inEnds)
    exact model.stages.targetFixedName_of_mapped model.unused one target naming leads

end ReadStages

namespace Side

variable {r : ResolvedModel} {named marked : ModelPair} {a : TableAssociation}
  {b : EntityAssociation} {t u : Table} {e d : Entity} {ends others : List Navigation}

theorem association (side : Side r named marked a b t e ends) {n : Navigation}
    (member : n ∈ ends) : n.association = a.name := by
  obtain ⟨before, _, kept⟩ := side.inNamed
  rw [← kept] at member
  simpa using (List.mem_filter.1 member).2

theorem fits (side : Side r named marked a b t e ends) (far : Side r named marked a b u d others)
    (mapped : Mapped r u d) {target : Table}
    (known : named.storage.tables.find? u.name = some target) {n : Navigation} (member : n ∈ ends)
    (leads : n.targetName = d.name) {k : ForeignKey} (belongs : k.association = a.name) :
    fitsEnd k target (linkNavigation named.conceptual e n) = true := by
  obtain ⟨found, located, fixedName⟩ := far.table
  rw [known, Option.some.injEq] at located
  have reached := side.reaches n member u d mapped leads
  simp [fitsEnd, side.association member, belongs, reached, located, fixedName]

theorem inverse (side : Side r named marked a b t e ends)
    (far : Side r named marked a b u d others) {n : Navigation} (member : n ∈ ends)
    (leads : n.targetName = d.name) :
    inverse? named.conceptual e n =
      others.find? fun candidate => candidate != n && candidate.targetName == e.name := by
  obtain ⟨before, found, kept⟩ := far.inNamed
  rw [← leads] at found
  rw [inverse_of_named found, side.association member, kept]

end Side

theorem mem_of_linked {named : ModelPair} {e : Entity} {association : String}
    {ends : List Navigation}
    (linked : e.navigations.filter (·.association == association) =
      ends.map (linkNavigation named.conceptual e)) {n : Navigation} :
    (n ∈ e.navigations ∧ n.association = association) ↔
      ∃ x ∈ ends, linkNavigation named.conceptual e x = n := by
  rw [← List.mem_map, ← linked, List.mem_filter, beq_iff_eq]

end EntityScaffold.Binding
