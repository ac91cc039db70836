import EntityScaffold.Proofs.Binding.Correspondence

/-!
Last mappings. What an entity and a table remember of each other after binding is told by the
mappings alone: an entity has the schema of the table that its last mapping leads to, a table the
name of the entity that the last mapping to it names.
-/
namespace EntityScaffold.Binding

def lastTable? (r : ResolvedModel) (e : Entity) : Option Table :=
  (r.mappings.reverse.find? fun x => x.entity == e.name).bind fun x =>
    r.storage.resolveTable? x.table

def lastEntity? (r : ResolvedModel) (t : Table) : Option Entity :=
  (r.mappings.reverse.find? fun x =>
    (r.storage.resolveTable? x.table).map (·.name) == some t.name).bind fun x =>
      r.conceptual.entities.find? x.entity

theorem mapped_of_lastTable {r : ResolvedModel} {e : Entity} {t : Table}
    (inModel : e ∈ r.conceptual.entities.entries) (last : lastTable? r e = some t) :
    Mapped r t e := by
  obtain ⟨x, found, resolved⟩ := Option.bind_eq_some_iff.1 last
  have own : x.entity = e.name := by simpa using List.find?_some found
  refine ⟨x, List.mem_reverse.1 (List.mem_of_find?_eq_some found), resolved, ?_⟩
  rw [own]
  exact Catalog.find?_of_mem inModel

theorem mapped_of_lastEntity {r : ResolvedModel} {t : Table} {e : Entity}
    (last : lastEntity? r t = some e) : ∃ u, Mapped r u e ∧ u.name = t.name := by
  obtain ⟨x, found, entity⟩ := Option.bind_eq_some_iff.1 last
  have own : (r.storage.resolveTable? x.table).map (·.name) = some t.name := by
    simpa using List.find?_some found
  obtain ⟨u, resolved, name⟩ := Option.map_eq_some_iff.1 own
  exact ⟨u, ⟨x, List.mem_reverse.1 (List.mem_of_find?_eq_some found), resolved, entity⟩, name⟩

namespace Stages

variable {storage : StorageModel} {conceptual : ConceptualModel} {mappings : List Mapping}
  {links : List Link} {named : ModelPair} {r : ResolvedModel}

theorem linked_reverse (stages : Stages storage conceptual mappings links named r) :
    List.Forall₂ (Linked storage conceptual) r.mappings.reverse links.reverse := by
  rw [stages.mappings]
  exact List.rel_reverse stages.linked

theorem table_of_linked (stages : Stages storage conceptual mappings links named r) {x : Mapping}
    {l : Link} (member : l ∈ links) (linked : Linked storage conceptual x l) :
    ∃ keys, r.storage.resolveTable? x.table =
      some { markedTable links l.table with foreignKeys := keys } := by
  have listed : (links.find? fun x => x.table.name == l.table.name).isSome = true :=
    List.find?_isSome.2 ⟨l, member, by simp⟩
  obtain ⟨first, located⟩ := Option.isSome_iff_exists.1 listed
  have same : first.table.name = l.table.name := by simpa using List.find?_some located
  have known := stages.known_table (List.mem_of_find?_eq_some located)
  rw [same, stages.known_table member] at known
  rw [← same] at located
  obtain ⟨_, _, keys, _, _, _, found⟩ := stages.mapped_table located
  have resolved := stages.name_resolveTable x.table
  rw [linked.table] at resolved
  obtain ⟨t, reached, name⟩ := Option.map_eq_some_iff.1 resolved
  have again := Catalog.find?_of_mem (mem_of_resolveTable reached)
  rw [show Keyed.key t = first.table.name from name.trans same.symm, found] at again
  refine ⟨keys, ?_⟩
  rw [reached, Option.some.inj known]
  exact again.symm

/-- An entity in use has the schema of the table that its last mapping leads to. -/
theorem schema_of_last (stages : Stages storage conceptual mappings links named r)
    (unused : Unused conceptual) {e : Entity} (inUse : e ∈ r.usedEntities) :
    ∃ t, lastTable? r e = some t ∧ e.schema = t.schema := by
  obtain ⟨inModel, used⟩ := mem_usedEntities.1 inUse
  obtain ⟨read, navigations, bound⟩ := stages.used_entity (Catalog.find?_of_mem inModel) used
  have own : read.name = e.name := Catalog.key_of_find? bound.inRead
  have marked : (markedEntity links read).isUsed = true := by
    rw [bound.made] at used
    exact used
  obtain ⟨l, last⟩ := last_of_used (unused read (Catalog.mem_of_find? bound.inRead)) marked
  obtain ⟨_, schema⟩ := marked_by_last last
  have related := find_of_related stages.linked_reverse
    (p := fun x => x.entity == e.name) (q := fun l => l.entity.name == e.name) (by
      intro x l linked
      rw [← Catalog.key_of_find? linked.entity]
      rfl)
  obtain ⟨member, _⟩ := last_link last
  rw [lastOf, own] at last
  rw [last] at related
  generalize located : r.mappings.reverse.find? (fun x => x.entity == e.name) = reached at related
  cases related with
  | some linked =>
    obtain ⟨keys, found⟩ := stages.table_of_linked member linked
    refine ⟨_, by rw [lastTable?, located, Option.bind_some, found], ?_⟩
    rw [bound.made]
    exact schema.trans (schema_markedTable links l.table).symm

theorem entityName_of_last (stages : Stages storage conceptual mappings links named r)
    {x : Mapping} (member : x ∈ r.mappings) :
    ∃ t e, r.storage.resolveTable? x.table = some t ∧ lastEntity? r t = some e ∧
      t.entityName = e.fixedName := by
  rw [stages.mappings] at member
  obtain ⟨l, inLinks, linked⟩ := related_of_mem_left stages.linked member
  obtain ⟨keys, found⟩ := stages.table_of_linked inLinks linked
  have listed : (lastTo links l.table.name).isSome = true :=
    List.find?_isSome.2 ⟨l, List.mem_reverse.2 inLinks, by simp⟩
  obtain ⟨last, located⟩ := Option.isSome_iff_exists.1 listed
  have lastInLinks : last ∈ links := List.mem_reverse.1 (List.mem_of_find?_eq_some located)
  have related := find_of_related stages.linked_reverse
    (p := fun x => (r.storage.resolveTable? x.table).map (·.name) == some l.table.name)
    (q := fun k => k.table.name == l.table.name) (by
      intro x k linked
      rw [stages.name_resolveTable, linked.table]
      rfl)
  rw [show links.reverse.find? (fun k => k.table.name == l.table.name) = some last from located]
    at related
  generalize reached : r.mappings.reverse.find? (fun x =>
    (r.storage.resolveTable? x.table).map (·.name) == some l.table.name) = mapping at related
  cases related with
  | @some y _ lastLinked =>
    have marked : (markAll ⟨storage, conceptual⟩ links).conceptual.entities.find? y.entity =
        some (markedEntity links last.entity) := by
      rw [find_entity_markAll, lastLinked.entity]
      rfl
    obtain ⟨e, entity, _, fixedName, _⟩ := stages.find_marked_entity marked
    refine ⟨_, e, found, ?_, ?_⟩
    · have own : (markedTable links l.table).name = l.table.name := name_markedTable ..
      rw [lastEntity?]
      simp only [own, reached, Option.bind_some, entity]
    · rw [fixedName, fixedName_markedEntity]
      show (markedTable links l.table).entityName = _
      rw [entityName_markedTable, located]
      rfl

theorem used_of_mapped (stages : Stages storage conceptual mappings links named r) {t : Table}
    {e : Entity} (mapped : Mapped r t e) : e ∈ r.usedEntities := by
  obtain ⟨l, member, _, own⟩ := stages.link_of_mapped mapped
  have found := find_mapped_entity mapped
  rw [← own] at found
  exact mem_usedEntities.2 ⟨Catalog.mem_of_find? found, stages.used_of_link member found⟩

theorem lastEntity_of_mapped (stages : Stages storage conceptual mappings links named r)
    (one : OneToOne r) {t : Table} {e : Entity} (mapped : Mapped r t e) :
    lastEntity? r t = some e := by
  obtain ⟨x, member, resolved, _⟩ := id mapped
  obtain ⟨u, d, reached, last, _⟩ := stages.entityName_of_last member
  cases resolved.symm.trans reached
  obtain ⟨v, mappedToo, table⟩ := mapped_of_lastEntity last
  have same : d.name = e.name := (one v t d e mappedToo mapped).1 table
  have found := find_mapped_entity mappedToo
  rw [same, find_mapped_entity mapped] at found
  rw [last, found]

theorem lastTable_of_mapped (stages : Stages storage conceptual mappings links named r)
    (unused : Unused conceptual) (one : OneToOne r) {t : Table} {e : Entity}
    (mapped : Mapped r t e) : lastTable? r e = some t := by
  have inUse := stages.used_of_mapped mapped
  obtain ⟨u, last, _⟩ := stages.schema_of_last unused inUse
  have mappedToo := mapped_of_lastTable (mem_usedEntities.1 inUse).1 last
  have same : u.name = t.name := (one u t e e mappedToo mapped).2 rfl
  have found := find_mapped_table mappedToo
  rw [same, find_mapped_table mapped] at found
  rw [last, found]

end Stages

end EntityScaffold.Binding
