import EntityScaffold.Proofs.Binding.Targets

/-!
Tables and entities that correspond. Where the mappings relate them one to one, the entity whose
navigations a table's keys are named after is the entity of the table, and a navigation to an entity
finds the entity's table.
-/
namespace EntityScaffold.Binding

def Mapped (r : ResolvedModel) (t : Table) (e : Entity) : Prop :=
  ∃ x ∈ r.mappings, r.storage.resolveTable? x.table = some t ∧
    r.conceptual.entities.find? x.entity = some e

/-- All mappings of a table name one entity, and all mappings of an entity reach one table. -/
def OneToOne (r : ResolvedModel) : Prop :=
  ∀ t u e d, Mapped r t e → Mapped r u d → (t.name = u.name ↔ e.name = d.name)

theorem oneToOne_of_single {r : ResolvedModel} {x : Mapping} (single : r.mappings = [x]) :
    OneToOne r := by
  rintro t u e d ⟨y, member, table, entity⟩ ⟨z, other, otherTable, otherEntity⟩
  rw [single, List.mem_singleton] at member other
  subst member other
  rw [table] at otherTable
  rw [entity] at otherEntity
  cases otherTable
  cases otherEntity
  simp

namespace Stages

variable {storage : StorageModel} {conceptual : ConceptualModel} {mappings : List Mapping}
  {links : List Link} {named : ModelPair} {r : ResolvedModel}

theorem mapped_of_link (stages : Stages storage conceptual mappings links named r) {l : Link}
    (member : l ∈ links) :
    ∃ t e, Mapped r t e ∧ t.name = l.table.name ∧ e.name = l.entity.name := by
  obtain ⟨x, inMappings, linked⟩ := related_of_mem_right stages.linked member
  obtain ⟨e, entity⟩ := stages.find_linked_entity member
  have resolved := stages.name_resolveTable x.table
  rw [linked.table] at resolved
  obtain ⟨t, table, same⟩ := Option.map_eq_some_iff.1 resolved
  have reached : r.conceptual.entities.find? x.entity = some e := by
    rw [← Catalog.key_of_find? linked.entity]
    exact entity
  refine ⟨t, e, ⟨x, ?_, table, reached⟩, same, Catalog.key_of_find? entity⟩
  rw [stages.mappings]
  exact inMappings

theorem link_of_mapped (stages : Stages storage conceptual mappings links named r) {t : Table}
    {e : Entity} (mapped : Mapped r t e) :
    ∃ l ∈ links, l.table.name = t.name ∧ l.entity.name = e.name := by
  obtain ⟨x, member, table, entity⟩ := mapped
  obtain ⟨l, inLinks, _, own, resolved⟩ := stages.link_of_mapping member
  rw [table] at resolved
  exact ⟨l, inLinks, (Option.some.inj resolved).symm,
    own.trans (Catalog.key_of_find? entity).symm⟩

theorem find_mapped_entity {t : Table} {e : Entity} (mapped : Mapped r t e) :
    r.conceptual.entities.find? e.name = some e := by
  obtain ⟨x, _, _, entity⟩ := mapped
  exact Catalog.find?_of_mem (Catalog.mem_of_find? entity)

theorem find_mapped_table {t : Table} {e : Entity} (mapped : Mapped r t e) :
    r.storage.tables.find? t.name = some t := by
  obtain ⟨x, _, table, _⟩ := mapped
  exact Catalog.find?_of_mem (mem_of_resolveTable table)

theorem keys_of_mapped (stages : Stages storage conceptual mappings links named r)
    (one : OneToOne r) {t : Table} {e : Entity} (mapped : Mapped r t e) :
    ∃ read, storage.tables.find? t.name = some read ∧
      named.storage.tables.find? t.name = some (markedTable links read) ∧
      t.fixedName = read.fixedName ∧
      List.Forall₂ (NamedKey named.storage)
        (claims named.storage e.navigations read.foreignKeys) t.foreignKeys := by
  obtain ⟨l, member, own, _⟩ := stages.link_of_mapped mapped
  have present : ∃ first, links.find? (fun l => l.table.name == t.name) = some first := by
    have listed : links.any (fun l => l.table.name == t.name) = true :=
      List.any_eq_true.2 ⟨l, member, by simpa using own⟩
    exact Option.isSome_iff_exists.1 (by simpa using listed)
  obtain ⟨first, located⟩ := present
  have inLinks := List.mem_of_find?_eq_some located
  have same : first.table.name = t.name := by simpa using List.find?_some located
  rw [← same] at located
  obtain ⟨d, taken, keys, entity, _, walked, table⟩ := stages.mapped_table located
  obtain ⟨u, g, related, tableName, entityName⟩ := stages.mapped_of_link inLinks
  have paired : g.name = e.name := (one u t g e related mapped).1 (tableName.trans same)
  have equal : d = e := by
    rw [← entityName, paired, find_mapped_entity mapped] at entity
    exact (Option.some.inj entity).symm
  have made : t = { markedTable links first.table with foreignKeys := keys } := by
    rw [same, find_mapped_table mapped] at table
    exact Option.some.inj table
  have known := stages.known_table inLinks
  refine ⟨first.table, same ▸ known, ?_, ?_, ?_⟩
  · rw [stages.find_marked_table, ← same, known]
    rfl
  · rw [made]
    exact fixedName_markedTable links first.table
  · have each := nameForeignKeys_claims walked
    rw [equal] at each
    rw [made]
    exact each

theorem targetFixedName_of_mapped (stages : Stages storage conceptual mappings links named r)
    (unused : Unused conceptual) (one : OneToOne r) {t : Table} {e : Entity}
    (mapped : Mapped r t e) {before n : Navigation}
    (given : NamedNavigation (markAll ⟨storage, conceptual⟩ links) before n)
    (leads : n.targetName = e.name) : n.targetFixedName = t.fixedName := by
  obtain ⟨target, table, reached, made⟩ := given.target
  obtain ⟨l, member, _, entity, equal, _⟩ := stages.table_of_target unused reached
  obtain ⟨u, d, related, tableName, entityName⟩ := stages.mapped_of_link member
  have paired : d.name = e.name := by
    rw [entityName, entity, ← given.targetName, leads]
  have same : l.table.name = t.name := tableName.symm.trans ((one u t d e related mapped).2 paired)
  obtain ⟨read, inRead, _, fixedName, _⟩ := stages.keys_of_mapped one mapped
  have known := stages.known_table member
  rw [same, inRead] at known
  have targeted : n.targetFixedName = table.fixedName := by rw [made]
  rw [targeted, equal, fixedName_markedTable, fixedName, Option.some.inj known]

end Stages

end EntityScaffold.Binding
