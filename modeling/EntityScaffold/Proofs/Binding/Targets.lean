import EntityScaffold.Proofs.Binding.Stages

/-!
Where navigations lead. The table and the schema that an entity remembers come from the same link,
its last, so a navigation to the entity finds the table of that link; and its way back is found
among the navigations that the target has on the same association.
-/
namespace EntityScaffold.Binding

theorem last_link {links : List Link} {entity : String} {l : Link}
    (last : lastOf links entity = some l) : l ∈ links ∧ l.entity.name = entity := by
  exact ⟨List.mem_reverse.1 (List.mem_of_find?_eq_some last), by simpa using List.find?_some last⟩

def Unused (m : ConceptualModel) : Prop := ∀ e ∈ m.entities.entries, e.isUsed = false

section

variable {links : List Link} {read : Entity}

theorem last_of_used (unused : read.isUsed = false)
    (used : (markedEntity links read).isUsed = true) : ∃ l, lastOf links read.name = some l := by
  cases last : lastOf links read.name with
  | some l => exact ⟨l, rfl⟩
  | none =>
    have bound := bound_markedEntity links read
    rw [last] at bound
    have same : (markedEntity links read).isUsed = read.isUsed := (Prod.mk.inj bound).1
    rw [same, unused] at used
    cases used

theorem marked_by_last {l : Link} (last : lastOf links read.name = some l) :
    (markedEntity links read).tableName = some l.table.name ∧
      (markedEntity links read).schema = l.table.schema := by
  have bound := bound_markedEntity links read
  rw [last] at bound
  obtain ⟨_, table, schema⟩ := Prod.mk.inj bound |>.imp id Prod.mk.inj
  exact ⟨table, schema⟩

end

namespace Stages

variable {storage : StorageModel} {conceptual : ConceptualModel} {mappings : List Mapping}
  {links : List Link} {named : ModelPair} {r : ResolvedModel}

theorem table_of_target (stages : Stages storage conceptual mappings links named r)
    (unused : Unused conceptual) {n : Navigation} {target : Entity} {table : Table}
    (reached : Target (markAll ⟨storage, conceptual⟩ links) n target table) :
    ∃ l ∈ links, lastOf links n.targetName = some l ∧ l.entity.name = n.targetName ∧
      table = markedTable links l.table ∧ target.schema = table.schema := by
  have found := reached.entity
  rw [find_entity_markAll] at found
  obtain ⟨read, inRead, rfl⟩ := Option.map_eq_some_iff.1 found
  have own : read.name = n.targetName := Catalog.key_of_find? inRead
  obtain ⟨l, last⟩ := last_of_used (unused read (Catalog.mem_of_find? inRead)) reached.used
  obtain ⟨member, entity⟩ := last_link last
  obtain ⟨remembered, schema⟩ := marked_by_last last
  obtain ⟨name, tableName, resolved⟩ := reached.table
  have same : name = l.table.name := Option.some.inj (tableName.symm.trans remembered)
  have located : (markAll ⟨storage, conceptual⟩ links).storage.tables.find? l.table.name =
      some (markedTable links l.table) := by
    rw [find_table_markAll, stages.known_table member]
    rfl
  rw [same, StorageModel.resolveTable?, located] at resolved
  have equal : table = markedTable links l.table := (Option.some.inj resolved).symm
  refine ⟨l, member, own ▸ last, entity.trans own, equal, ?_⟩
  rw [equal, schema, schema_markedTable]

theorem find_marked_entity (stages : Stages storage conceptual mappings links named r)
    {name : String} {marked : Entity}
    (found : (markAll ⟨storage, conceptual⟩ links).conceptual.entities.find? name = some marked) :
    ∃ e, r.conceptual.entities.find? name = some e ∧ e.isUsed = marked.isUsed ∧
      e.fixedName = marked.fixedName ∧ e.schema = marked.schema := by
  have related := stages.entities.entities name
  rw [found] at related
  generalize inNamed : named.conceptual.entities.find? name = reached at related
  cases related with
  | @some _ given own =>
    refine ⟨linkEntity named.conceptual given, ?_, ?_⟩
    · rw [stages.find_entity, inNamed]
      rfl
    · obtain ⟨used, fixedName, schema⟩ := own.keeps
      rw [used, fixedName, schema]
      unfold linkEntity
      split <;> exact ⟨rfl, rfl, rfl⟩

theorem target_of_navigation (stages : Stages storage conceptual mappings links named r)
    (unused : Unused conceptual) {e : Entity} (inUse : e ∈ r.usedEntities) {n : Navigation}
    (member : n ∈ e.navigations) :
    ∃ target ∈ r.usedEntities, target.name = n.targetName ∧
      n.targetTypeName = target.fixedName ∧ n.targetSchema = target.schema := by
  obtain ⟨inModel, used⟩ := mem_usedEntities.1 inUse
  obtain ⟨read, navigations, bound⟩ := stages.used_entity (Catalog.find?_of_mem inModel) used
  obtain ⟨_, _, given⟩ := bound.scope
  rw [bound.made] at member
  obtain ⟨before, inNamed, rfl⟩ := List.mem_map.1 member
  obtain ⟨_, _, naming⟩ := related_of_mem_right given.each inNamed
  obtain ⟨marked, table, reached, made⟩ := naming.target
  obtain ⟨_, _, _, _, _, schema⟩ := stages.table_of_target unused reached
  obtain ⟨target, found, targetUsed, fixedName, targetSchema⟩ :=
    stages.find_marked_entity reached.entity
  have leads : before.targetName = _ := naming.targetName
  have typeName : before.targetTypeName = marked.fixedName := by rw [made]
  have placed : before.targetSchema = table.schema := by rw [made]
  refine ⟨target, mem_usedEntities.2 ⟨Catalog.mem_of_find? found, targetUsed.trans reached.used⟩,
    ?_, ?_, ?_⟩
  · rw [targetName_linkNavigation, leads]
    exact Catalog.key_of_find? found
  · rw [targetTypeName_linkNavigation, typeName, fixedName]
  · rw [targetSchema_linkNavigation, placed, targetSchema, schema]

end Stages

/-- The way back of a navigation is looked up among the navigations that its target has on the same
association. -/
theorem inverse_of_named {m : ConceptualModel} {e target : Entity} {n : Navigation}
    (found : m.entities.find? n.targetName = some target) :
    inverse? m e n =
      (target.navigations.filter (·.association == n.association)).find? fun candidate =>
        candidate != n && candidate.targetName == e.name := by
  rw [inverse?, found, Option.bind_some, List.find?_filter]
  congr 1
  funext candidate
  rw [Bool.eq_iff_iff]
  simp [and_assoc, and_left_comm]

theorem inverseIdentifier_of_inverse {m : ConceptualModel} {e : Entity} {n back : Navigation}
    (found : inverse? m e n = some back) :
    (linkNavigation m e n).inverseIdentifier = back.identifier := by
  rw [linkNavigation_eq, found]
  rfl

end EntityScaffold.Binding
