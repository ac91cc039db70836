import EntityScaffold.Proofs.Binding.Changes
import EntityScaffold.Proofs.Catalogs
import EntityScaffold.Proofs.Reading.Promises
import EntityScaffold.Proofs.Reordering

/-!
Models in another order. Binding looks tables and entities up by name and goes through the entities
in an order of its own, so of two models with the same contents it makes the same, or fails alike.
-/
namespace EntityScaffold

/-- The tables, functions and entity sets of `m` in another order. -/
structure StorageModel.Reordered (m n : StorageModel) : Prop where
  tables : m.tables.entries.Perm n.tables.entries
  functions : m.functions.entries.Perm n.functions.entries
  entitySets : m.entitySets.entries.Perm n.entitySets.entries

/-- The entities and complex types of `m` in another order; function imports keep theirs. -/
structure ConceptualModel.Reordered (m n : ConceptualModel) : Prop where
  entities : m.entities.entries.Perm n.entities.entries
  complexTypes : m.complexTypes.entries.Perm n.complexTypes.entries
  functions : m.functions = n.functions

structure ResolvedModel.Reordered (r s : ResolvedModel) : Prop where
  storage : r.storage.Reordered s.storage
  conceptual : r.conceptual.Reordered s.conceptual
  mappings : r.mappings = s.mappings
  functionMappings : r.functionMappings = s.functionMappings

/-- A schema is a text or not given, but for one value that a setting may put in its place. -/
def Label.IsSchema (l odd : Label) : Prop := l.IsText ∨ l.isGiven = false ∨ l = odd

structure StorageModel.Schemas (m : StorageModel) (odd : Label) : Prop where
  tables : ∀ t ∈ m.tables.entries, t.schema.IsSchema odd
  functions : ∀ f ∈ m.functions.entries, f.schema.IsSchema odd

def ConceptualModel.Schemas (m : ConceptualModel) (odd : Label) : Prop :=
  ∀ e ∈ m.entities.entries, e.schema.IsSchema odd

section lookups

variable {m n : StorageModel} {k l : ConceptualModel}

theorem StorageModel.Reordered.find_table (same : m.Reordered n) (name : String) :
    m.tables.find? name = n.tables.find? name := Catalog.perm_iff_find?.1 same.tables name

theorem StorageModel.Reordered.find_function (same : m.Reordered n) (name : String) :
    m.functions.find? name = n.functions.find? name :=
  Catalog.perm_iff_find?.1 same.functions name

theorem StorageModel.Reordered.resolveTable (same : m.Reordered n) (name : String) :
    m.resolveTable? name = n.resolveTable? name := by
  rw [StorageModel.resolveTable?, StorageModel.resolveTable?, same.find_table,
    Catalog.perm_iff_find?.1 same.entitySets]
  simp only [same.find_table]

theorem ConceptualModel.Reordered.find_entity (same : k.Reordered l) (name : String) :
    k.entities.find? name = l.entities.find? name := Catalog.perm_iff_find?.1 same.entities name

theorem ConceptualModel.Reordered.find_complexType (same : k.Reordered l) (name : String) :
    k.complexTypes.find? name = l.complexTypes.find? name :=
  Catalog.perm_iff_find?.1 same.complexTypes name

theorem ConceptualModel.Reordered.usedEntities (same : k.Reordered l) :
    k.usedEntities = l.usedEntities := by
  refine sortBy_byKeys_perm Entity.schemaOrder Entity.name (same.entities.filter _)
    fun e inUse f inUseToo equal => ?_
  exact Catalog.eq_of_key_eq (List.mem_filter.1 inUse).1 (List.mem_filter.1 inUseToo).1 equal

theorem letters_fails {odd schema : Label} (own : schema.IsSchema odd)
    (given : schema.isGiven = true) : FailsWith (· = .notText odd.display) schema.letters := by
  rcases own with ⟨s, rfl⟩ | missing | rfl
  · exact failsWith_ok s
  · rw [missing] at given
    cases given
  · cases schema with
    | str s => exact failsWith_ok s
    | _ => exact failsWith_error.2 rfl

theorem ConceptualModel.Reordered.orderedEntities (same : k.Reordered l) {odd : Label}
    (schemas : k.Schemas odd) : k.orderedEntities = l.orderedEntities := by
  have checks := forM_perm (Fault.notText odd.display) (same.entities.filter (·.isUsed))
    (f := fun e => do if e.schema.isGiven then discard e.schema.letters) fun e inUse => by
      cases given : e.schema.isGiven with
      | false => exact failsWith_ok _
      | true => exact (letters_fails (schemas e (List.mem_filter.1 inUse).1) given).map
  rw [ConceptualModel.orderedEntities, ConceptualModel.orderedEntities, same.usedEntities, checks]

end lookups

namespace Binding

structure ModelPair.Reordered (p q : ModelPair) : Prop where
  storage : p.storage.Reordered q.storage
  conceptual : p.conceptual.Reordered q.conceptual

theorem link_reordered {m n : StorageModel} {k l : ConceptualModel} (tables : m.Reordered n)
    (entities : k.Reordered l) : link m k = link n l := by
  funext x
  simp only [link, tables.resolveTable, entities.find_entity]

section passes

variable {p q : ModelPair}

theorem mark_reordered (same : p.Reordered q) (l : Link) : (l.mark p).Reordered (l.mark q) :=
  ⟨⟨same.storage.tables.map _, same.storage.functions, same.storage.entitySets⟩,
    ⟨same.conceptual.entities.map _, same.conceptual.complexTypes, same.conceptual.functions⟩⟩

theorem markAll_reordered (same : p.Reordered q) (links : List Link) :
    (markAll p links).Reordered (markAll q links) := by
  induction links generalizing p q with
  | nil => exact same
  | cons l rest ih => exact ih (mark_reordered same l)

theorem targetOf_reordered (same : p.Reordered q) : targetOf p = targetOf q := by
  have resolve : p.storage.resolveTable? = q.storage.resolveTable? :=
    funext same.storage.resolveTable
  funext e n
  simp only [targetOf, same.conceptual.find_entity, resolve]

theorem nameNavigations_congr (targets : targetOf p = targetOf q) (e : Entity)
    (taken : List Label) (navigations : List Navigation) :
    nameNavigations p e taken navigations = nameNavigations q e taken navigations := by
  induction navigations generalizing taken with
  | nil => rfl
  | cons n rest ih => simp only [nameNavigations, targets, ih]

theorem nameEntity_reordered (same : p.Reordered q) : nameEntity p = nameEntity q := by
  funext e
  simp only [nameEntity, nameNavigations_congr (targetOf_reordered same)]

theorem insertAll_reordered {α : Type} [Keyed α] {c d : Catalog α}
    (same : c.entries.Perm d.entries) (entries : List α) :
    (c.insertAll entries).entries.Perm (d.insertAll entries).entries :=
  Catalog.perm_iff_find?.2 (Catalog.find?_insertAll_congr (Catalog.perm_iff_find?.1 same))

theorem nameEntities_reordered (same : p.Reordered q) {odd : Label}
    (schemas : p.conceptual.Schemas odd) :
    Agree ModelPair.Reordered (nameEntities p) (nameEntities q) := by
  rw [nameEntities, nameEntities, same.conceptual.orderedEntities schemas,
    nameEntity_reordered same]
  refine Agree.bind_same fun ordered => Agree.bind_same fun named => .ok ?_
  exact ⟨same.storage, ⟨insertAll_reordered same.conceptual.entities named,
    same.conceptual.complexTypes, same.conceptual.functions⟩⟩

theorem linkEntity_reordered {k l : ConceptualModel} (same : k.Reordered l) :
    linkEntity k = linkEntity l := by
  have navigations : linkNavigation k = linkNavigation l := by
    funext e n
    simp only [linkNavigation, inverse?, same.find_entity]
  funext e
  rw [linkEntity, linkEntity, navigations]

theorem linkInverses_reordered (same : p.Reordered q) :
    (linkInverses p).Reordered (linkInverses q) := by
  refine ⟨same.storage, ⟨?_, same.conceptual.complexTypes, same.conceptual.functions⟩⟩
  show (p.conceptual.entities.entries.map _).Perm (q.conceptual.entities.entries.map _)
  rw [linkEntity_reordered same.conceptual]
  exact same.conceptual.entities.map _

theorem nameForeignKeys_congr {m n : StorageModel}
    (tables : ∀ name, m.tables.find? name = n.tables.find? name) (own : Table)
    (taken : List Label) (free : List Navigation) (keys : List ForeignKey) :
    nameForeignKeys m own taken free keys = nameForeignKeys n own taken free keys := by
  induction keys generalizing taken free with
  | nil => rfl
  | cons k rest ih => simp only [nameForeignKeys, tables, ih]

theorem nameTables_reordered (same : p.Reordered q) (links : List Link) :
    Agree ModelPair.Reordered (nameTables p links) (nameTables q links) := by
  have now : current p = current q := by
    funext l
    simp only [current, same.storage.find_table, same.conceptual.find_entity]
  have each : nameTable p.storage = nameTable q.storage := by
    funext t e
    simp only [nameTable, nameForeignKeys_congr same.storage.find_table]
  rw [nameTables, nameTables, now, each]
  refine Agree.bind_same fun named => .ok ?_
  exact ⟨⟨insertAll_reordered same.storage.tables named, same.storage.functions,
    same.storage.entitySets⟩, same.conceptual⟩

theorem schemas_markAll {odd : Label} {links : List Link} (own : p.conceptual.Schemas odd)
    (tables : ∀ l ∈ links, l.table.schema.IsSchema odd) :
    (markAll p links).conceptual.Schemas odd := by
  induction links generalizing p with
  | nil => exact own
  | cons l rest ih =>
    refine ih (p := l.mark p) (fun e member => ?_)
      fun k later => tables k (List.mem_cons_of_mem l later)
    obtain ⟨d, inModel, rfl⟩ := List.mem_map.1 member
    by_cases named : Keyed.key d = l.entity.name
    · rw [if_pos named]
      exact tables l (List.mem_cons_self ..)
    · rw [if_neg named]
      exact own d inModel

theorem bindLinks_reordered (same : p.Reordered q) {odd : Label} {links : List Link}
    (own : p.conceptual.Schemas odd) (tables : ∀ l ∈ links, l.table.schema.IsSchema odd) :
    Agree ModelPair.Reordered (bindLinks p links) (bindLinks q links) :=
  (nameEntities_reordered (markAll_reordered same links) (schemas_markAll own tables)).bind
    fun _ _ _ named => nameTables_reordered (linkInverses_reordered named) links

end passes

section bound

variable {m n : StorageModel} {k l : ConceptualModel} {odd : Label}

theorem Stages.schemas {mappings : List Mapping} {links : List Link} {named : ModelPair}
    {r : ResolvedModel} (stages : Stages m k mappings links named r) (own : m.Schemas odd)
    (entities : k.Schemas odd) : r.storage.Schemas odd ∧ r.conceptual.Schemas odd := by
  refine ⟨⟨fun u member => ?_, fun f member => ?_⟩, fun f member => ?_⟩
  · obtain ⟨t, keys, inRead, rfl⟩ := stages.table_source (Catalog.find?_of_mem member)
    exact schema_markedTable links t ▸ own.tables t (Catalog.mem_of_find? inRead)
  · exact own.functions f (stages.functions ▸ member)
  · obtain ⟨e, navigations, inRead, rfl⟩ := stages.entity_source (Catalog.find?_of_mem member)
    have marked := (find_entity_markAll links ⟨m, k⟩ _).trans (congrArg (Option.map _) inRead)
    have kept : (markedEntity links e).schema.IsSchema odd :=
      schemas_markAll entities (fun l inLinks => own.tables l.table
        (Catalog.mem_of_find? (stages.known_table inLinks))) _ (Catalog.mem_of_find? marked)
    exact kept

theorem bind_reordered (tables : m.Reordered n) (entities : k.Reordered l) (own : m.Schemas odd)
    (schemas : k.Schemas odd) (mappings : List Mapping) (functionMappings : List FunctionMapping) :
    (bind m k mappings functionMappings).notices = (bind n l mappings functionMappings).notices ∧
      Agree ResolvedModel.Reordered (bind m k mappings functionMappings).outcome
        (bind n l mappings functionMappings).outcome := by
  cases walked : (mappings.mapM (link m k)).outcome with
  | error f =>
    have walkedToo := link_reordered tables entities ▸ walked
    rw [bind, bind, Noted.bind_of_error _ walked, Noted.bind_of_error _ walkedToo,
      link_reordered tables entities]
    exact ⟨rfl, .error f⟩
  | ok links =>
    have walkedToo := link_reordered tables entities ▸ walked
    rw [bind_of_links functionMappings walked, bind_of_links functionMappings walkedToo,
      link_reordered tables entities]
    refine ⟨rfl, ?_⟩
    have linked := bindLinks_reordered (p := ⟨m, k⟩) (q := ⟨n, l⟩) ⟨tables, entities⟩ schemas
      fun l member => own.tables l.table
        (Catalog.mem_of_find? (table_of_link (linked_of_walk walked) member))
    exact linked.map fun _ _ same => ⟨same.storage, same.conceptual, rfl, rfl⟩

end bound

end Binding

end EntityScaffold
