import EntityScaffold.Binding.Bind
import EntityScaffold.Proofs.Binding.ForeignKeys
import EntityScaffold.Proofs.Binding.Marking
import EntityScaffold.Proofs.Catalogs

/-!
Binding as a whole. Every entity and every table of the bound model is traced back to the one that
was read, through marking, naming and linking.
-/
namespace EntityScaffold.Binding

theorem memberScope_ok {e : Entity} {taken : List Label} (scope : memberScope e = .ok taken) :
    taken = e.fixedName :: e.properties.map fun p => .str p.name := by
  simp only [memberScope, bind_ok, pure_ok] at scope
  obtain ⟨own, atom, rfl⟩ := scope
  rw [Label.atom_ok atom]

theorem keyScope_ok {t : Table} {e : Entity} {taken : List Label}
    (scope : keyScope t e = .ok taken) :
    taken = t.fixedName :: e.fixedName :: (e.properties.map fun p => .str p.name) ++
      (e.navigations.map (·.identifier)).filter Label.isGiven := by
  simp only [keyScope, bind_ok, pure_ok] at scope
  obtain ⟨members, inScope, own, atom, navigations, walked, rfl⟩ := scope
  have same := map_eq_of_related (f := id) (g := id) (mapM_ok.1 walked)
    fun _ _ own => (Label.atom_ok own).symm
  rw [List.map_id, List.map_id] at same
  rw [memberScope_ok inScope, Label.atom_ok atom, same]

theorem name_resolveTable_of_keys {m n : StorageModel} (keys : m.tables.keys = n.tables.keys)
    (sets : m.entitySets = n.entitySets) (name : String) :
    (m.resolveTable? name).map (·.name) = (n.resolveTable? name).map (·.name) := by
  have names (name : String) :
      (m.tables.find? name).map (·.name) = (n.tables.find? name).map (·.name) :=
    Catalog.key_find?_congr keys name
  have own := names name
  simp only [StorageModel.resolveTable?, sets]
  cases inM : m.tables.find? name with
  | some t => cases inN : n.tables.find? name with
    | some u => simpa [inM, inN] using own
    | none => simp [inM, inN] at own
  | none => cases inN : n.tables.find? name with
    | some u => simp [inM, inN] at own
    | none =>
      cases n.entitySets.find? name with
      | none => rfl
      | some set => exact names set.table

section firstLinks

theorem mem_firstOfTable {seen : List String} {links : List Link} {l : Link} :
    l ∈ firstOfTable seen links ↔
      l.table.name ∉ seen ∧ links.find? (fun x => x.table.name == l.table.name) = some l := by
  induction links generalizing seen with
  | nil => simp [firstOfTable]
  | cons first rest ih =>
    rw [firstOfTable]
    by_cases met : first.table.name ∈ seen
    · rw [if_pos met, ih]
      by_cases same : first.table.name = l.table.name
      · simp [← same, met]
      · simp [same]
    · rw [if_neg met, List.mem_cons, ih]
      by_cases same : first.table.name = l.table.name
      · simp only [same, List.mem_cons, true_or, not_true_eq_false, false_and, or_false,
          beq_self_eq_true, List.find?_cons_of_pos, Option.some.injEq]
        constructor
        · rintro rfl
          exact ⟨met, rfl⟩
        · rintro ⟨_, rfl⟩
          rfl
      · have other : l ≠ first := fun equal => same (equal ▸ rfl)
        simp [same, other, Ne.symm same]

theorem nodup_firstOfTable (seen : List String) (links : List Link) :
    ((firstOfTable seen links).map (·.table.name)).Nodup := by
  induction links generalizing seen with
  | nil => exact List.nodup_nil
  | cons first rest ih =>
    rw [firstOfTable]
    split
    · exact ih seen
    · refine List.nodup_cons.2 ⟨?_, ih _⟩
      intro again
      obtain ⟨l, member, same⟩ := List.mem_map.1 again
      exact (mem_firstOfTable.1 member).1 (same ▸ List.mem_cons_self ..)

end firstLinks

theorem name_current_table (p : ModelPair) (l : Link) : (current p l).1.name = l.table.name := by
  show ((p.storage.tables.find? l.table.name).getD l.table).name = l.table.name
  cases found : p.storage.tables.find? l.table.name with
  | none => rfl
  | some t => exact Catalog.key_of_find? found

structure NamedTables (p q : ModelPair) (links : List Link) : Prop where
  conceptual : q.conceptual = p.conceptual
  entitySets : q.storage.entitySets = p.storage.entitySets
  functions : q.storage.functions = p.storage.functions
  keys : (∀ l ∈ links, l.table.name ∈ p.storage.tables.keys) →
    q.storage.tables.keys = p.storage.tables.keys
  mapped : ∀ l ∈ firstOfTable [] links, ∃ named,
    nameTable p.storage (current p l).1 (current p l).2 = .ok named ∧
      q.storage.tables.find? l.table.name = some named
  others : ∀ name, name ∉ links.map (·.table.name) →
    q.storage.tables.find? name = p.storage.tables.find? name

theorem name_nameTable {storage : StorageModel} {t named : Table} {e : Entity}
    (ok : nameTable storage t e = .ok named) : named.name = t.name := by
  simp only [nameTable, bind_ok, pure_ok] at ok
  obtain ⟨_, _, _, _, rfl⟩ := ok
  rfl

theorem nameTables_ok {p q : ModelPair} {links : List Link}
    (ok : nameTables p links = .ok q) : NamedTables p q links := by
  simp only [nameTables, bind_ok, pure_ok] at ok
  obtain ⟨named, walked, rfl⟩ := ok
  have related := mapM_ok.1 walked
  have keys : (firstOfTable [] links).map (·.table.name) = named.map fun t => Keyed.key t :=
    map_eq_of_related related fun l _ own =>
      ((name_nameTable own).trans (name_current_table p l)).symm
  have distinct : (named.map fun t => Keyed.key t).Nodup := by
    rw [← keys]
    exact nodup_firstOfTable [] links
  have mapped {name : String} (present : name ∈ named.map fun t => Keyed.key t) :
      name ∈ links.map (·.table.name) := by
    rw [← keys] at present
    obtain ⟨l, member, same⟩ := List.mem_map.1 present
    exact List.mem_map.2 ⟨l, List.mem_of_find?_eq_some (mem_firstOfTable.1 member).2, same⟩
  refine ⟨rfl, rfl, rfl, ?_, ?_, ?_⟩
  · intro known
    refine Catalog.keys_insertAll_of_mem fun t member => ?_
    obtain ⟨l, listed, same⟩ := List.mem_map.1 (mapped (List.mem_map.2 ⟨t, member, rfl⟩))
    exact same ▸ known l listed
  · intro l member
    obtain ⟨t, inNamed, own⟩ := related_of_mem_left related member
    refine ⟨t, own, ?_⟩
    rw [← name_current_table p l, ← name_nameTable own]
    exact Catalog.find?_insertAll_of_mem _ distinct inNamed
  · intro name absent
    exact Catalog.find?_insertAll_of_not_mem _ fun present => absent (mapped present)

/-- A binding that succeeded, stage by stage. -/
structure Stages (storage : StorageModel) (conceptual : ConceptualModel)
    (mappings : List Mapping) (links : List Link) (named : ModelPair) (r : ResolvedModel) :
    Prop where
  linked : List.Forall₂ (Linked storage conceptual) mappings links
  entities : NamedModels (markAll ⟨storage, conceptual⟩ links) named
  tables : NamedTables (linkInverses named) ⟨r.storage, r.conceptual⟩ links
  mappings : r.mappings = mappings

theorem linked_of_walk {storage : StorageModel} {conceptual : ConceptualModel}
    {mappings : List Mapping} {links : List Link}
    (walked : (mappings.mapM (link storage conceptual)).outcome = .ok links) :
    List.Forall₂ (Linked storage conceptual) mappings links := by
  rw [Noted.outcome_mapM] at walked
  exact (mapM_ok.1 walked).imp fun _ _ => link_ok

structure BindRun (storage : StorageModel) (conceptual : ConceptualModel)
    (mappings : List Mapping) (functionMappings : List FunctionMapping) (links : List Link)
    (named : ModelPair) (r : ResolvedModel) : Prop where
  linked : (mappings.mapM (link storage conceptual)).outcome = .ok links
  entities : nameEntities (markAll ⟨storage, conceptual⟩ links) = .ok named
  tables : nameTables (linkInverses named) links = .ok ⟨r.storage, r.conceptual⟩
  mappings : r.mappings = mappings
  functionMappings : r.functionMappings = functionMappings

section run

variable {storage : StorageModel} {conceptual : ConceptualModel} {mappings : List Mapping}
  {functionMappings : List FunctionMapping} {links : List Link} {named : ModelPair}
  {r : ResolvedModel}

theorem bind_run (bound : (bind storage conceptual mappings functionMappings).outcome = .ok r) :
    ∃ links named, BindRun storage conceptual mappings functionMappings links named r := by
  simp only [bind, bindLinks, Noted.outcome_bind_eq_ok, Noted.outcome_pure_ok, Noted.outcome_lift,
    bind_ok] at bound
  obtain ⟨links, linked, ⟨storage', conceptual'⟩, ⟨named, entities, tables⟩, rfl⟩ := bound
  exact ⟨links, named, linked, entities, tables, rfl, rfl⟩

theorem BindRun.bindLinks
    (run : BindRun storage conceptual mappings functionMappings links named r) :
    bindLinks ⟨storage, conceptual⟩ links = .ok ⟨r.storage, r.conceptual⟩ :=
  bind_ok.2 ⟨named, run.entities, run.tables⟩

theorem BindRun.stages
    (run : BindRun storage conceptual mappings functionMappings links named r) :
    Stages storage conceptual mappings links named r :=
  ⟨linked_of_walk run.linked, nameEntities_ok run.entities, nameTables_ok run.tables, run.mappings⟩

theorem bind_stages
    (bound : (bind storage conceptual mappings functionMappings).outcome = .ok r) :
    ∃ links named, Stages storage conceptual mappings links named r := by
  obtain ⟨links, named, run⟩ := bind_run bound
  exact ⟨links, named, run.stages⟩

theorem mappings_of_bind
    (bound : (bind storage conceptual mappings functionMappings).outcome = .ok r) :
    r.mappings = mappings ∧ r.functionMappings = functionMappings := by
  obtain ⟨_, _, run⟩ := bind_run bound
  exact ⟨run.mappings, run.functionMappings⟩

theorem bind_of_links (functionMappings : List FunctionMapping)
    (walked : (mappings.mapM (link storage conceptual)).outcome = .ok links) :
    bind storage conceptual mappings functionMappings =
      ⟨(mappings.mapM (link storage conceptual)).notices,
        (bindLinks ⟨storage, conceptual⟩ links).map fun p =>
          ⟨p.storage, p.conceptual, mappings, functionMappings⟩⟩ := by
  rw [bind, Noted.bind_of_ok _ walked]
  refine congrArg₂ Noted.mk ?_ ?_
  · cases bindLinks ⟨storage, conceptual⟩ links <;> exact List.append_nil _
  · cases bindLinks ⟨storage, conceptual⟩ links <;> rfl

end run

/-- An entity in use as binding leaves it, what it was when it was `read`, and its navigations
before they learnt of the ways back. -/
structure BoundEntity (storage : StorageModel) (conceptual : ConceptualModel) (links : List Link)
    (named : ModelPair) (read : Entity) (navigations : List Navigation) (e : Entity) : Prop where
  inRead : conceptual.entities.find? e.name = some read
  scope : ∃ taken, memberScope e = .ok taken ∧
    NamedNavigations (markAll ⟨storage, conceptual⟩ links) taken read.navigations navigations
  inNamed : named.conceptual.entities.find? e.name =
    some { markedEntity links read with navigations := navigations }
  made : e = { markedEntity links read with
    navigations := navigations.map (linkNavigation named.conceptual read) }

theorem linkNavigation_of_name (m : ConceptualModel) {e d : Entity} (same : e.name = d.name) :
    linkNavigation m e = linkNavigation m d := by
  funext n
  simp only [linkNavigation, inverse?, same]

namespace Stages

variable {storage : StorageModel} {conceptual : ConceptualModel} {mappings : List Mapping}
  {links : List Link} {named : ModelPair} {r : ResolvedModel}

theorem find_entity (stages : Stages storage conceptual mappings links named r) (name : String) :
    r.conceptual.entities.find? name =
      (named.conceptual.entities.find? name).map (linkEntity named.conceptual) := by
  have same : r.conceptual = (linkInverses named).conceptual := stages.tables.conceptual
  rw [same, find_linkInverses]

/-- An entity of the bound model is one that was read, marked, named and linked. -/
theorem source_of_entity (stages : Stages storage conceptual mappings links named r)
    {name : String} {e : Entity} (found : r.conceptual.entities.find? name = some e) :
    ∃ read given, conceptual.entities.find? name = some read ∧
      NamedEntity (markAll ⟨storage, conceptual⟩ links) (markedEntity links read) given ∧
      named.conceptual.entities.find? name = some given ∧
      e = linkEntity named.conceptual given := by
  rw [stages.find_entity] at found
  obtain ⟨given, inNamed, linked⟩ := Option.map_eq_some_iff.1 found
  have related := stages.entities.entities name
  rw [inNamed, find_entity_markAll] at related
  cases inRead : conceptual.entities.find? name with
  | none => rw [inRead] at related; cases related
  | some read =>
    rw [inRead] at related
    cases related with
    | some own => exact ⟨read, given, rfl, own, inNamed, linked.symm⟩

theorem isUsed_linkEntity (m : ConceptualModel) (e : Entity) :
    (linkEntity m e).isUsed = e.isUsed := by
  unfold linkEntity
  split <;> rfl

theorem used_entity (stages : Stages storage conceptual mappings links named r) {name : String}
    {e : Entity} (found : r.conceptual.entities.find? name = some e) (used : e.isUsed = true) :
    ∃ read navigations, BoundEntity storage conceptual links named read navigations e := by
  obtain ⟨read, given, inRead, naming, inNamed, rfl⟩ := stages.source_of_entity found
  rw [isUsed_linkEntity] at used
  have marked : (markedEntity links read).isUsed = true := by
    cases unused : (markedEntity links read).isUsed with
    | true => rfl
    | false => rw [naming.unused unused, unused] at used; cases used
  obtain ⟨taken, navigations, scope, walked, rfl⟩ := naming.used marked
  have own : name = read.name := (Catalog.key_of_find? inRead).symm
  have linked : linkEntity named.conceptual
      { markedEntity links read with navigations := navigations } =
        { markedEntity links read with
          navigations := navigations.map (linkNavigation named.conceptual read) } :=
    (if_pos used).trans <| congrArg
      (fun link => { markedEntity links read with navigations := navigations.map link })
      (linkNavigation_of_name named.conceptual (name_markedEntity links read))
  rw [linked]
  refine ⟨read, navigations, ?_, ⟨taken, scope, ?_⟩, ?_, rfl⟩
  · rw [← inRead, own, ← name_markedEntity links read]
  · rwa [navigations_markedEntity] at walked
  · rw [← inNamed, own, ← name_markedEntity links read]

theorem known_table (stages : Stages storage conceptual mappings links named r) {l : Link}
    (member : l ∈ links) : storage.tables.find? l.table.name = some l.table :=
  table_of_link stages.linked member

theorem known_entity (stages : Stages storage conceptual mappings links named r) {l : Link}
    (member : l ∈ links) : conceptual.entities.find? l.entity.name = some l.entity :=
  entity_of_link stages.linked member

theorem find_marked_table (stages : Stages storage conceptual mappings links named r)
    (name : String) :
    named.storage.tables.find? name = (storage.tables.find? name).map (markedTable links) := by
  rw [stages.entities.storage, find_table_markAll]

theorem keys_tables (stages : Stages storage conceptual mappings links named r) :
    r.storage.tables.keys = storage.tables.keys := by
  have marked : named.storage.tables.keys = storage.tables.keys := by
    rw [stages.entities.storage, keys_tables_markAll]
  refine (stages.tables.keys fun l member => ?_).trans marked
  have known := Catalog.find?_isSome_iff named.storage.tables l.table.name
  exact known.1 (by rw [stages.find_marked_table, stages.known_table member]; rfl)

theorem keys_entities (stages : Stages storage conceptual mappings links named r) :
    r.conceptual.entities.keys = conceptual.entities.keys := by
  have same : r.conceptual = (linkInverses named).conceptual := stages.tables.conceptual
  rw [same]
  exact (Catalog.keys_mapEntries _ _ (key_linkEntity named.conceptual)).trans
    (stages.entities.keys.trans (keys_entities_markAll links ⟨storage, conceptual⟩))

theorem entitySets (stages : Stages storage conceptual mappings links named r) :
    r.storage.entitySets = storage.entitySets := by
  have same : r.storage.entitySets = named.storage.entitySets := stages.tables.entitySets
  rw [same, stages.entities.storage, entitySets_markAll]

theorem functions (stages : Stages storage conceptual mappings links named r) :
    r.storage.functions = storage.functions := by
  have same : r.storage.functions = named.storage.functions := stages.tables.functions
  rw [same, stages.entities.storage, functions_markAll]

theorem conceptual_eq (stages : Stages storage conceptual mappings links named r) :
    r.conceptual = { conceptual with entities := r.conceptual.entities } := by
  have same : r.conceptual = (linkInverses named).conceptual := stages.tables.conceptual
  obtain ⟨complexTypes, functions⟩ := others_markAll links ⟨storage, conceptual⟩
  have complexTypes : r.conceptual.complexTypes = conceptual.complexTypes := by
    rw [same, ← complexTypes]
    exact stages.entities.complexTypes
  have functions : r.conceptual.functions = conceptual.functions := by
    rw [same, ← functions]
    exact stages.entities.functions
  rw [← complexTypes, ← functions]

theorem name_resolveTable (stages : Stages storage conceptual mappings links named r)
    (name : String) : (r.storage.resolveTable? name).map (·.name) =
      (storage.resolveTable? name).map (·.name) :=
  name_resolveTable_of_keys stages.keys_tables stages.entitySets name

/-- A mapping of the bound model has become a link of the table and the entity it leads to. -/
theorem link_of_mapping (stages : Stages storage conceptual mappings links named r) {x : Mapping}
    (member : x ∈ r.mappings) :
    ∃ l ∈ links, l.mapping = x ∧ l.entity.name = x.entity ∧
      (r.storage.resolveTable? x.table).map (·.name) = some l.table.name := by
  rw [stages.mappings] at member
  obtain ⟨l, inLinks, linked⟩ := related_of_mem_left stages.linked member
  refine ⟨l, inLinks, linked.mapping, Catalog.key_of_find? linked.entity, ?_⟩
  rw [stages.name_resolveTable, linked.table]
  rfl

theorem used_of_link (stages : Stages storage conceptual mappings links named r) {l : Link}
    (member : l ∈ links) {e : Entity}
    (found : r.conceptual.entities.find? l.entity.name = some e) : e.isUsed = true := by
  obtain ⟨read, given, inRead, naming, _, rfl⟩ := stages.source_of_entity found
  have marked : (markedEntity links read).isUsed = true :=
    isUsed_of_link member (Catalog.key_of_find? inRead).symm
  obtain ⟨_, _, _, _, rfl⟩ := naming.used marked
  rw [isUsed_linkEntity]
  exact marked

theorem find_linked_entity (stages : Stages storage conceptual mappings links named r) {l : Link}
    (member : l ∈ links) : ∃ e, r.conceptual.entities.find? l.entity.name = some e := by
  have known := Catalog.find?_isSome_iff conceptual.entities l.entity.name
  rw [stages.known_entity member, ← stages.keys_entities,
    ← Catalog.find?_isSome_iff] at known
  exact Option.isSome_iff_exists.1 (known.1 rfl)

/-- A mapped table is the one that was read, marked, with its keys named after the entity of the
first link that leads to it. -/
theorem mapped_table (stages : Stages storage conceptual mappings links named r) {l : Link}
    (first : links.find? (fun x => x.table.name == l.table.name) = some l) :
    ∃ e taken keys, r.conceptual.entities.find? l.entity.name = some e ∧
      keyScope l.table e = .ok taken ∧
      nameForeignKeys named.storage (markedTable links l.table) taken e.navigations
        l.table.foreignKeys = .ok keys ∧
      r.storage.tables.find? l.table.name =
        some { markedTable links l.table with foreignKeys := keys } := by
  have member := List.mem_of_find?_eq_some first
  obtain ⟨e, found⟩ := stages.find_linked_entity member
  obtain ⟨t, own, inResult⟩ := stages.tables.mapped l (mem_firstOfTable.2 ⟨by simp, first⟩)
  have table : (current (linkInverses named) l).1 = markedTable links l.table := by
    show (named.storage.tables.find? l.table.name).getD l.table = _
    rw [stages.find_marked_table, stages.known_table member]
    rfl
  have entity : (current (linkInverses named) l).2 = e := by
    have same : r.conceptual = (linkInverses named).conceptual := stages.tables.conceptual
    show ((linkInverses named).conceptual.entities.find? l.entity.name).getD l.entity = e
    rw [← same, found]
    rfl
  rw [table, entity] at own
  simp only [nameTable, bind_ok, pure_ok] at own
  obtain ⟨taken, scope, keys, walked, rfl⟩ := own
  rw [foreignKeys_markedTable] at walked
  refine ⟨e, taken, keys, found, ?_, walked, inResult⟩
  rw [← scope, keyScope, keyScope, fixedName_markedTable]

end Stages

end EntityScaffold.Binding
