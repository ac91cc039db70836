import EntityScaffold.Proofs.Resolution

/-!
What binding changes. Of a table it writes what the mappings that lead to it say, and what its
foreign keys have learnt; of an entity what the last mapping that names it says, and what its
navigations have learnt. Whatever no mapping reaches stays as it was read.
-/
namespace EntityScaffold.Binding
open Reading

/-- Two foreign keys that differ in what binding finds out alone. -/
def KeyChange (k l : ForeignKey) : Prop :=
  l = { k with
    tableFixedName := l.tableFixedName
    tableSchema := l.tableSchema
    identifier := l.identifier
    inverseIdentifier := l.inverseIdentifier }

def NavigationChange (n m : Navigation) : Prop :=
  m = { n with
    targetFixedName := m.targetFixedName
    targetTypeName := m.targetTypeName
    targetSchema := m.targetSchema
    identifier := m.identifier
    inverseIdentifier := m.inverseIdentifier }

def leadsTo (storage : StorageModel) (t : Table) (x : Mapping) : Bool :=
  (storage.resolveTable? x.table).map (·.name) == some t.name

def lastMappingTo? (storage : StorageModel) (mappings : List Mapping) (t : Table) :
    Option Mapping :=
  mappings.reverse.find? (leadsTo storage t)

def lastMappingOf? (mappings : List Mapping) (e : Entity) : Option Mapping :=
  mappings.reverse.find? fun x => x.entity == e.name

/-- The property that the last correspondence of a column names, over all mappings of its table. -/
def lastProperty? (storage : StorageModel) (mappings : List Mapping) (t : Table)
    (column : String) : Option String :=
  let given := (mappings.filter (leadsTo storage t)).flatMap (·.correspondences)
  (given.reverse.find? (·.column == column)).map (·.property)

structure TableChange (storage : StorageModel) (conceptual : ConceptualModel)
    (mappings : List Mapping) (t u : Table) : Prop where
  used : u.isUsed = true ↔ ∃ x ∈ mappings, storage.resolveTable? x.table = some t
  entityName : u.isUsed = true → ∃ x e, lastMappingTo? storage mappings t = some x ∧
    conceptual.entities.find? x.entity = some e ∧ u.entityName = e.fixedName
  columns : u.columns.entries = t.columns.entries.map fun d =>
    { d with propertyName := lastProperty? storage mappings t d.name }
  foreignKeys : List.Forall₂ KeyChange t.foreignKeys u.foreignKeys
  kept : u = { t with
    isUsed := u.isUsed
    entityName := u.entityName
    columns := u.columns
    foreignKeys := u.foreignKeys }
  unreached : u.isUsed = false → u = t

structure EntityChange (storage : StorageModel) (mappings : List Mapping) (e f : Entity) :
    Prop where
  used : f.isUsed = true ↔ ∃ x ∈ mappings, x.entity = e.name
  table : f.isUsed = true → ∃ x t, lastMappingOf? mappings e = some x ∧
    storage.resolveTable? x.table = some t ∧ f.tableName = some t.name ∧ f.schema = t.schema
  navigations : List.Forall₂ NavigationChange e.navigations f.navigations
  kept : f = { e with
    isUsed := f.isUsed
    tableName := f.tableName
    schema := f.schema
    navigations := f.navigations }
  unreached : f.isUsed = false → f = e

theorem keyChange_refl (keys : List ForeignKey) : List.Forall₂ KeyChange keys keys :=
  List.forall₂_same.2 fun _ _ => rfl

theorem navigationChange_refl (navigations : List Navigation) :
    List.Forall₂ NavigationChange navigations navigations :=
  List.forall₂_same.2 fun _ _ => rfl

theorem keyChange_of_named {storage : StorageModel} {claim : ForeignKey × Option Navigation}
    {named : ForeignKey} (given : NamedKey storage claim named) : KeyChange claim.1 named := by
  obtain ⟨target, _, made⟩ := given.target
  unfold KeyChange
  rw [made]

theorem navigationChange_of_named {p : ModelPair} {n named : Navigation}
    (given : NamedNavigation p n named) : NavigationChange n named := by
  obtain ⟨target, table, _, made⟩ := given.target
  unfold NavigationChange
  rw [made]

theorem navigationChange_linked {n named : Navigation} (m : ConceptualModel) (e : Entity)
    (change : NavigationChange n named) : NavigationChange n (linkNavigation m e named) := by
  unfold NavigationChange at *
  rw [linkNavigation_eq, change]

namespace Stages

variable {storage : StorageModel} {conceptual : ConceptualModel} {mappings : List Mapping}
  {links : List Link} {named : ModelPair} {r : ResolvedModel}

theorem leadsTo_of_linked {x : Mapping} {l : Link} (linked : Linked storage conceptual x l)
    (t : Table) : leadsTo storage t x = (l.table.name == t.name) := by
  rw [leadsTo, linked.table]
  rfl

theorem lastMapping_related (stages : Stages storage conceptual mappings links named r)
    (t : Table) : Option.Rel (Linked storage conceptual) (lastMappingTo? storage mappings t)
      (lastTo links t.name) :=
  find_of_related (List.rel_reverse stages.linked) fun _ _ linked => leadsTo_of_linked linked t

theorem lastOf_related (stages : Stages storage conceptual mappings links named r)
    (e : Entity) : Option.Rel (Linked storage conceptual) (lastMappingOf? mappings e)
      (lastOf links e.name) := by
  refine find_of_related (List.rel_reverse stages.linked) fun x l linked => ?_
  rw [← Catalog.key_of_find? linked.entity]
  rfl

theorem correspondences_eq (stages : Stages storage conceptual mappings links named r)
    (t : Table) : correspondencesTo links t.name =
      (mappings.filter (leadsTo storage t)).flatMap (·.correspondences) := by
  have related := filter_related stages.linked (p := leadsTo storage t)
    (q := fun l => l.table.name == t.name) fun _ _ linked => leadsTo_of_linked linked t
  have same := map_eq_of_related related (f := (·.correspondences))
    (g := (·.mapping.correspondences)) fun _ _ linked => by rw [linked.mapping]
  rw [correspondencesTo, List.flatMap_def, List.flatMap_def, same]

theorem mapping_of_table (stages : Stages storage conceptual mappings links named r)
    {t : Table} (inRead : t ∈ storage.tables.entries) :
    (lastTo links t.name).isSome = true ↔
      ∃ x ∈ mappings, storage.resolveTable? x.table = some t := by
  rw [lastTo_isSome]
  constructor
  · rintro ⟨l, member, own⟩
    obtain ⟨x, inMappings, linked⟩ := related_of_mem_right stages.linked member
    have same : l.table = t := Catalog.eq_of_key_eq (mem_of_resolveTable linked.table) inRead own
    exact ⟨x, inMappings, same ▸ linked.table⟩
  · rintro ⟨x, member, resolved⟩
    obtain ⟨l, inLinks, linked⟩ := related_of_mem_left stages.linked member
    have same : l.table = t := Option.some.inj (linked.table.symm.trans resolved)
    exact ⟨l, inLinks, congrArg Table.name same⟩

theorem mapping_of_entity (stages : Stages storage conceptual mappings links named r)
    (e : Entity) : (lastOf links e.name).isSome = true ↔ ∃ x ∈ mappings, x.entity = e.name := by
  have related := stages.lastOf_related e
  have listed : (lastMappingOf? mappings e).isSome = true ↔ ∃ x ∈ mappings, x.entity = e.name := by
    simp [lastMappingOf?, List.find?_isSome]
  rw [← listed]
  generalize lastMappingOf? mappings e = x at related
  generalize lastOf links e.name = l at related
  cases related with
  | none => rfl
  | some _ => rfl

theorem source_of_table (stages : Stages storage conceptual mappings links named r)
    {t u : Table} (inRead : t ∈ storage.tables.entries)
    (found : r.storage.tables.find? t.name = some u) :
    ∃ keys, u = { markedTable links t with foreignKeys := keys } ∧
      List.Forall₂ KeyChange t.foreignKeys keys ∧
      (lastTo links t.name = none → keys = t.foreignKeys) := by
  cases first : links.find? (fun l => l.table.name == t.name) with
  | none =>
    have apart : ∀ l ∈ links, l.table.name ≠ t.name := by simpa using first
    have absent : t.name ∉ links.map (·.table.name) := fun listed => by
      obtain ⟨l, member, own⟩ := List.mem_map.1 listed
      exact apart l member own
    rw [stages.tables.others t.name absent] at found
    have marked :
        (linkInverses named).storage.tables.find? t.name = some (markedTable links t) := by
      show named.storage.tables.find? t.name = _
      rw [stages.find_marked_table]
      exact congrArg (Option.map _) (Catalog.find?_of_mem inRead)
    refine ⟨t.foreignKeys, ?_, keyChange_refl _, fun _ => rfl⟩
    rw [Option.some.inj (found.symm.trans marked)]
    exact congrArg (fun keys => { markedTable links t with foreignKeys := keys })
      (foreignKeys_markedTable links t)
  | some l =>
    have own : l.table.name = t.name := by simpa using List.find?_some first
    have member := List.mem_of_find?_eq_some first
    have known := stages.known_table member
    rw [own, show storage.tables.find? t.name = some t from Catalog.find?_of_mem inRead] at known
    rw [← own] at first found
    obtain ⟨e, taken, keys, _, _, walked, inResult⟩ := stages.mapped_table first
    have related := nameForeignKeys_claims walked
    refine ⟨keys, ?_, ?_, fun unlinked => ?_⟩
    · rw [Option.some.inj known]
      exact Option.some.inj (found.symm.trans inResult)
    · rw [Option.some.inj known, ← keys_of_claims named.storage e.navigations l.table.foreignKeys,
        List.forall₂_map_left_iff]
      exact related.imp fun _ _ given => keyChange_of_named given
    · have linked := lastTo_isSome.2 ⟨l, member, own⟩
      rw [unlinked] at linked
      cases linked

theorem table_source (stages : Stages storage conceptual mappings links named r) {name : String}
    {u : Table} (found : r.storage.tables.find? name = some u) :
    ∃ t keys, storage.tables.find? name = some t ∧
      u = { markedTable links t with foreignKeys := keys } := by
  have known : name ∈ storage.tables.keys := by
    rw [← stages.keys_tables, ← Catalog.find?_isSome_iff, found]
    rfl
  obtain ⟨t, inRead⟩ := Option.isSome_iff_exists.1 ((Catalog.find?_isSome_iff _ _).2 known)
  have own : t.name = name := Catalog.key_of_find? inRead
  rw [← own] at found
  obtain ⟨keys, made, _⟩ := stages.source_of_table (Catalog.mem_of_find? inRead) found
  exact ⟨t, keys, inRead, made⟩

theorem entity_source (stages : Stages storage conceptual mappings links named r) {name : String}
    {f : Entity} (found : r.conceptual.entities.find? name = some f) :
    ∃ e navigations, conceptual.entities.find? name = some e ∧
      f = { markedEntity links e with navigations := navigations } := by
  obtain ⟨read, given, inRead, naming, _, rfl⟩ := stages.source_of_entity found
  cases used : (markedEntity links read).isUsed with
  | false =>
    rw [naming.unused used, linkEntity, used]
    exact ⟨read, _, inRead, rfl⟩
  | true =>
    obtain ⟨_, _, _, _, rfl⟩ := naming.used used
    rw [linkEntity, if_pos used]
    exact ⟨read, _, inRead, rfl⟩

theorem table_change (stages : Stages storage conceptual mappings links named r)
    {t u : Table} (inRead : t ∈ storage.tables.entries) (unused : t.isUsed = false)
    (noProperties : ∀ d ∈ t.columns.entries, d.propertyName = none)
    (found : r.storage.tables.find? t.name = some u) :
    TableChange storage conceptual mappings t u := by
  obtain ⟨keys, rfl, changed, untouched⟩ := stages.source_of_table inRead found
  have reached := stages.mapping_of_table inRead
  have bound := bound_markedTable links t
  have columns : (markedTable links t).columns.entries = t.columns.entries.map fun d =>
      { d with propertyName := lastProperty? storage mappings t d.name } := by
    rw [columns_markedTable, entries_assignProperties, stages.correspondences_eq]
    refine List.map_congr_left fun d member => ?_
    rw [noProperties d member, Option.or_none]
    rfl
  have kept := congrArg (fun t => { t with foreignKeys := keys }) (markedTable_eq links t)
  have related := stages.lastMapping_related t
  generalize mapping : lastMappingTo? storage mappings t = x? at related
  cases last : lastTo links t.name with
  | none =>
    have used : (markedTable links t).isUsed = false := by
      rw [markedTable_of_unlinked last, unused]
    rw [last] at reached
    refine ⟨?_, fun inUse => ?_, columns, changed, kept, fun _ => ?_⟩
    · rw [← reached]
      simp [used]
    · exact absurd (used.symm.trans inUse) (by simp)
    · rw [untouched last, markedTable_of_unlinked last]
  | some l =>
    rw [last] at bound reached related
    obtain ⟨used, entityName⟩ := Prod.mk.inj bound
    cases related with
    | @some x _ linked =>
      refine ⟨?_, fun _ => ⟨x, l.entity, mapping, linked.entity, entityName⟩, columns, changed,
        kept, fun unmarked => ?_⟩
      · rw [← reached]
        exact ⟨fun _ => rfl, fun _ => used⟩
      · exact absurd (used.symm.trans unmarked) (by simp)

theorem navigations_changed (m : ConceptualModel) {p : ModelPair} {e d : Entity}
    {taken : List Label} {navigations : List Navigation}
    (given : NamedNavigations p taken e.navigations navigations) :
    List.Forall₂ NavigationChange e.navigations (navigations.map (linkNavigation m d)) :=
  List.forall₂_map_right_iff.2 <| given.each.imp fun _ _ own =>
    navigationChange_linked m d (navigationChange_of_named own)

theorem entity_change (stages : Stages storage conceptual mappings links named r)
    {e f : Entity} (inRead : e ∈ conceptual.entities.entries) (unused : e.isUsed = false)
    (found : r.conceptual.entities.find? e.name = some f) :
    EntityChange storage mappings e f := by
  obtain ⟨read, given, known, naming, _, rfl⟩ := stages.source_of_entity found
  have same : read = e :=
    Option.some.inj (known.symm.trans (Catalog.find?_of_mem inRead))
  subst same
  have reached := stages.mapping_of_entity read
  have bound := bound_markedEntity links read
  have related := stages.lastOf_related read
  generalize mapping : lastMappingOf? mappings read = x? at related
  cases last : lastOf links read.name with
  | none =>
    have untouched : given = read := by
      rw [naming.unused (by rw [markedEntity_of_unlinked last, unused]),
        markedEntity_of_unlinked last]
    subst untouched
    rw [linkEntity, if_neg (by simp [unused])]
    rw [last] at reached
    refine ⟨?_, fun inUse => ?_, navigationChange_refl _, rfl, fun _ => rfl⟩
    · rw [← reached]
      simp [unused]
    · exact absurd (unused.symm.trans inUse) (by simp)
  | some l =>
    rw [last] at bound reached related
    obtain ⟨used, tableName, schema⟩ := Prod.mk.inj bound |>.imp id Prod.mk.inj
    obtain ⟨taken, navigations, _, walked, rfl⟩ := naming.used used
    rw [navigations_markedEntity] at walked
    rw [linkEntity, if_pos (show (markedEntity links read).isUsed = true from used)]
    cases related with
    | @some x _ linked =>
      refine ⟨?_, fun _ => ⟨x, l.table, mapping, linked.table, tableName, schema⟩,
        navigations_changed _ walked, ?_, fun unmarked => ?_⟩
      · rw [← reached]
        exact ⟨fun _ => rfl, fun _ => used⟩
      · exact congrArg (fun e => { e with
          navigations := navigations.map (linkNavigation named.conceptual
            { markedEntity links read with navigations := navigations }) })
          (markedEntity_eq links read)
      · exact absurd (used.symm.trans unmarked) (by simp)

end Stages

theorem ReadStages.key_of_association {stored : List TableAssociation}
    {joined : List EntityAssociation} {storage : StorageModel} {conceptual : ConceptualModel}
    {mappings : List Mapping} {links : List Link} {named : ModelPair} {r : ResolvedModel}
    (model : ReadStages stored joined storage conceptual mappings links named r)
    {a : TableAssociation} (inStored : a ∈ stored) {name : String} {u : Table}
    (found : r.storage.tables.find? name = some u) {k : ForeignKey} (own : k ∈ a.keysAt name) :
    ∃ f ∈ u.foreignKeys, KeyChange k f := by
  obtain ⟨t, _, inRead, _⟩ := model.stages.table_source found
  have member := Catalog.mem_of_find? inRead
  obtain rfl : t.name = name := Catalog.key_of_find? inRead
  obtain ⟨keys, rfl, changed, _⟩ := model.stages.source_of_table member found
  refine related_of_mem_left changed ?_
  rw [(model.tables t member).keys]
  exact List.mem_flatMap.2 ⟨a, inStored, own⟩

/-- The models before and after binding, member by member. -/
structure ModelChange (storage : StorageModel) (conceptual : ConceptualModel)
    (mappings : List Mapping) (functionMappings : List FunctionMapping) (r : ResolvedModel) :
    Prop where
  tables : List.Forall₂ (TableChange storage conceptual mappings) storage.tables.entries
    r.storage.tables.entries
  entities : List.Forall₂ (EntityChange storage mappings) conceptual.entities.entries
    r.conceptual.entities.entries
  kept : r = {
    storage := { storage with tables := r.storage.tables }
    conceptual := { conceptual with entities := r.conceptual.entities }
    mappings := mappings
    functionMappings := functionMappings }

theorem bind_changes {rules : StorageRules} {naming : Naming.NamingRules}
    {storageRoot conceptualRoot : Xml.Element} {storage : StorageModel}
    {conceptual : ConceptualModel} {mappings : List Mapping}
    {functionMappings : List FunctionMapping} {r : ResolvedModel}
    (readTables : (readStorage rules storageRoot).outcome = .ok storage)
    (readEntities : (readConceptual naming conceptualRoot).outcome = .ok conceptual)
    (bound : (bind storage conceptual mappings functionMappings).outcome = .ok r) :
    ModelChange storage conceptual mappings functionMappings r := by
  obtain ⟨_, _, tables⟩ := readStorage_ok readTables
  obtain ⟨_, _, entities⟩ := readConceptual_ok readEntities
  obtain ⟨links, named, stages⟩ := bind_stages bound
  refine ⟨?_, ?_, ?_⟩
  · refine related_of_keys stages.keys_tables.symm fun t inRead u inResult same => ?_
    have found := Catalog.find?_of_mem inResult
    rw [← same] at found
    exact stages.table_change inRead (tables t inRead).unused (tables t inRead).noProperties found
  · refine related_of_keys stages.keys_entities.symm fun e inRead f inResult same => ?_
    have found := Catalog.find?_of_mem inResult
    rw [← same] at found
    exact stages.entity_change inRead (entities e inRead).unused found
  · obtain ⟨s, k, x, fm⟩ := r
    have storageKept : s = { storage with tables := s.tables } := by
      rw [← stages.functions, ← stages.entitySets]
    have conceptualKept : k = { conceptual with entities := k.entities } := stages.conceptual_eq
    rw [ResolvedModel.mk.injEq]
    exact ⟨storageKept, conceptualKept, mappings_of_bind bound⟩

section drafts

/-- Orders and drafts in one table, orders in a second one too, and a table and an entity that
nothing is mapped to. -/
def draftDocument : Xml.Element :=
  document
    [.plain "EntityType" [("Name", "Orders")]
      [.plain "Property" [("Name", "Id"), ("Type", "int")] [],
       .plain "Property" [("Name", "Code"), ("Type", "int")] []],
     .plain "EntityType" [("Name", "Details")]
      [.plain "Property" [("Name", "OrderId"), ("Type", "int")] []],
     .plain "EntityType" [("Name", "Archive")]
      [.plain "Property" [("Name", "Id"), ("Type", "int")] []],
     .plain "EntityContainer" []
      [.plain "EntitySet" [("Name", "DetailSet"), ("EntityType", "Details"), ("Schema", "sales")]
        []],
     .plain "Association" [("Name", "Has")]
      [.plain "End" [("Role", "Whole"), ("Type", "Orders"), ("Multiplicity", "1")] [],
       .plain "End" [("Role", "Part"), ("Type", "Details"), ("Multiplicity", "*")] [],
       .plain "ReferentialConstraint" []
        [.plain "Principal" [("Role", "Whole")] [.plain "PropertyRef" [("Name", "Id")] []],
         .plain "Dependent" [("Role", "Part")]
          [.plain "PropertyRef" [("Name", "OrderId")] []]]]]
    [.plain "EntityType" [("Name", "Order")]
      [.plain "Property" [("Name", "Number"), ("Type", "Int32")] []],
     .plain "EntityType" [("Name", "Draft")]
      [.plain "Property" [("Name", "Key"), ("Type", "Int32")] []],
     .plain "EntityType" [("Name", "Note")] [],
     .plain "Association" [("Name", "Replaces")]
      [.plain "End" [("Type", "Order"), ("Multiplicity", "1")] [],
       .plain "End" [("Type", "Draft"), ("Multiplicity", "*")] []]]
    [.plain "EntitySetMapping" [("TypeName", "Order"), ("StoreEntitySet", "Orders")]
      [.plain "ScalarProperty" [("ColumnName", "Id"), ("Name", "Number")] []],
     .plain "EntitySetMapping" [("TypeName", "Draft"), ("StoreEntitySet", "Orders")]
      [.plain "ScalarProperty" [("ColumnName", "Id"), ("Name", "Key")] []],
     .plain "EntitySetMapping" [("TypeName", "Order"), ("StoreEntitySet", "DetailSet")] []]

/-- What the last mappings have written, and what none has reached. -/
def DraftsBound (r : ResolvedModel) : Prop :=
  (r.storage.tables.entries.map fun t => (t.name, t.isUsed, t.entityName)) =
      [("Orders", true, .str "Draft"), ("Details", true, .str "Order"),
        ("Archive", false, .null)] ∧
    (r.storage.tables.entries.flatMap fun t => t.columns.entries.map (·.propertyName)) =
      [some "Key", none, none, none] ∧
    (r.conceptual.entities.entries.map fun e => (e.tableName, e.schema)) =
      [(some "Details", .str "sales"), (some "Orders", .str "dbo"), (some "Note", .null)]

instance : DecidablePred DraftsBound := fun _ => inferInstanceAs (Decidable (_ ∧ _))

set_option maxRecDepth 100000 in
theorem drafts_bound :
    ∃ r, (readAndBind (.ofSettings .defaults) draftDocument).outcome = .ok r ∧ DraftsBound r :=
  ok_of_any (by decide +kernel)

theorem drafts_changed :
    ∃ rules storage conceptual r,
      Sections (.ofSettings .defaults) draftDocument rules storage conceptual r ∧ DraftsBound r ∧
        ModelChange storage conceptual r.mappings r.functionMappings r := by
  obtain ⟨r, resolved, drafts⟩ := drafts_bound
  obtain ⟨rules, storage, conceptual, sections⟩ := readAndBind_sections resolved
  exact ⟨rules, storage, conceptual, r, sections, drafts,
    bind_changes sections.readTables sections.readEntities sections.bound⟩

end drafts

end EntityScaffold.Binding
