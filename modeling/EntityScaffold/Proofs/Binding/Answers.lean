import EntityScaffold.Proofs.Binding.Failures
import EntityScaffold.Proofs.Resolution

/-!
What binding answers for models that have been read. Unless a name overflows, it fails just when a
mapping or a navigation names what is not there, in whatever order the mappings come. An overflow
can stand in front of a navigation that leads astray, and then it is what is reported; and which
entity comes first for a table decides around whose members the names of its keys must find a way.
-/
namespace EntityScaffold.Binding
open Reading

def Overflows {α : Type} (x : Except Fault α) : Prop := ∃ base, x = .error (.noFreeName base)

def MissesReference {α : Type} (x : Except Fault α) : Prop := ∃ flaw, x = .error (.reference flaw)

/-- What binding answers, by what the mappings and the navigations name. -/
structure Answered (storage : StorageModel) (conceptual : ConceptualModel)
    (mappings : List Mapping) (x : Except Fault ResolvedModel) : Prop where
  kinds : (∃ r, x = .ok r) ∨ MissesReference x ∨ Overflows x
  unlinkable : (∃ y ∈ mappings, Unlinkable storage conceptual y) → MissesReference x
  misses_iff : ¬ Overflows x → (MissesReference x ↔ Unbindable storage conceptual mappings)
  bound_iff : ¬ Overflows x → ((∃ r, x = .ok r) ↔ ¬ Unbindable storage conceptual mappings)
  missing : MissesReference x → Unbindable storage conceptual mappings
  bound : (∃ r, x = .ok r) → ¬ Unbindable storage conceptual mappings
  flaws : ∀ flaw, x = .error (.reference flaw) →
    MappingFault (.reference flaw) ∨ TargetFault (.reference flaw)
  crowded : Overflows x → Crowded storage conceptual mappings

section answers

variable {storage : StorageModel} {conceptual : ConceptualModel}

theorem reference_of_mappingFault {f : Fault} (fault : MappingFault f) :
    ∃ flaw, f = .reference flaw := by
  obtain ⟨m, t, rfl⟩ | ⟨m, e, rfl⟩ | ⟨m, c, t, rfl⟩ := fault
  · exact ⟨_, rfl⟩
  · exact ⟨_, rfl⟩
  · exact ⟨_, rfl⟩

theorem bindable_of_bound (unused : Unused conceptual) {mappings : List Mapping}
    {functionMappings : List FunctionMapping} {r : ResolvedModel}
    (bound : (bind storage conceptual mappings functionMappings).outcome = .ok r) :
    ¬ Unbindable storage conceptual mappings := by
  rintro (⟨x, member, missing⟩ | astray)
  · obtain ⟨links, walked, _⟩ := Noted.outcome_bind_eq_ok.1 bound
    exact (links_ok_iff mappings).1 ⟨links, walked⟩ x member missing
  · exact targets_mapped unused bound astray

theorem bindFault_cases {mappings : List Mapping} {f : Fault}
    (fault : BindFault storage conceptual mappings f) :
    (∃ flaw, f = .reference flaw ∧ Unbindable storage conceptual mappings ∧
      (MappingFault f ∨ TargetFault f)) ∨
    ((∃ base, f = .noFreeName base) ∧ Crowded storage conceptual mappings ∧
      ∀ y ∈ mappings, ¬ Unlinkable storage conceptual y) := by
  rcases fault with ⟨kind, missing⟩ | ⟨linkable, ⟨kind, astray⟩ | ⟨overflow, crowded⟩⟩
  · obtain ⟨flaw, same⟩ := reference_of_mappingFault kind
    exact .inl ⟨flaw, same, .inl missing, .inl kind⟩
  · obtain ⟨e, target, same⟩ := id kind
    exact .inl ⟨_, same, .inr astray, .inr kind⟩
  · exact .inr ⟨overflow, crowded, linkable⟩

theorem answered_of_read (storageRead : StorageRead storage) (read : ConceptualRead conceptual)
    (mappings : List Mapping) (functionMappings : List FunctionMapping) :
    Answered storage conceptual mappings
      (bind storage conceptual mappings functionMappings).outcome := by
  have fails := @bind_fails storage conceptual mappings functionMappings storageRead read
  have bindable := @bindable_of_bound storage conceptual read.unused mappings functionMappings
  generalize (bind storage conceptual mappings functionMappings).outcome = x at fails bindable
  cases x with
  | ok r =>
    have named := bindable rfl
    refine ⟨.inl ⟨r, rfl⟩, fun missing => absurd (.inl missing) named, ?_, ?_, ?_, fun _ => named,
      by simp, by simp [Overflows]⟩
    · intro _
      simp [MissesReference, named]
    · intro _
      simp [named]
    · simp [MissesReference]
  | error f =>
    rcases bindFault_cases (failsWith_error.1 fails) with ⟨flaw, rfl, missing, kind⟩ |
      ⟨⟨base, rfl⟩, crowded, linkable⟩
    · refine ⟨.inr (.inl ⟨flaw, rfl⟩), fun _ => ⟨flaw, rfl⟩, ?_, ?_, fun _ => missing, by simp, ?_,
        by simp [Overflows]⟩
      · intro _
        simp [MissesReference, missing]
      · intro _
        simp [missing]
      · rintro _ ⟨⟩
        exact kind
    · refine ⟨.inr (.inr ⟨base, rfl⟩), ?_, fun clear => absurd ⟨base, rfl⟩ clear,
        fun clear => absurd ⟨base, rfl⟩ clear, by simp [MissesReference], by simp, by simp,
        fun _ => crowded⟩
      rintro ⟨y, member, missing⟩
      exact absurd missing (linkable y member)

theorem unbindable_perm {mappings others : List Mapping} (same : mappings.Perm others) :
    Unbindable storage conceptual mappings ↔ Unbindable storage conceptual others := by
  simp only [Unbindable, LeadsAstray, same.mem_iff]

end answers

theorem bind_answers {rules : StorageRules} {naming : Naming.NamingRules}
    {storageRoot conceptualRoot : Xml.Element} {storage : StorageModel}
    {conceptual : ConceptualModel} (texts : rules.Texts) (namingTexts : naming.Texts)
    (readTables : (readStorage rules storageRoot).outcome = .ok storage)
    (readEntities : (readConceptual naming conceptualRoot).outcome = .ok conceptual)
    (functionMappings : List FunctionMapping) :
    (∀ mappings, Answered storage conceptual mappings
      (bind storage conceptual mappings functionMappings).outcome) ∧
    ∀ mappings others, mappings.Perm others →
      let here := (bind storage conceptual mappings functionMappings).outcome
      let there := (bind storage conceptual others functionMappings).outcome
      (MissesReference here → ¬ ∃ r, there = .ok r) ∧
        (¬ Overflows here → ¬ Overflows there → ((∃ r, here = .ok r) ↔ ∃ r, there = .ok r)) := by
  have storageRead := storage_read texts readTables
  have read := conceptual_read namingTexts readEntities
  refine ⟨fun mappings => answered_of_read storageRead read mappings functionMappings, ?_⟩
  intro mappings others same here there
  have own := answered_of_read storageRead read mappings functionMappings
  have other := answered_of_read storageRead read others functionMappings
  constructor
  · intro missed bound
    exact other.bound bound ((unbindable_perm same).1 (own.missing missed))
  · intro clear clearToo
    rw [own.bound_iff clear, other.bound_iff clearToo, unbindable_perm same]

section crowd

def propertyNode (name : String) : Xml.Element := .plain "Property" [("Name", name)] []

def entityNode (name : String) (properties : List String) : Xml.Element :=
  .plain "EntityType" [("Name", name)] (properties.map propertyNode)

def associationNode (name first second : String) : Xml.Element :=
  .plain "Association" [("Name", name)]
    [.plain "End" [("Role", "X"), ("Type", first), ("Multiplicity", "1")] [],
     .plain "End" [("Role", "Y"), ("Type", second), ("Multiplicity", "1")] [],
     .plain "ReferentialConstraint" []
      [.plain "Principal" [("Role", "X")] [.plain "PropertyRef" [("Name", "Id")] []],
       .plain "Dependent" [("Role", "Y")] [.plain "PropertyRef" [("Name", "Id")] []]]]

def crowdNodes : List Xml.Element :=
  [.plain "EntityContainer" [] [], entityNode "A" (Naming.tried "T"), entityNode "B" [],
   entityNode "C" [], entityNode "D" (Naming.tried "T"), associationNode "R" "A" "A",
   associationNode "S" "A" "C"]

/-- A table `T` with a foreign key to itself, and entities `A` and `D` whose properties have taken
all names after `T`. The first navigation of `A` leads to itself, and its last one to `C`. -/
def crowdDocument : Xml.Element :=
  document [entityNode "T" ["Id"], associationNode "F" "T" "T"] crowdNodes
    [.plain "EntitySetMapping" [("TypeName", "A"), ("StoreEntitySet", "T")] []]

def plainNaming : Naming.NamingRules := .ofTexts [] [] []

def plainRules : StorageRules := ⟨plainNaming, .str "dbo"⟩

theorem childrenNamed_entityNode (entity name : String) (properties : List String) :
    (entityNode entity properties).childrenNamed name =
      .ok ((properties.map propertyNode).filter (·.name = name)) := by
  have shown : (entityNode entity properties).children = properties.map propertyNode := by
    refine List.filter_eq_self.2 fun d member => ?_
    obtain ⟨s, _, rfl⟩ := List.mem_map.1 member
    rfl
  rw [Xml.Element.childrenNamed, shown]
  refine Xml.Element.namedIn_of_names fun d member => ?_
  obtain ⟨s, _, rfl⟩ := List.mem_map.1 member
  exact Xml.Element.localName_plain (by decide +kernel) ..

theorem readEntity_entityNode {naming : Naming.NamingRules} {entity : String} {fixedName : Label}
    (fixed : naming.normalize entity false = .ok fixedName) (properties : List String) :
    (readEntity naming (entityNode entity properties)).outcome = .ok {
      name := entity, fixedName := fixedName, tableName := some entity,
      properties := properties.map fun s => { name := s, type := "" } } := by
  have keys : keyNames (entityNode entity properties) = .ok [] := by
    have unnamed : (properties.map propertyNode).filter (·.name = "Key") = [] := by
      simp [propertyNode, Xml.Element.plain, Xml.Element.name]
    rw [keyNames, childrenNamed_entityNode, unnamed]
    rfl
  have all : (properties.map propertyNode).filter (·.name = "Property") =
      properties.map propertyNode := by
    simp [propertyNode, Xml.Element.plain, Xml.Element.name]
  have read : ((properties.map propertyNode).mapM (readProperty [])).outcome =
      .ok (properties.map fun s => { name := s, type := "" }) := by
    rw [Noted.outcome_mapM, mapM_ok, List.forall₂_map_left_iff, List.forall₂_map_right_iff]
    exact List.forall₂_same.2 fun s _ => rfl
  simp only [readEntity, Noted.outcome_bind_eq_ok, Noted.outcome_pure_ok, Noted.outcome_liftM]
  refine ⟨entity, rfl, fixedName, fixed, [], keys, _, ?_, _, read, rfl⟩
  rw [childrenNamed_entityNode, all]

def crowdKey (isPrincipal : Bool) : ForeignKey where
  source := .one
  destination := .one
  table := "T"
  association := "F"
  isPrincipal := isPrincipal
  columns := [("Id", "Id")]

def crowdTable : Table where
  name := "T"
  fixedName := .str "T"
  columns := .ofList [{ name := "Id", type := "" }]
  foreignKeys := [crowdKey false, crowdKey true]

def crowdStorage : StorageModel where
  tables := .ofList [crowdTable]

def crowdEntity (name : String) (properties : List String) (navigations : List Navigation) :
    Entity where
  name := name
  fixedName := .str name
  tableName := some name
  properties := properties.map fun s => { name := s, type := "" }
  navigations := navigations

def crowdNavigation (entity target association : String) : Navigation where
  entityName := entity
  targetName := target
  multiplicity := .one
  association := association

def strayEntity : Entity :=
  crowdEntity "A" (Naming.tried "T")
    [crowdNavigation "A" "A" "R", crowdNavigation "A" "A" "R", crowdNavigation "A" "C" "S"]

def roomyEntity : Entity := crowdEntity "B" [] []

def crowdedEntity : Entity := crowdEntity "D" (Naming.tried "T") []

def crowdEntities : ConceptualModel where
  entities := .ofList
    [strayEntity, roomyEntity, crowdEntity "C" [] [crowdNavigation "C" "A" "S"], crowdedEntity]

def unjoinedEntities : ConceptualModel where
  entities := .ofList
    [crowdEntity "A" (Naming.tried "T") [], roomyEntity, crowdEntity "C" [] [], crowdedEntity]

theorem readStorage_crowd : (readStorage plainRules crowdDocument).outcome = .ok crowdStorage := by
  rfl

theorem readConceptual_crowd :
    (readConceptual plainNaming crowdDocument).outcome = .ok crowdEntities := by
  have schema : schemaIn? crowdDocument "ConceptualModels" =
      .ok (some (.plain "Schema" [] crowdNodes)) := by rfl
  have types : (Xml.Element.plain "Schema" [] crowdNodes).childrenNamed "EntityType" =
      .ok [entityNode "A" (Naming.tried "T"), entityNode "B" [], entityNode "C" [],
        entityNode "D" (Naming.tried "T")] := by rfl
  have complexTypes : (Xml.Element.plain "Schema" [] crowdNodes).childrenNamed "ComplexType" =
      .ok [] := by rfl
  have imports : importNodes (.plain "Schema" [] crowdNodes) = .ok [] := by rfl
  have associations : readEntityAssociations unjoinedEntities (.plain "Schema" [] crowdNodes) =
      .ok [⟨"R", ("A", .one), ("A", .one)⟩, ⟨"S", ("A", .one), ("C", .one)⟩] := by rfl
  have entity {name : String} {properties : List String}
      (fixed : plainNaming.normalize name false = .ok (.str name)) :=
    readEntity_entityNode fixed properties
  have entities : ([entityNode "A" (Naming.tried "T"), entityNode "B" [], entityNode "C" [],
      entityNode "D" (Naming.tried "T")].mapM (readEntity plainNaming)).outcome =
        .ok unjoinedEntities.entities.entries := by
    rw [Noted.outcome_mapM, mapM_ok]
    exact .cons (entity rfl) (.cons (entity rfl) (.cons (entity rfl) (.cons (entity rfl) .nil)))
  simp only [readConceptual, Noted.outcome_bind_eq_ok, Noted.outcome_liftM]
  refine ⟨_, schema, ?_⟩
  simp only [readConceptualSchema, Noted.outcome_bind_eq_ok, Noted.outcome_pure_ok,
    Noted.outcome_liftM]
  exact ⟨_, types, _, entities, _, complexTypes, [], rfl, _, imports, [], rfl, _, associations,
    rfl⟩

def sharing (entities : List Entity) : List Mapping := entities.map fun e => ⟨"T", e.name, []⟩

def crowdLinks (entities : List Entity) : List Link :=
  entities.map fun e => ⟨⟨"T", e.name, []⟩, crowdTable, e⟩

theorem bind_sharing {entities : List Entity}
    (linked : ((sharing entities).mapM (link crowdStorage crowdEntities)).outcome =
      .ok (crowdLinks entities)) :
    (bind crowdStorage crowdEntities (sharing entities) []).outcome =
      (bindLinks ⟨crowdStorage, crowdEntities⟩ (crowdLinks entities)).map fun p =>
        ⟨p.storage, p.conceptual, sharing entities, []⟩ := by
  rw [bind_of_links [] linked]

theorem bindLinks_crowdedEntity {p : ModelPair} {links : List Link} {e target : Entity}
    {others : List Entity} {table : Table} {n : Navigation} {rest : List Navigation}
    {name base : String}
    (ordered : (markAll p links).conceptual.orderedEntities = .ok (e :: others))
    (own : e.fixedName = .str name) (navigations : e.navigations = n :: rest)
    (aimed : targetOf (markAll p links) e n = .ok (target, table))
    (shown : table.fixedName = .str base)
    (full : ∀ s ∈ Naming.tried base, ∃ p ∈ e.properties, p.name = s) :
    bindLinks p links = .error (.noFreeName base) := by
  have scope : memberScope e = .ok (.str name :: e.properties.map fun p => .str p.name) := by
    rw [memberScope, own]
    rfl
  have taken : ∀ s ∈ Naming.tried base,
      Json.str s ∈ Json.str name :: e.properties.map fun p => .str p.name := by
    intro s member
    obtain ⟨p, inEntity, rfl⟩ := full s member
    exact List.mem_cons_of_mem _ (List.mem_map.2 ⟨p, inEntity, rfl⟩)
  have walked : nameNavigations (markAll p links) e
      (.str name :: e.properties.map fun p => .str p.name) (n :: rest) =
        .error (.noFreeName base) := by
    rw [nameNavigations, aimed]
    simp only [Bind.bind, Except.bind, shown, Naming.freeLabel_error_iff.2 ⟨rfl, taken⟩]
  simp only [bindLinks, nameEntities, ordered, List.mapM_cons, nameEntity, scope, navigations,
    walked, Bind.bind, Except.bind]

theorem bindLinks_crowdedTable {p named : ModelPair} {l : Link} {links : List Link}
    {t target : Table} {e : Entity} {k : ForeignKey} {rest : List ForeignKey}
    {taken : List Label} {base : String}
    (given : nameEntities (markAll p (l :: links)) = .ok named)
    (now : current (linkInverses named) l = (t, e))
    (scope : keyScope t e = .ok taken) (keys : t.foreignKeys = k :: rest)
    (aimed : (linkInverses named).storage.tables.find? k.table = some target)
    (unpaired : e.navigations = []) (shown : target.fixedName = .str base)
    (full : ∀ s ∈ Naming.tried base, .str s ∈ taken) :
    bindLinks p (l :: links) = .error (.noFreeName base) := by
  have walked : nameForeignKeys (linkInverses named).storage t taken [] (k :: rest) =
      .error (.noFreeName base) := by
    simp only [nameForeignKeys, aimed, shown, chosen?, List.filter_nil, List.find?_nil,
      List.head?_nil, Option.or_none, Naming.freeLabel_error_iff.2 ⟨rfl, full⟩, Bind.bind,
      Except.bind]
  simp only [bindLinks, given, nameTables, firstOfTable, List.not_mem_nil, if_false,
    List.mapM_cons, now, nameTable, scope, unpaired, keys, walked, Bind.bind, Except.bind]

theorem bindLinks_stray :
    bindLinks ⟨crowdStorage, crowdEntities⟩ (crowdLinks [strayEntity]) =
      .error (.noFreeName "T") := by
  have ordered : (markAll ⟨crowdStorage, crowdEntities⟩
      (crowdLinks [strayEntity])).conceptual.orderedEntities =
        .ok [markedEntity (crowdLinks [strayEntity]) strayEntity] := by rfl
  have navigations : (markedEntity (crowdLinks [strayEntity]) strayEntity).navigations =
      strayEntity.navigations := by rfl
  have aimed : targetOf (markAll ⟨crowdStorage, crowdEntities⟩ (crowdLinks [strayEntity]))
      (markedEntity (crowdLinks [strayEntity]) strayEntity) (crowdNavigation "A" "A" "R") =
        .ok (markedEntity (crowdLinks [strayEntity]) strayEntity,
          markedTable (crowdLinks [strayEntity]) crowdTable) := by rfl
  have shown : (markedTable (crowdLinks [strayEntity]) crowdTable).fixedName = .str "T" := by rfl
  have properties : (markedEntity (crowdLinks [strayEntity]) strayEntity).properties =
      (Naming.tried "T").map fun s => { name := s, type := "" } := by rfl
  refine bindLinks_crowdedEntity ordered (show _ = Json.str "A" from rfl) navigations aimed shown
    fun s member => ?_
  rw [properties]
  exact ⟨_, List.mem_map_of_mem member, rfl⟩

def crowdNamed (links : List Link) : ModelPair :=
  let p := markAll ⟨crowdStorage, crowdEntities⟩ links
  { p with conceptual := { p.conceptual with
      entities := p.conceptual.entities.insertAll
        [markedEntity links roomyEntity, markedEntity links crowdedEntity] } }

theorem bindLinks_crowded :
    bindLinks ⟨crowdStorage, crowdEntities⟩ (crowdLinks [crowdedEntity, roomyEntity]) =
      .error (.noFreeName "T") := by
  have given : nameEntities (markAll ⟨crowdStorage, crowdEntities⟩
      (crowdLinks [crowdedEntity, roomyEntity])) =
        .ok (crowdNamed (crowdLinks [crowdedEntity, roomyEntity])) := by rfl
  have now : current (linkInverses (crowdNamed (crowdLinks [crowdedEntity, roomyEntity])))
      ⟨⟨"T", "D", []⟩, crowdTable, crowdedEntity⟩ =
        (markedTable (crowdLinks [crowdedEntity, roomyEntity]) crowdTable,
          markedEntity (crowdLinks [crowdedEntity, roomyEntity]) crowdedEntity) := by rfl
  have scope : keyScope (markedTable (crowdLinks [crowdedEntity, roomyEntity]) crowdTable)
      (markedEntity (crowdLinks [crowdedEntity, roomyEntity]) crowdedEntity) =
        .ok (.str "T" :: .str "D" :: (crowdedEntity.properties.map fun p => .str p.name) ++ []) :=
    by rfl
  have keys : (markedTable (crowdLinks [crowdedEntity, roomyEntity]) crowdTable).foreignKeys =
      [crowdKey false, crowdKey true] := by rfl
  have aimed : (linkInverses (crowdNamed
      (crowdLinks [crowdedEntity, roomyEntity]))).storage.tables.find? "T" =
        some (markedTable (crowdLinks [crowdedEntity, roomyEntity]) crowdTable) := by rfl
  have properties : crowdedEntity.properties =
      (Naming.tried "T").map fun s => { name := s, type := "" } := by rfl
  refine bindLinks_crowdedTable given now scope keys aimed rfl (show _ = Json.str "T" from rfl)
    fun s member => ?_
  rw [properties, List.map_map, List.append_nil]
  exact List.mem_cons_of_mem _ (List.mem_cons_of_mem _ (List.mem_map_of_mem member))

theorem bindLinks_roomy :
    (bindLinks ⟨crowdStorage, crowdEntities⟩
      (crowdLinks [roomyEntity, crowdedEntity])).toOption.isSome = true := by
  rfl

theorem bind_roomy :
    ∃ r, (bind crowdStorage crowdEntities (sharing [roomyEntity, crowdedEntity]) []).outcome =
      .ok r := by
  rw [bind_sharing (by rfl)]
  cases given : bindLinks ⟨crowdStorage, crowdEntities⟩
      (crowdLinks [roomyEntity, crowdedEntity]) with
  | error f =>
    have bound := bindLinks_roomy
    rw [given] at bound
    cases bound
  | ok p => exact ⟨_, rfl⟩

/-- Two entities that share a table are bound, and lack nothing; a mapping to a table that is not
there is reported, whatever stands before it. -/
theorem crowd_answered :
    ¬ Unbindable crowdStorage crowdEntities (sharing [roomyEntity, crowdedEntity]) ∧
      ∀ mappings, ⟨"Archive", "B", []⟩ ∈ mappings →
        MissesReference (bind crowdStorage crowdEntities mappings []).outcome := by
  have texts : plainRules.Texts := ⟨Naming.NamingRules.texts_ofTexts .., Label.isText_str "dbo"⟩
  obtain ⟨answered, _⟩ := bind_answers texts (Naming.NamingRules.texts_ofTexts ..)
    readStorage_crowd readConceptual_crowd []
  refine ⟨(answered _).bound bind_roomy, fun mappings member => ?_⟩
  exact (answered mappings).unlinkable ⟨_, member, .inl (by decide +kernel)⟩

/-- An overflow stands before the navigation that leads astray; and it is there or not by the order
of the mappings. -/
theorem overflow_before_missing :
    (readStorage plainRules crowdDocument).outcome = .ok crowdStorage ∧
      (readConceptual plainNaming crowdDocument).outcome = .ok crowdEntities ∧
      Unbindable crowdStorage crowdEntities (sharing [strayEntity]) ∧
      (bind crowdStorage crowdEntities (sharing [strayEntity]) []).outcome =
        .error (.noFreeName "T") ∧
      (bind crowdStorage crowdEntities (sharing [crowdedEntity, roomyEntity]) []).outcome =
        .error (.noFreeName "T") ∧
      ∃ r, (bind crowdStorage crowdEntities (sharing [roomyEntity, crowdedEntity]) []).outcome =
        .ok r := by
  refine ⟨readStorage_crowd, readConceptual_crowd, .inr ?_, ?_, ?_, ?_⟩
  · refine ⟨⟨"T", "A", []⟩, by simp [sharing, strayEntity, crowdEntity], strayEntity, by rfl,
      crowdNavigation "A" "C" "S", by simp [strayEntity, crowdEntity], fun y member => ?_⟩
    obtain rfl : y = ⟨"T", "A", []⟩ := List.mem_singleton.1 member
    decide
  · rw [bind_sharing (by rfl), bindLinks_stray]
    rfl
  · rw [bind_sharing (by rfl), bindLinks_crowded]
    rfl
  · exact bind_roomy

end crowd

end EntityScaffold.Binding
