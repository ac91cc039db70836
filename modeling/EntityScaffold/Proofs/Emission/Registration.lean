import EntityScaffold.Proofs.Binding.LastMappings
import EntityScaffold.Proofs.Emission.Parts
import EntityScaffold.Proofs.Emission.Units
import EntityScaffold.Proofs.Resolution

/-!
Classes that other units refer to. The context registers a configuration for every entity, after
the table that the entity remembers; configurations are written for the mappings, after the entity
that their table remembers. Where several entities share a table or an entity is split over several,
the two go apart, and then a class is registered or bound that no unit defines.
-/
namespace EntityScaffold.Source.SourceUnit

def registers : SourceUnit → List String
  | .contextClass u => u.configurations
  | _ => []

def configures : SourceUnit → List String
  | .entityConfiguration v => [v.typeName]
  | _ => []

def binds : SourceUnit → List String
  | .entityConfiguration v => [v.entityType]
  | _ => []

def defines : SourceUnit → List String
  | .domainClass d => [d.typeName]
  | _ => []

end EntityScaffold.Source.SourceUnit

namespace EntityScaffold.Emission
open Binding Source

/-- Every configuration that is registered and every entity type that is bound has its class. -/
def ClassesComplete (units : List SourceUnit) : Prop :=
  (∀ name ∈ units.flatMap (·.registers), name ∈ units.flatMap (·.configures)) ∧
    ∀ name ∈ units.flatMap (·.binds), name ∈ units.flatMap (·.defines)

instance (units : List SourceUnit) : Decidable (ClassesComplete units) :=
  inferInstanceAs (Decidable (_ ∧ _))

abbrev Place := String × String

def bucketText (c : Config) (schema : Label) : String :=
  ((c.bucket schema).toOption.map Json.display).getD ""

def placeAt (c : Config) (t : Table) (e : Entity) : Place :=
  (bucketText c t.schema, e.fixedName.display)

def configurationPath (c : Config) (p : Place) : String :=
  "/".intercalate ["Configuration", p.1, configurationName p.2] ++ c.fileExtension.display

/-- Where the entities in use are: each with the last table that it is mapped to. -/
def entityPlaces (c : Config) (r : ResolvedModel) : List Place :=
  r.usedEntities.filterMap fun e => (lastTable? r e).map fun t => placeAt c t e

/-- Where the mappings lead: each to its table, with the last entity that is mapped to that. -/
def fragmentPlaces (c : Config) (r : ResolvedModel) : List Place :=
  r.mappings.filterMap fun x => (r.storage.resolveTable? x.table).bind fun t =>
    (lastEntity? r t).map (placeAt c t)

/-- Where configurations are written: of the mappings with one path the first. -/
def mappingPlaces (c : Config) (r : ResolvedModel) : List Place :=
  firstOfPath [] ((fragmentPlaces c r).map fun p => (p, configurationPath c p))

def complexPlaces (c : Config) (r : ResolvedModel) : List Place :=
  r.returnedComplexTypes.map fun t => (c.defaultBucket.display, t.fixedName.display)

def configurationAt (p : Place) : String := configurationType p.1 p.2

def domainTypeAt (p : Place) : String := domainType p.1 p.2

/-- Entities and mappings come to the same places, as far as the classes there are concerned. -/
def PlacesAgree (c : Config) (r : ResolvedModel) : Prop :=
  (∀ p ∈ entityPlaces c r, ∃ q ∈ mappingPlaces c r ++ complexPlaces c r,
      configurationAt q = configurationAt p) ∧
    ∀ q ∈ mappingPlaces c r, ∃ p ∈ entityPlaces c r ++ complexPlaces c r,
      domainTypeAt p = domainTypeAt q

instance (c : Config) (r : ResolvedModel) : Decidable (PlacesAgree c r) :=
  inferInstanceAs (Decidable (_ ∧ _))

theorem display_of_text {label : Label} {text : String} (found : label.text = .ok text) :
    label.display = text := by
  cases label <;> simp_all [Label.text, Json.display]

theorem bucketText_of_ok {c : Config} {schema bucket : Label}
    (found : c.bucket schema = .ok bucket) : bucketText c schema = bucket.display := by
  rw [bucketText, found]
  rfl

theorem firstOfPath_related {α β : Type} {R : α → β → Prop} {as : List (α × String)}
    {bs : List (β × String)} {emitted : List String}
    (related : List.Forall₂ (fun a b => R a.1 b.1 ∧ a.2 = b.2) as bs) :
    List.Forall₂ R (firstOfPath emitted as) (firstOfPath emitted bs) := by
  induction related generalizing emitted with
  | nil => exact .nil
  | cons own _ ih =>
    rw [firstOfPath, firstOfPath, own.2]
    split
    · exact ih
    · exact .cons own.1 ih

theorem fragment_ok {c : Config} {r : ResolvedModel} {x : Mapping} {t : Table}
    {v : EntityConfiguration} {path : String} (resolved : r.storage.resolveTable? x.table = some t)
    (made : fragment c r x = .ok (v, path)) :
    v.typeName = configurationType (bucketText c t.schema) t.entityName.display ∧
      v.entityType = domainType (bucketText c t.schema) t.entityName.display ∧
      path = configurationPath c (bucketText c t.schema, t.entityName.display) := by
  simp only [fragment, bind_ok, pure_ok, Prod.mk.injEq] at made
  obtain ⟨v', configured, path', placed, rfl, rfl⟩ := made
  rw [mappingConfiguration, resolved] at configured
  simp only [tableConfiguration, bind_ok, pure_ok] at configured
  obtain ⟨bucket, found, _, _, _, _, _, _, rfl⟩ := configured
  simp only [SourceUnit.path, SourceUnit.pathParts, bind_ok, pure_ok, mapM_ok] at placed
  obtain ⟨parts, texts, extension, extended, rfl⟩ := placed
  obtain ⟨first, rest, named, others, rfl⟩ := List.forall₂_cons_left_iff.1 texts
  obtain ⟨folder, className, rfl, inBucket, own⟩ := related_pair others
  cases named
  cases own
  rw [bucketText_of_ok found]
  refine ⟨rfl, rfl, ?_⟩
  rw [configurationPath, display_of_text inBucket, display_of_text extended]

theorem entityPlaces_eq {storage : StorageModel} {conceptual : ConceptualModel}
    {mappings : List Mapping} {links : List Link} {named : ModelPair} {r : ResolvedModel}
    (stages : Stages storage conceptual mappings links named r) (unused : Unused conceptual)
    (c : Config) :
    entityPlaces c r =
      r.usedEntities.map fun e => (bucketText c e.schema, e.fixedName.display) := by
  rw [entityPlaces, ← List.filterMap_eq_map]
  refine List.filterMap_congr fun e inUse => ?_
  obtain ⟨t, last, schema⟩ := stages.schema_of_last unused inUse
  rw [Function.comp_apply, last, schema]
  rfl

structure ConfiguredAt (p : Place) (v : EntityConfiguration) : Prop where
  typeName : v.typeName = configurationAt p
  entityType : v.entityType = domainTypeAt p

/-- The fragments that are written are, in order, those of the mappings' places: what holds between
each and the place of its table does so all along. -/
theorem mappingPlaces_forall {storage : StorageModel} {conceptual : ConceptualModel}
    {mappings : List Mapping} {links : List Link} {named : ModelPair} {r : ResolvedModel}
    (stages : Stages storage conceptual mappings links named r) {c : Config}
    {fragments : List (EntityConfiguration × String)}
    (made : r.mappings.mapM (fragment c r) = .ok fragments)
    {R : Place → EntityConfiguration → Prop}
    (each : ∀ x t v path, r.storage.resolveTable? x.table = some t →
      fragment c r x = .ok (v, path) → R (bucketText c t.schema, t.entityName.display) v) :
    List.Forall₂ R (mappingPlaces c r) (firstOfPath [] fragments) := by
  refine firstOfPath_related (List.forall₂_map_left_iff.2 ?_)
  refine filterMap_related (mapM_ok.1 made) ?_
  rintro x member ⟨v, path⟩ own
  obtain ⟨t, e, resolved, last, named⟩ := stages.entityName_of_last member
  obtain ⟨_, _, placed⟩ := fragment_ok resolved own
  have related := each x t v path resolved own
  rw [named] at placed related
  refine ⟨placeAt c t e, ?_, related, placed.symm⟩
  rw [resolved, Option.bind_some, last, Option.map_some]

theorem mappingPlaces_related {storage : StorageModel} {conceptual : ConceptualModel}
    {mappings : List Mapping} {links : List Link} {named : ModelPair} {r : ResolvedModel}
    (stages : Stages storage conceptual mappings links named r) {c : Config}
    {fragments : List (EntityConfiguration × String)}
    (made : r.mappings.mapM (fragment c r) = .ok fragments) :
    List.Forall₂ ConfiguredAt (mappingPlaces c r) (firstOfPath [] fragments) := by
  refine mappingPlaces_forall stages made fun x t v path resolved own => ?_
  obtain ⟨typeName, entityType, _⟩ := fragment_ok resolved own
  exact ⟨typeName, entityType⟩

namespace Emitted

variable {c : Config} {storage : StorageModel} {conceptual : ConceptualModel}
  {mappings : List Mapping} {links : List Link} {named : ModelPair} {r : ResolvedModel}

theorem registers_eq (emitted : Emitted c r)
    (stages : Stages storage conceptual mappings links named r) (unused : Unused conceptual) :
    (runUnits c r).flatMap (·.registers) =
      (entityPlaces c r ++ complexPlaces c r).map configurationAt := by
  obtain ⟨own, walked, configurations⟩ :=
    registeredConfigurations_ok (contextUnit_ok emitted.contextMade).2.1
  have entities : (entityPlaces c r).map configurationAt = own := by
    rw [entityPlaces_eq stages unused, List.map_map, ← List.map_id own]
    refine map_eq_of_related (mapM_ok.1 walked) fun e type found => ?_
    simp only [entityConfigurationType, bind_ok, pure_ok] at found
    obtain ⟨bucket, placed, rfl⟩ := found
    simp only [Function.comp_apply, bucketText_of_ok placed]
    rfl
  have complexes : (complexPlaces c r).map configurationAt =
      r.returnedComplexTypes.map (complexConfigurationType c) := by
    rw [complexPlaces, List.map_map]
    rfl
  have context : (runUnits c r).flatMap (·.registers) = emitted.context.configurations := by
    rw [emitted.units]
    simp [SourceUnit.registers, List.flatMap_assoc, List.flatMap_map, repositoryUnits,
      flatMap_const_nil]
  rw [context, configurations, List.map_append, entities, complexes]

def configurations (emitted : Emitted c r) : List EntityConfiguration :=
  firstOfPath [] emitted.fragments ++ r.returnedComplexTypes.map (complexConfiguration c)

theorem configurations_related (emitted : Emitted c r)
    (stages : Stages storage conceptual mappings links named r) :
    List.Forall₂ ConfiguredAt (mappingPlaces c r ++ complexPlaces c r) emitted.configurations := by
  refine List.rel_append (mappingPlaces_related stages emitted.fragmentsMade) ?_
  rw [complexPlaces, List.forall₂_map_left_iff, List.forall₂_map_right_iff, List.forall₂_same]
  intro t _
  exact ⟨rfl, rfl⟩

theorem configures_eq (emitted : Emitted c r)
    (stages : Stages storage conceptual mappings links named r) :
    (runUnits c r).flatMap (·.configures) =
      (mappingPlaces c r ++ complexPlaces c r).map configurationAt := by
  have names : (mappingPlaces c r ++ complexPlaces c r).map configurationAt =
      emitted.configurations.map (·.typeName) :=
    map_eq_of_related (emitted.configurations_related stages) fun _ _ own => own.typeName.symm
  rw [names, emitted.units]
  simp [SourceUnit.configures, configurations, List.flatMap_assoc, List.flatMap_map,
    repositoryUnits, flatMap_const_nil, ← List.map_eq_flatMap]

theorem binds_eq (emitted : Emitted c r)
    (stages : Stages storage conceptual mappings links named r) :
    (runUnits c r).flatMap (·.binds) =
      (mappingPlaces c r ++ complexPlaces c r).map domainTypeAt := by
  have types : (mappingPlaces c r ++ complexPlaces c r).map domainTypeAt =
      emitted.configurations.map (·.entityType) :=
    map_eq_of_related (emitted.configurations_related stages) fun _ _ own => own.entityType.symm
  rw [types, emitted.units]
  simp [SourceUnit.binds, configurations, List.flatMap_assoc, List.flatMap_map,
    repositoryUnits, flatMap_const_nil, ← List.map_eq_flatMap]

theorem defines_eq (emitted : Emitted c r)
    (stages : Stages storage conceptual mappings links named r) (unused : Unused conceptual) :
    (runUnits c r).flatMap (·.defines) =
      (entityPlaces c r ++ complexPlaces c r).map domainTypeAt := by
  have entities : (entityPlaces c r).map domainTypeAt = emitted.entities.map (·.typeName) := by
    rw [entityPlaces_eq stages unused, List.map_map]
    refine map_eq_of_related (mapM_ok.1 emitted.entitiesMade) fun e d made => ?_
    obtain ⟨placed, className, _⟩ := entityClass_ok made
    simp only [Function.comp_apply, bucketText_of_ok placed, DomainClass.typeName, className]
    rfl
  have complexes : (complexPlaces c r).map domainTypeAt =
      emitted.complexes.map (·.typeName) := by
    rw [complexPlaces, List.map_map]
    refine map_eq_of_related (mapM_ok.1 emitted.complexesMade) fun t d made => ?_
    obtain ⟨bucket, className, _⟩ := complexClass_ok made
    rw [DomainClass.typeName, bucket, className]
    rfl
  rw [emitted.units, List.map_append, entities, complexes]
  simp [SourceUnit.defines, List.flatMap_assoc, List.flatMap_map, repositoryUnits,
    flatMap_const_nil, ← List.map_eq_flatMap]

end Emitted

theorem covered_iff {f : Place → String} {ps qs rs : List Place} :
    (∀ name ∈ (ps ++ rs).map f, name ∈ (qs ++ rs).map f) ↔
      ∀ p ∈ ps, ∃ q ∈ qs ++ rs, f q = f p := by
  constructor
  · intro covered p member
    exact List.mem_map.1 (covered _ (List.mem_map_of_mem (List.mem_append_left rs member)))
  · intro covered name member
    obtain ⟨p, listed, rfl⟩ := List.mem_map.1 member
    rcases List.mem_append.1 listed with own | shared
    · exact List.mem_map.2 (covered p own)
    · exact List.mem_map_of_mem (List.mem_append_right qs shared)

/-- A run names only classes that it writes exactly when its entities and its mappings come to the
same places. -/
theorem classes_complete_iff {c : Config} {root : Xml.Element} {r : ResolvedModel}
    (all : AllEnabled c) (resolved : (readAndBind c root).outcome = .ok r)
    (completed : (emitModel c r).stopped = none) :
    (runUnits c r).mapM (·.artifact c) = .ok (artifactsOf (emitModel c r)) ∧
      (ClassesComplete (runUnits c r) ↔ PlacesAgree c r) := by
  obtain ⟨emitted⟩ := emitted_of_completed all completed
  obtain ⟨_, _, storage, conceptual, mappings, links, named, _, _, model⟩ :=
    readAndBind_ok resolved
  refine ⟨(emitModel_ok completed).2, ?_⟩
  rw [ClassesComplete, emitted.registers_eq model.stages model.unused,
    emitted.configures_eq model.stages, emitted.binds_eq model.stages,
    emitted.defines_eq model.stages model.unused, covered_iff, covered_iff, PlacesAgree]

section oneToOne

variable {c : Config} {storage : StorageModel} {conceptual : ConceptualModel}
  {mappings : List Mapping} {links : List Link} {named : ModelPair} {r : ResolvedModel}

theorem mem_entityPlaces (stages : Stages storage conceptual mappings links named r)
    (unused : Unused conceptual) (one : OneToOne r) {p : Place} :
    p ∈ entityPlaces c r ↔ ∃ t e, Mapped r t e ∧ placeAt c t e = p := by
  rw [entityPlaces, List.mem_filterMap]
  constructor
  · rintro ⟨e, inUse, found⟩
    obtain ⟨t, last, placed⟩ := Option.map_eq_some_iff.1 found
    exact ⟨t, e, mapped_of_lastTable (mem_usedEntities.1 inUse).1 last, placed⟩
  · rintro ⟨t, e, mapped, placed⟩
    refine ⟨e, stages.used_of_mapped mapped, ?_⟩
    rw [stages.lastTable_of_mapped unused one mapped, Option.map_some, placed]

theorem mem_fragmentPlaces (stages : Stages storage conceptual mappings links named r)
    (one : OneToOne r) {p : Place} :
    p ∈ fragmentPlaces c r ↔ ∃ t e, Mapped r t e ∧ placeAt c t e = p := by
  rw [fragmentPlaces, List.mem_filterMap]
  constructor
  · rintro ⟨x, member, found⟩
    obtain ⟨t, resolved, led⟩ := Option.bind_eq_some_iff.1 found
    obtain ⟨e, last, placed⟩ := Option.map_eq_some_iff.1 led
    obtain ⟨u, mapped, name⟩ := mapped_of_lastEntity last
    have known : r.storage.tables.find? t.name = some t :=
      Catalog.find?_of_mem (mem_of_resolveTable resolved)
    have same := Stages.find_mapped_table mapped
    rw [name, known] at same
    cases same
    exact ⟨t, e, mapped, placed⟩
  · rintro ⟨t, e, ⟨x, member, resolved, entity⟩, placed⟩
    refine ⟨x, member, ?_⟩
    rw [resolved, Option.bind_some,
      stages.lastEntity_of_mapped one ⟨x, member, resolved, entity⟩, Option.map_some, placed]

/-- Where mappings are one to one and no two places share a path, entities and mappings come to the
same places. -/
theorem placesAgree_of_oneToOne {root : Xml.Element}
    (resolved : (readAndBind c root).outcome = .ok r) (one : OneToOne r)
    (separate : ∀ p ∈ fragmentPlaces c r, ∀ q ∈ fragmentPlaces c r,
      configurationPath c p = configurationPath c q → p = q) : PlacesAgree c r := by
  obtain ⟨_, _, _, _, _, _, _, _, _, model⟩ := readAndBind_ok resolved
  have same (p : Place) : p ∈ entityPlaces c r ↔ p ∈ fragmentPlaces c r :=
    (mem_entityPlaces model.stages model.unused one).trans
      (mem_fragmentPlaces model.stages one).symm
  constructor
  · intro p member
    have listed := (same p).1 member
    have made : (p, configurationPath c p) ∈
        (fragmentPlaces c r).map fun p => (p, configurationPath c p) :=
      List.mem_map.2 ⟨p, listed, rfl⟩
    obtain ⟨q, kept, placed⟩ := kept_of_mem made List.not_mem_nil
    obtain ⟨q, inFragments, pair⟩ := List.mem_map.1 placed
    obtain ⟨rfl, path⟩ := Prod.mk.inj pair
    rw [← separate q inFragments p listed path]
    exact ⟨q, List.mem_append_left _ kept, rfl⟩
  · intro q member
    obtain ⟨_, placed⟩ := mem_of_firstOfPath member
    obtain ⟨p, inFragments, pair⟩ := List.mem_map.1 placed
    obtain ⟨rfl, _⟩ := Prod.mk.inj pair
    exact ⟨p, List.mem_append_left _ ((same p).2 inFragments), rfl⟩

end oneToOne

section mapped

def mappedDocument (pairs : List (String × String)) : Xml.Element :=
  document
    ((pairs.map (·.2)).eraseDups.map (fun t =>
      .plain "EntityType" [("Name", t)]
        [.plain "Property" [("Name", "Id"), ("Type", "int")] []]) ++
      [.plain "EntityContainer" []
        ((pairs.map (·.2)).eraseDups.map fun t =>
          .plain "EntitySet" [("Name", t), ("EntityType", t), ("Schema", t)] [])])
    ((pairs.map (·.1)).eraseDups.map fun e =>
      .plain "EntityType" [("Name", e)]
        [.plain "Property" [("Name", "Id"), ("Type", "Int32")] []])
    (pairs.map fun p =>
      .plain "EntitySetMapping" [("TypeName", p.1), ("StoreEntitySet", p.2)] [])

set_option maxRecDepth 100000 in
theorem mapped_completed :
    ∃ r, (readAndBind (.ofSettings .defaults)
        (mappedDocument [("Order", "Orders"), ("Customer", "Customers")])).outcome = .ok r ∧
      (emitModel (.ofSettings .defaults) r).stopped = none ∧
      entityPlaces (.ofSettings .defaults) r =
        [("Customers", "Customer"), ("Orders", "Order")] ∧
      PlacesAgree (.ofSettings .defaults) r :=
  ok_of_any (by decide +kernel)

theorem mapped_classes_complete :
    ∃ r, (readAndBind (.ofSettings .defaults)
        (mappedDocument [("Order", "Orders"), ("Customer", "Customers")])).outcome = .ok r ∧
      (emitModel (.ofSettings .defaults) r).stopped = none ∧
      entityPlaces (.ofSettings .defaults) r =
        [("Customers", "Customer"), ("Orders", "Order")] ∧
      ClassesComplete (runUnits (.ofSettings .defaults) r) := by
  obtain ⟨r, resolved, completed, places, agree⟩ := mapped_completed
  exact ⟨r, resolved, completed, places,
    (classes_complete_iff ⟨rfl, rfl, rfl, rfl⟩ resolved completed).2.2 agree⟩

set_option maxRecDepth 100000 in
/-- Two entities share a table. It remembers the second, and the first has no configuration. -/
theorem shared_table_unwritten :
    AllEnabled (.ofSettings .defaults) ∧
      ∃ r, (readAndBind (.ofSettings .defaults)
          (mappedDocument [("Order", "Orders"), ("Draft", "Orders")])).outcome = .ok r ∧
        (emitModel (.ofSettings .defaults) r).stopped = none ∧
        "Configuration.Orders.OrderConfiguration" ∈
          (runUnits (.ofSettings .defaults) r).flatMap (·.registers) ∧
        "Configuration.Orders.OrderConfiguration" ∉
          (runUnits (.ofSettings .defaults) r).flatMap (·.configures) ∧
        ¬ClassesComplete (runUnits (.ofSettings .defaults) r) :=
  ⟨⟨rfl, rfl, rfl, rfl⟩, ok_of_any (by decide +kernel)⟩

set_option maxRecDepth 100000 in
/-- An entity is split over two tables. Its class is with the second, and the configuration of the
first binds one that is not there. -/
example :
    ∃ r, (readAndBind (.ofSettings .defaults)
        (mappedDocument [("Order", "Orders"), ("Order", "Archive")])).outcome = .ok r ∧
      (emitModel (.ofSettings .defaults) r).stopped = none ∧
      "Domain.Orders.Order" ∈ (runUnits (.ofSettings .defaults) r).flatMap (·.binds) ∧
      "Domain.Orders.Order" ∉ (runUnits (.ofSettings .defaults) r).flatMap (·.defines) :=
  ok_of_any (by decide +kernel)

end mapped

end EntityScaffold.Emission
