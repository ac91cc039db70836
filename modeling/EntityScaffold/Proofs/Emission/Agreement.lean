import EntityScaffold.Proofs.Binding.Targets
import EntityScaffold.Proofs.Emission.Parts
import EntityScaffold.Proofs.Emission.Units
import EntityScaffold.Proofs.Resolution

/-!
Names that several kinds of artifacts share. Domain classes, sets of the context and repositories
are made from the entities in use one by one; a navigation names the class of its target by what it
has learnt in binding; and the rows of function imports are complex types, which are emitted for
exactly those imports.
-/
namespace EntityScaffold.Source

namespace SourceUnit

/-- Domain classes of entities have a base class, those of complex types none. -/
def entityClass? : SourceUnit → Option DomainClass
  | .domainClass d => if d.baseClass.isSome then some d else none
  | _ => none

def context? : SourceUnit → Option ContextClass
  | .contextClass u => some u
  | _ => none

def interface? : SourceUnit → Option Repository
  | .repositoryInterface u => some u
  | _ => none

def repository? : SourceUnit → Option Repository
  | .repository u => some u
  | _ => none

end SourceUnit

end EntityScaffold.Source

namespace EntityScaffold.Emission
open Binding Source

namespace Emitted

variable {c : Config} {r : ResolvedModel} (emitted : Emitted c r)

include emitted

theorem entityClasses : (runUnits c r).filterMap (·.entityClass?) = emitted.entities := by
  have own : emitted.entities.filterMap (SourceUnit.entityClass? ∘ .domainClass) =
      emitted.entities := by
    rw [List.filterMap_congr (g := some), List.filterMap_some]
    intro d member
    obtain ⟨e, _, made⟩ := source_of_mapM emitted.entitiesMade member
    simp [SourceUnit.entityClass?, (entityClass_ok made).2.2.1]
  have others : emitted.complexes.filterMap (SourceUnit.entityClass? ∘ .domainClass) = [] := by
    rw [List.filterMap_eq_nil_iff]
    intro d member
    obtain ⟨t, _, made⟩ := source_of_mapM emitted.complexesMade member
    simp [SourceUnit.entityClass?, (complexClass_ok made).2.2]
  rw [emitted.units]
  simp only [List.filterMap_append, List.filterMap_map, own, others]
  simp [SourceUnit.entityClass?, List.filterMap_flatMap, repositoryUnits, Function.comp_def]

theorem contexts : (runUnits c r).filterMap (·.context?) = [emitted.context] := by
  rw [emitted.units]
  simp [SourceUnit.context?, List.filterMap_flatMap, repositoryUnits]

theorem interfaces : (runUnits c r).filterMap (·.interface?) = emitted.repositories := by
  rw [emitted.units]
  simp [SourceUnit.interface?, List.filterMap_flatMap, repositoryUnits]

theorem implementations : (runUnits c r).filterMap (·.repository?) = emitted.repositories := by
  rw [emitted.units]
  simp [SourceUnit.repository?, List.filterMap_flatMap, repositoryUnits]

end Emitted

/-- The entities in use, in one order and each under its bucket, as the classes, the sets of the one
context and the two units of a repository list them. -/
structure EntitiesListed (c : Config) (r : ResolvedModel) (buckets : List Label) : Prop where
  placed : List.Forall₂ (fun e bucket => c.bucket e.schema = .ok bucket) r.usedEntities buckets
  classes : ((runUnits c r).filterMap (·.entityClass?)).map (fun d => (d.bucket, d.className)) =
    List.zipWith (fun e bucket => (bucket, e.fixedName)) r.usedEntities buckets
  sets : ∃ context, (runUnits c r).filterMap (·.context?) = [context] ∧
    context.sets.map (·.type) =
      List.zipWith (fun e bucket => domainType bucket.display e.fixedName.display) r.usedEntities
        buckets
  interfaces : (runUnits c r).filterMap (·.interface?) =
    List.zipWith (fun e bucket => ⟨bucket, e.fixedName.display,
      domainType bucket.display e.fixedName.display⟩) r.usedEntities buckets
  repositories : (runUnits c r).filterMap (·.repository?) =
    List.zipWith (fun e bucket => ⟨bucket, e.fixedName.display,
      domainType bucket.display e.fixedName.display⟩) r.usedEntities buckets

theorem entities_listed {c : Config} {r : ResolvedModel} (emitted : Emitted c r) :
    EntitiesListed c r (emitted.entities.map (·.bucket)) := by
  have made := mapM_ok.1 emitted.entitiesMade
  have placed : List.Forall₂ (fun e bucket => c.bucket e.schema = .ok bucket) r.usedEntities
      (emitted.entities.map (·.bucket)) :=
    List.forall₂_map_right_iff.2 (made.imp fun _ _ own => (entityClass_ok own).1)
  have repositories : emitted.repositories = List.zipWith (fun e bucket =>
      ⟨bucket, e.fixedName.display, domainType bucket.display e.fixedName.display⟩)
      r.usedEntities (emitted.entities.map (·.bucket)) := by
    rw [← List.map_id emitted.repositories]
    refine map_eq_zipWith_of_related placed (mapM_ok.1 emitted.repositoriesMade) ?_
    intro e bucket u own repository
    obtain ⟨other, found, rfl⟩ := repositoryOf_ok repository
    cases found.symm.trans own
    rfl
  refine ⟨placed, ?_, ⟨emitted.context, emitted.contexts, ?_⟩, ?_, ?_⟩
  · rw [emitted.entityClasses]
    refine map_eq_zipWith_of_related placed made ?_
    intro e bucket d own entity
    obtain ⟨found, className, _⟩ := entityClass_ok entity
    cases found.symm.trans own
    rw [className]
  · refine map_eq_zipWith_of_related placed (mapM_ok.1 (contextUnit_ok emitted.contextMade).1) ?_
    intro e bucket s own member
    obtain ⟨other, found, type⟩ := entitySetMember_ok member
    cases found.symm.trans own
    exact type
  · rw [emitted.interfaces, repositories]
  · rw [emitted.implementations, repositories]

def ArtifactOf (c : Config) (r : ResolvedModel) (e : Entity) (x : Artifact) : Prop :=
  x ∈ artifactsOf (emitModel c r) ∧
    ∃ d, entityClass c e = .ok d ∧ (SourceUnit.domainClass d).artifact c = .ok x

/-- An artifact that has the path of a navigation's target, as the navigation knows it. -/
def HasTargetPath (c : Config) (n : Navigation) (x : Artifact) : Prop :=
  ∃ bucket folder type extension, c.bucket n.targetSchema = .ok bucket ∧
    bucket.text = .ok folder ∧ n.targetTypeName.text = .ok type ∧
    c.fileExtension.text = .ok extension ∧
    x.path = "/".intercalate ["Domain", folder, type] ++ extension

structure TargetsKnown (c : Config) (r : ResolvedModel) (e : Entity) (d : DomainClass) : Prop where
  made : entityClass c e = .ok d
  emitted : .domainClass d ∈ runUnits c r
  sorted : d.usings.Pairwise (· < ·)
  usings : ∀ u, u ∈ d.usings ↔ ∃ n ∈ e.navigations, ∃ bucket,
    c.bucket n.targetSchema = .ok bucket ∧ bucket ≠ d.bucket ∧
      u = domainNamespace c bucket.display
  targets : ∀ n ∈ e.navigations, ∃ target ∈ r.usedEntities, target.name = n.targetName ∧
    ∃ x, ArtifactOf c r target x ∧ HasTargetPath c n x

theorem domainArtifact_ok {c : Config} {d : DomainClass} {x : Artifact}
    (made : (SourceUnit.domainClass d).artifact c = .ok x) :
    ∃ folder type extension, d.bucket.text = .ok folder ∧ d.className.text = .ok type ∧
      c.fileExtension.text = .ok extension ∧
      x.path = "/".intercalate ["Domain", folder, type] ++ extension := by
  simp only [SourceUnit.artifact, SourceUnit.path, SourceUnit.pathParts, bind_ok, pure_ok,
    mapM_ok] at made
  obtain ⟨_, ⟨parts, texts, extension, extended, rfl⟩, rfl⟩ := made
  obtain ⟨first, rest, named, others, rfl⟩ := List.forall₂_cons_left_iff.1 texts
  obtain ⟨folder, type, rfl, bucket, className⟩ := related_pair others
  cases named
  exact ⟨folder, type, extension, bucket, className, extended, rfl⟩

theorem artifact_of_used {c : Config} {r : ResolvedModel} (emitted : Emitted c r)
    (completed : (emitModel c r).stopped = none) {e : Entity} (inUse : e ∈ r.usedEntities) :
    ∃ d x, .domainClass d ∈ runUnits c r ∧ entityClass c e = .ok d ∧
      (SourceUnit.domainClass d).artifact c = .ok x ∧ ArtifactOf c r e x := by
  obtain ⟨d, member, made⟩ := result_of_mapM emitted.entitiesMade inUse
  have listed : SourceUnit.domainClass d ∈ runUnits c r := by
    rw [emitted.units]
    simp [member]
  obtain ⟨x, inArtifacts, written⟩ := result_of_mapM (emitModel_ok completed).2 listed
  exact ⟨d, x, listed, made, written, inArtifacts, d, made, written⟩

theorem targets_known {c : Config} {root : Xml.Element} {r : ResolvedModel}
    (resolved : (readAndBind c root).outcome = .ok r) (emitted : Emitted c r)
    (completed : (emitModel c r).stopped = none) {e : Entity} (inUse : e ∈ r.usedEntities) :
    ∃ d, TargetsKnown c r e d := by
  obtain ⟨_, _, storage, conceptual, mappings, links, named, _, _, model⟩ :=
    readAndBind_ok resolved
  obtain ⟨d, _, listed, made, _, _⟩ := artifact_of_used emitted completed inUse
  obtain ⟨sorted, usings⟩ := usingsOf_ok (entityClass_ok made).2.2.2
  refine ⟨d, made, listed, sorted, usings, fun n member => ?_⟩
  obtain ⟨target, targetUsed, leads, typeName, schema⟩ :=
    model.stages.target_of_navigation model.unused inUse member
  obtain ⟨t, x, _, targetMade, written, artifact⟩ :=
    artifact_of_used emitted completed targetUsed
  obtain ⟨placed, className, _⟩ := entityClass_ok targetMade
  obtain ⟨folder, type, extension, bucketText, classText, extended, path⟩ :=
    domainArtifact_ok written
  refine ⟨target, targetUsed, leads, x, artifact, t.bucket, folder, type, extension, ?_,
    bucketText, ?_, extended, path⟩
  · rw [schema, placed]
  · rw [typeName, ← className, classText]

/-- The rows of a function import have a class, and a configuration without keys that the context
registers. -/
structure RowsEmitted (c : Config) (r : ResolvedModel) (row : String) : Prop where
  domainClass : ∃ d, .domainClass d ∈ runUnits c r ∧ d.typeName = row
  configuration : ∃ v, .entityConfiguration v ∈ runUnits c r ∧ v.entityType = row ∧
    v.binding = none ∧ v.keyLine = "builder.HasNoKey();" ∧
    ∃ context, (runUnits c r).filterMap (·.context?) = [context] ∧
      v.typeName ∈ context.configurations

theorem rows_emitted {c : Config} {r : ResolvedModel} (emitted : Emitted c r)
    {f : FunctionImport} (member : f ∈ r.conceptual.functions.entries)
    (given : isGiven f.returnComplexType = true) :
    ∃ row, (rowType c r f).outcome = .ok row ∧ RowsEmitted c r row := by
  obtain ⟨_, registered, methods⟩ := contextUnit_ok emitted.contextMade
  obtain ⟨own, _, configurations⟩ := registeredConfigurations_ok registered
  obtain ⟨method, importMade⟩ := methods f member
  have rows : f.returnsRows = true := by simp [FunctionImport.returnsRows, given]
  obtain ⟨row, found⟩ := rowType_of_method rows importMade
  obtain ⟨t, returned, type⟩ := rowType_ok member given found
  obtain ⟨d, inClasses, classMade⟩ := result_of_mapM emitted.complexesMade returned
  obtain ⟨bucket, className, _⟩ := complexClass_ok classMade
  refine ⟨row, found, ⟨d, ?_, ?_⟩, ⟨complexConfiguration c t, ?_, type.symm, rfl, rfl,
    emitted.context, emitted.contexts, ?_⟩⟩
  · rw [emitted.units]
    simp [inClasses]
  · rw [DomainClass.typeName, bucket, className, type]
  · rw [emitted.units]
    simp only [List.mem_append, List.mem_map]
    exact .inl (.inl (.inr (.inr ⟨t, returned, rfl⟩)))
  · rw [configurations]
    exact List.mem_append_right _ (List.mem_map.2 ⟨t, returned, rfl⟩)

/-- Whatever refers to a class by its name finds it: every kind of artifact names the entities in
use in the same way, navigations name their targets' classes, and functions their rows'. -/
theorem shared_names_agree {c : Config} {root : Xml.Element} {r : ResolvedModel}
    (all : AllEnabled c) (resolved : (readAndBind c root).outcome = .ok r)
    (completed : (emitModel c r).stopped = none) :
    (runUnits c r).mapM (·.artifact c) = .ok (artifactsOf (emitModel c r)) ∧
      (∃ buckets, EntitiesListed c r buckets) ∧
      (∀ e ∈ r.usedEntities, ∃ d, TargetsKnown c r e d) ∧
      ∀ f ∈ r.conceptual.functions.entries, isGiven f.returnComplexType = true →
        ∃ row, (rowType c r f).outcome = .ok row ∧ RowsEmitted c r row := by
  obtain ⟨emitted⟩ := emitted_of_completed all completed
  exact ⟨(emitModel_ok completed).2, ⟨_, entities_listed emitted⟩,
    fun e inUse => targets_known resolved emitted completed inUse,
    fun f member given => rows_emitted emitted member given⟩

section shop

def shopDocument : Xml.Element :=
  document
    [.plain "EntityType" [("Name", "Orders")]
      [.plain "Property" [("Name", "Id"), ("Type", "int")] [],
       .plain "Property" [("Name", "CustomerId"), ("Type", "int")] []],
     .plain "EntityType" [("Name", "Customers")]
      [.plain "Property" [("Name", "Id"), ("Type", "int")] []],
     .plain "EntityContainer" []
      [.plain "EntitySet" [("Name", "Orders"), ("EntityType", "Orders")] [],
       .plain "EntitySet"
        [("Name", "Customers"), ("EntityType", "Customers"), ("Schema", "crm")] []]]
    [.plain "EntityType" [("Name", "Order")]
      [.plain "Property" [("Name", "Id"), ("Type", "Int32")] []],
     .plain "EntityType" [("Name", "Customer")]
      [.plain "Property" [("Name", "Id"), ("Type", "Int32")] []],
     .plain "ComplexType" [("Name", "Total")]
      [.plain "Property" [("Name", "Value"), ("Type", "Int32")] []],
     .plain "Association" [("Name", "Buys")]
      [.plain "End" [("Type", "Order"), ("Multiplicity", "*")] [],
       .plain "End" [("Type", "Customer"), ("Multiplicity", "1")] []],
     .plain "EntityContainer" []
      [.plain "FunctionImport" [("Name", "Totals"), ("ReturnType", "Collection(Total)")] []]]
    [.plain "EntitySetMapping" [("TypeName", "Order"), ("StoreEntitySet", "Orders")] [],
     .plain "EntitySetMapping" [("TypeName", "Customer"), ("StoreEntitySet", "Customers")] []]

set_option maxRecDepth 100000 in
theorem shop_completed :
    ∃ r, (readAndBind (.ofSettings .defaults) shopDocument).outcome = .ok r ∧
      (emitModel (.ofSettings .defaults) r).stopped = none ∧
      r.usedEntities.map (·.name) = ["Customer", "Order"] :=
  ok_of_any (by decide +kernel)

theorem shop_names_agree :
    ∃ r, (readAndBind (.ofSettings .defaults) shopDocument).outcome = .ok r ∧
      (emitModel (.ofSettings .defaults) r).stopped = none ∧
      r.usedEntities.map (·.name) = ["Customer", "Order"] ∧
      (runUnits (.ofSettings .defaults) r).mapM (·.artifact (.ofSettings .defaults)) =
        .ok (artifactsOf (emitModel (.ofSettings .defaults) r)) ∧
      (∃ buckets, EntitiesListed (.ofSettings .defaults) r buckets) ∧
      (∀ e ∈ r.usedEntities, ∃ d, TargetsKnown (.ofSettings .defaults) r e d) ∧
      ∀ f ∈ r.conceptual.functions.entries, isGiven f.returnComplexType = true →
        ∃ row, (rowType (.ofSettings .defaults) r f).outcome = .ok row ∧
          RowsEmitted (.ofSettings .defaults) r row := by
  obtain ⟨r, resolved, completed, names⟩ := shop_completed
  exact ⟨r, resolved, completed, names, shared_names_agree ⟨rfl, rfl, rfl, rfl⟩ resolved completed⟩

end shop

end EntityScaffold.Emission
