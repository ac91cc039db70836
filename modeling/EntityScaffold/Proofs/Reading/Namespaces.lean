import EntityScaffold.Proofs.Outcomes
import EntityScaffold.Proofs.Xml.Namespaces
import EntityScaffold.Reading.Conceptual
import EntityScaffold.Reading.Mapping

/-!
Readers and namespaces. Each reader asks for local names and for plain attributes only, so what it
reads from a node is what it reads from the bare node, and two documents that are bare alike are
read alike.
-/
namespace EntityScaffold.Reading
open Xml Xml.Element

section steps

variable {α β γ : Type}

theorem liftM_map_steps (f : α → β) (x : Except Fault α) :
    (liftM (f <$> x) : Noted β) = f <$> (liftM x : Noted α) := by
  cases x <;> rfl

theorem mapM_map_steps (f : α → Except Fault β) (g : β → γ) (as : List α) :
    (as.mapM fun a => g <$> f a) = List.map g <$> as.mapM f := by
  induction as with
  | nil => rfl
  | cons a rest ih =>
    rw [List.mapM_cons, List.mapM_cons, ih]
    cases f a with
    | error e => rfl
    | ok b => cases rest.mapM f <;> rfl

end steps

variable (node : Element)

theorem keyNames_bare : keyNames node.bare = keyNames node := by
  have names : ∀ refs : List (List Element), (refs.map (List.map bare)).flatten.mapM
      (·.attributeD "Name") = refs.flatten.mapM (·.attributeD "Name") := by
    intro refs
    rw [← List.map_flatten, List.mapM_map]
    congr 1
    funext e
    exact attributeD_bare e (by decide)
  simp only [keyNames, childrenNamed_bare, bind_map_left, List.mapM_map, Function.comp_def,
    mapM_map_steps, names]

theorem readColumn_bare (keys : List String) : readColumn keys node.bare = readColumn keys node := by
  simp (disch := decide) only [readColumn, attributeD_bare, attribute?_bare, integer?_bare]

theorem readTable_bare (rules : StorageRules) : readTable rules node.bare = readTable rules node := by
  simp (disch := decide) only [readTable, attributeD_bare, keyNames_bare, childrenNamed_bare,
    bind_map_left, List.mapM_map, Function.comp_def, readColumn_bare]

theorem readDirection_bare (owner : String) :
    readDirection owner node.bare = readDirection owner node := by
  simp (disch := decide) only [readDirection, attribute?_bare]

theorem readStoredParameter_bare (owner : String) :
    readStoredParameter owner node.bare = readStoredParameter owner node := by
  simp (disch := decide) only [readStoredParameter, attributeD_bare, attribute?_bare,
    readDirection_bare]

theorem schemaOf_bare (rules : StorageRules) : schemaOf rules node.bare = schemaOf rules node := by
  simp (disch := decide) only [schemaOf, attribute?_bare]

theorem readReturn_bare : readReturn node.bare = readReturn node := by
  simp only [readReturn, first?_bare, bind_map_left]
  refine bind_congr fun collection => bind_congr fun row => ?_
  cases row with
  | none => rw [Option.map_none, Option.isSome_map]
  | some row =>
    simp only [Option.map_some, Option.isSome_map, childrenNamed_bare, bind_map_left,
      List.mapM_map, Function.comp_def, readColumn_bare]

theorem readStoredFunction_bare (rules : StorageRules) :
    readStoredFunction rules node.bare = readStoredFunction rules node := by
  simp (disch := decide) only [readStoredFunction, attributeD_bare, attribute?_bare, schemaOf_bare,
    childrenNamed_bare, liftM_map_steps, bind_map_left, List.mapM_map, Function.comp_def,
    readStoredParameter_bare]
  refine bind_congr fun name => bind_congr fun type => bind_congr fun fixedName => bind_congr
    fun schema => bind_congr fun composable => bind_congr fun nodes => bind_congr fun parameters =>
      bind_congr fun results => ?_
  cases results with
  | nil => rfl
  | cons result _ => simp only [List.map_cons, readReturn_bare]

theorem readEntitySet_bare (rules : StorageRules) (m : StorageModel) :
    readEntitySet rules m node.bare = readEntitySet rules m node := by
  simp (disch := decide) only [readEntitySet, attributeD_bare, schemaOf_bare]

theorem readContainer_bare (rules : StorageRules) (m : StorageModel) :
    readContainer rules node.bare m = readContainer rules node m := by
  simp only [readContainer, first?_bare, liftM_map_steps, bind_map_left]
  refine bind_congr fun container => ?_
  cases container with
  | none => rfl
  | some container =>
    simp only [Option.map_some, childrenNamed_bare, liftM_map_steps, bind_map_left,
      List.foldlM_map, readEntitySet_bare]

theorem readEnd_bare (m : StorageModel) (name : String) :
    readEnd m name node.bare = readEnd m name node := by
  simp (disch := decide) only [readEnd, attributeD_bare, attribute?_bare]

theorem readConstraintEnd_bare (name : String) (which : ConstraintEnd) :
    readConstraintEnd name node.bare which = readConstraintEnd name node which := by
  simp only [readConstraintEnd, childrenNamed_bare, bind_map_left]
  refine bind_congr fun nodes => ?_
  match nodes with
  | [] | _ :: _ :: _ => rfl
  | [only] =>
    simp (disch := decide) only [List.map_cons, List.map_nil, childrenNamed_bare, bind_map_left,
      List.mapM_map, Function.comp_def, attributeD_bare]

theorem readAssociation_bare (m : StorageModel) :
    readAssociation m node.bare = readAssociation m node := by
  simp (disch := decide) only [readAssociation, attributeD_bare, childrenNamed_bare, bind_map_left]
  refine bind_congr fun name => bind_congr fun nodes => ?_
  match nodes with
  | [] | [_] | _ :: _ :: _ :: _ => simp only [List.map_cons, List.map_nil, List.length_cons,
      List.length_map]
  | [first, second] =>
    simp only [List.map_cons, List.map_nil, readEnd_bare]
    refine bind_congr fun first => bind_congr fun second => ?_
    split
    · rfl
    · refine bind_congr fun constraints => ?_
      match constraints with
      | [] | _ :: _ :: _ => rfl
      | [only] => simp only [List.map_cons, List.map_nil, readConstraintEnd_bare]

theorem readAssociations_bare (m : StorageModel) :
    readAssociations m node.bare = readAssociations m node := by
  simp only [readAssociations, childrenNamed_bare, bind_map_left, List.mapM_map, Function.comp_def,
    readAssociation_bare]

theorem readTables_bare (rules : StorageRules) :
    readTables rules node.bare = readTables rules node := by
  simp only [readTables, childrenNamed_bare, bind_map_left, List.mapM_map, Function.comp_def,
    readTable_bare]

theorem readStorageSchema_bare (rules : StorageRules) :
    readStorageSchema rules node.bare = readStorageSchema rules node := by
  simp only [readStorageSchema, readTables_bare, childrenNamed_bare, liftM_map_steps,
    bind_map_left, List.mapM_map, Function.comp_def, readStoredFunction_bare, readContainer_bare,
    readAssociations_bare]

theorem schemaIn?_bare (name : String) :
    schemaIn? node.bare name = Option.map bare <$> schemaIn? node name := by
  simp only [schemaIn?, first?_bare, bind_map_left, map_bind]
  refine bind_congr fun models => ?_
  cases models with
  | none => rfl
  | some models => exact first?_bare models "Schema"

theorem readStorage_bare (rules : StorageRules) :
    readStorage rules node.bare = readStorage rules node := by
  simp only [readStorage, schemaIn?_bare, liftM_map_steps, bind_map_left]
  refine bind_congr fun schema => ?_
  cases schema with
  | none => rfl
  | some schema => exact readStorageSchema_bare schema rules

section conceptual

theorem readProperty_bare (keys : List String) :
    readProperty keys node.bare = readProperty keys node := by
  simp (disch := decide) only [readProperty, attributeD_bare, attribute?_bare, integer?_bare]

theorem readEntity_bare (naming : Naming.NamingRules) :
    readEntity naming node.bare = readEntity naming node := by
  simp (disch := decide) only [readEntity, attributeD_bare, keyNames_bare, childrenNamed_bare,
    liftM_map_steps, bind_map_left, List.mapM_map, Function.comp_def, readProperty_bare]

theorem readComplexType_bare (naming : Naming.NamingRules) :
    readComplexType naming node.bare = readComplexType naming node := by
  simp (disch := decide) only [readComplexType, attributeD_bare, childrenNamed_bare,
    liftM_map_steps, bind_map_left, List.mapM_map, Function.comp_def, readProperty_bare]

theorem readParameter_bare (owner : String) :
    readParameter owner node.bare = readParameter owner node := by
  simp (disch := decide) only [readParameter, readDirection_bare, attributeD_bare, attribute?_bare]

theorem declaredReturn_bare : declaredReturn node.bare = declaredReturn node := by
  simp (disch := decide) only [declaredReturn, attribute?_bare, childrenNamed_bare, bind_map_left]
  refine bind_congr fun declared => ?_
  cases declared with
  | some type => rfl
  | none =>
    refine bind_congr fun results => ?_
    cases results with
    | nil => rfl
    | cons result _ => exact attribute?_bare result (by decide)

theorem readFunctionImport_bare (naming : Naming.NamingRules) (m : ConceptualModel) :
    readFunctionImport naming m node.bare = readFunctionImport naming m node := by
  simp (disch := decide) only [readFunctionImport, attributeD_bare, attribute?_bare,
    declaredReturn_bare, childrenNamed_bare, liftM_map_steps, bind_map_left, List.mapM_map,
    Function.comp_def, readParameter_bare]

theorem readEntityEnd_bare (m : ConceptualModel) (name : String) :
    readEntityEnd m name node.bare = readEntityEnd m name node := by
  simp (disch := decide) only [readEntityEnd, attributeD_bare, attribute?_bare]

theorem readEntityAssociation_bare (m : ConceptualModel) :
    readEntityAssociation m node.bare = readEntityAssociation m node := by
  simp (disch := decide) only [readEntityAssociation, attributeD_bare, childrenNamed_bare,
    bind_map_left]
  refine bind_congr fun name => bind_congr fun nodes => ?_
  match nodes with
  | [] | [_] | _ :: _ :: _ :: _ => simp only [List.map_cons, List.map_nil, List.length_cons,
      List.length_map]
  | [first, second] => simp only [List.map_cons, List.map_nil, readEntityEnd_bare]

theorem readEntityAssociations_bare (m : ConceptualModel) :
    readEntityAssociations m node.bare = readEntityAssociations m node := by
  simp only [readEntityAssociations, childrenNamed_bare, bind_map_left, List.mapM_map,
    Function.comp_def, readEntityAssociation_bare]

theorem importNodes_bare : importNodes node.bare = List.map bare <$> importNodes node := by
  simp only [importNodes, first?_bare, bind_map_left, map_bind]
  refine bind_congr fun container => ?_
  cases container with
  | none => rfl
  | some container => exact childrenNamed_bare container "FunctionImport"

theorem readConceptualSchema_bare (naming : Naming.NamingRules) :
    readConceptualSchema naming node.bare = readConceptualSchema naming node := by
  simp only [readConceptualSchema, childrenNamed_bare, importNodes_bare, liftM_map_steps,
    bind_map_left, List.mapM_map, Function.comp_def, readEntity_bare, readComplexType_bare,
    readFunctionImport_bare, readEntityAssociations_bare]

theorem readConceptual_bare (naming : Naming.NamingRules) :
    readConceptual naming node.bare = readConceptual naming node := by
  simp only [readConceptual, schemaIn?_bare, liftM_map_steps, bind_map_left]
  refine bind_congr fun schema => ?_
  cases schema with
  | none => rfl
  | some schema => exact readConceptualSchema_bare schema naming

end conceptual

section mappings

theorem firstWithin_bare (name : String) (node : Option Element) :
    firstWithin name (node.map bare) = Option.map bare <$> firstWithin name node := by
  cases node with
  | none => rfl
  | some node => exact first?_bare node name

theorem container_bare : container node.bare = bare <$> container node := by
  simp only [container, first?_bare, firstWithin_bare, bind_map_left, map_bind]
  refine bind_congr fun mappings => bind_congr fun mapping => bind_congr fun found => ?_
  cases found with
  | none => rfl
  | some found => rfl

theorem readCorrespondence_bare : readCorrespondence node.bare = readCorrespondence node := by
  simp (disch := decide) only [readCorrespondence, attributeD_bare]

theorem readFragment_bare (entity : String) :
    readFragment entity node.bare = readFragment entity node := by
  simp (disch := decide) only [readFragment, attributeD_bare, descendants_bare, bind_map_left,
    List.mapM_map, Function.comp_def, readCorrespondence_bare]

theorem readTypeMapping_bare : readTypeMapping node.bare = readTypeMapping node := by
  simp (disch := decide) only [readTypeMapping, attributeD_bare, descendants_bare, bind_map_left,
    List.mapM_map, Function.comp_def, readFragment_bare]

theorem readSetMapping_bare : readSetMapping node.bare = readSetMapping node := by
  simp only [readSetMapping, descendants_bare, bind_map_left]
  refine bind_congr fun types => ?_
  cases types with
  | nil => simp (disch := decide) only [List.map_nil, attributeD_bare, readFragment_bare]
  | cons first rest =>
    show (((first :: rest).map bare).mapM readTypeMapping >>= fun read => pure read.flatten) = _
    simp only [List.mapM_map, Function.comp_def, readTypeMapping_bare]

theorem readMappings_bare : readMappings node.bare = readMappings node := by
  simp only [readMappings, container_bare, descendants_bare, bind_map_left, List.mapM_map,
    Function.comp_def, readSetMapping_bare]

theorem readFunctionMapping_bare : readFunctionMapping node.bare = readFunctionMapping node := by
  simp (disch := decide) only [readFunctionMapping, attributeD_bare]

theorem readFunctionMappings_bare : readFunctionMappings node.bare = readFunctionMappings node := by
  simp only [readFunctionMappings, container_bare, descendants_bare, bind_map_left, List.mapM_map,
    Function.comp_def, readFunctionMapping_bare]

end mappings

/-- Documents that differ in their namespaces alone are read alike, or refused for the same fault. -/
theorem read_respaced {root other : Element} (same : Respaced root other) :
    (∀ rules, readStorage rules root = readStorage rules other) ∧
      (∀ naming, readConceptual naming root = readConceptual naming other) ∧
      readMappings root = readMappings other ∧
      readFunctionMappings root = readFunctionMappings other := by
  have bared := respaced_iff_bare.1 same
  refine ⟨fun rules => ?_, fun naming => ?_, ?_, ?_⟩
  · rw [← readStorage_bare root, bared, readStorage_bare]
  · rw [← readConceptual_bare root, bared, readConceptual_bare]
  · rw [← readMappings_bare root, bared, readMappings_bare]
  · rw [← readFunctionMappings_bare root, bared, readFunctionMappings_bare]

section racks

def rackDocument (space : Option String) (attributeSpace : String) : Element :=
  .mk space "Edmx" []
    [.mk space "StorageModels" []
      [.mk space "Schema" []
        [.mk space "EntityType" [⟨none, "Name", "Racks"⟩]
          [.mk space "Property" [⟨none, "Name", "Id"⟩, ⟨none, "Type", "int"⟩] []],
         .mk space "EntityContainer" []
          [.mk space "EntitySet" [⟨none, "Name", "RackSet"⟩, ⟨none, "EntityType", "Model.Racks"⟩,
            ⟨some attributeSpace, "Type", "Views"⟩, ⟨some attributeSpace, "Schema", "stock"⟩]
            []]]],
     .mk space "ConceptualModels" []
      [.mk space "Schema" []
        [.mk space "EntityType" [⟨none, "Name", "Rack"⟩]
          [.mk space "Property" [⟨none, "Name", "Id"⟩, ⟨none, "Type", "Int32"⟩] []]]],
     .mk space "Mappings" []
      [.mk space "Mapping" []
        [.mk space "EntityContainerMapping" []
          [.mk space "EntitySetMapping"
            [⟨none, "TypeName", "Model.Rack"⟩, ⟨none, "StoreEntitySet", "RackSet"⟩]
            [.mk space "ScalarProperty" [⟨none, "Name", "Id"⟩, ⟨none, "ColumnName", "Id"⟩]
              []]]]]]

def rackRules : StorageRules := ⟨.ofTexts [] [] [], .str "dbo"⟩

def RacksRead (m : StorageModel) : Prop :=
  (m.tables.entries.map fun t => (t.name, t.schema, t.isView)) = [("Racks", .str "stock", true)] ∧
    m.entitySets.entries = [⟨"RackSet", "Racks"⟩]

instance : DecidablePred RacksRead := fun _ => inferInstanceAs (Decidable (_ ∧ _))

theorem racks_read : ∃ m, (readStorage rackRules
    (rackDocument (some "urn:edmx") "urn:store")).outcome = .ok m ∧ RacksRead m :=
  ok_of_any (by decide +kernel)

theorem rackDocument_bare {space : Option String} {attributeSpace : String} (uri : IsUri space)
    (attributeUri : IsUri (some attributeSpace)) :
    (rackDocument space attributeSpace).bare = (rackDocument none "").bare := by
  simp only [rackDocument, bare, bareForest, bareSpace_of_uri uri, List.map_cons, List.map_nil,
    bareAttribute_of_uri attributeUri]

theorem racks_respaced :
    Respaced (rackDocument (some "urn:edmx") "urn:store") (rackDocument none "urn:other") ∧
      (∃ m, (readStorage rackRules (rackDocument none "urn:other")).outcome = .ok m ∧
        RacksRead m) ∧
      readMappings (rackDocument none "urn:other") = .ok [⟨"RackSet", "Rack", [⟨"Id", "Id"⟩]⟩] := by
  have same : Respaced (rackDocument (some "urn:edmx") "urn:store")
      (rackDocument none "urn:other") :=
    respaced_iff_bare.2 ((rackDocument_bare (by decide) (by decide)).trans
      (rackDocument_bare (by decide) (by decide)).symm)
  obtain ⟨storage, _, mappings, _⟩ := read_respaced same
  refine ⟨same, ?_, ?_⟩
  · rw [← storage rackRules]
    exact racks_read
  · rw [← mappings]
    rfl

end racks

end EntityScaffold.Reading
