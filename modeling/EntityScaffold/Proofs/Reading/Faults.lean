import EntityScaffold.Proofs.Naming.Texts
import EntityScaffold.Proofs.Xml.LocalNames
import EntityScaffold.Reading.Conceptual
import EntityScaffold.Reading.Mapping

/-!
How reading fails. Every reader asks the nodes of its document, converts names and complains of what
does not fit; so it fails with a fault that is reported, with an acronym that is refused, or with a
name that has no local part, and with nothing else.
-/
namespace EntityScaffold.Reading
open Naming Xml Xml.Element

/-- Whatever may stop a reader of the document under these rules is admitted. -/
structure Admits (P : Fault → Prop) (naming : NamingRules) (root : Element) : Prop where
  reported : ∀ f, f.isReported = true → P f
  acronyms : ∀ f, RefusedAcronym naming f → P f
  misnamed : ∀ name, Misnamed root name → P (.brokenName name)

variable {P : Fault → Prop} {naming : NamingRules} {root : Element}

theorem multiplicityOf_fails {association : String}
    (flawed : ∀ flaw, P (.association association flaw)) (token : Option String) :
    FailsWith P (multiplicityOf association token) := by
  unfold multiplicityOf
  split
  · exact failsWith_ok _
  · exact failsWith_error.2 (flawed _)

section nodes

variable (admits : Admits P naming root) {node : Element} (inside : node ∈ root.nested)
include admits inside

theorem attribute_read {name : String} (askable : IsAskable name) :
    FailsWith P (node.attribute? name) :=
  attribute_fails admits.misnamed inside askable

theorem attributeD_read {name : String} (askable : IsAskable name) :
    FailsWith P (node.attributeD name) :=
  attributeD_fails admits.misnamed inside askable

theorem integer_read {name : String} (askable : IsAskable name) :
    FailsWith P (node.integer? name) :=
  integer_fails admits.misnamed inside askable

theorem children_read {α β : Type} {name : String} {read : Element → Except Fault α}
    {next : List α → Except Fault β} (each : ∀ x ∈ root.nested, FailsWith P (read x))
    (rest : ∀ found, FailsWith P (next found)) :
    FailsWith P (node.childrenNamed name >>= fun nodes => nodes.mapM read >>= next) :=
  childrenNamed_fails admits.misnamed inside fun _ within =>
    .bind (.mapM fun x member => each x (within x member)) fun found _ => rest found

theorem keyNames_fails : FailsWith P (keyNames node) := by
  unfold keyNames
  refine childrenNamed_fails admits.misnamed inside fun keys within => ?_
  have refs : ∀ key ∈ keys, ∀ found, key.childrenNamed "PropertyRef" = .ok found →
      ∀ x ∈ found, x ∈ root.nested := by
    intro key member found answered x listed
    exact nested_within root key (within key member) x
      (child_nested (mem_of_namedIn answered x listed))
  refine .bind (.mapM fun key member => ?_) fun found answered => .mapM fun x member => ?_
  · refine namedIn_fails admits.misnamed fun x listed => ?_
    exact nested_within root key (within key member) x (child_nested listed)
  · obtain ⟨part, inFound, listed⟩ := List.mem_flatten.1 member
    obtain ⟨key, inKeys, own⟩ := source_of_mapM answered inFound
    exact attributeD_read admits (refs key inKeys part own x listed) (by decide)

theorem readColumn_fails (keys : List String) : FailsWith P (readColumn keys node) := by
  unfold readColumn
  refine .bind (attributeD_read admits inside (by decide)) fun _ _ => ?_
  refine .bind (attributeD_read admits inside (by decide)) fun _ _ => ?_
  refine .bind (attribute_read admits inside (by decide)) fun _ _ => ?_
  refine .bind (attribute_read admits inside (by decide)) fun _ _ => ?_
  refine .bind (integer_read admits inside (by decide)) fun _ _ => ?_
  refine .bind (integer_read admits inside (by decide)) fun _ _ => ?_
  refine .bind (integer_read admits inside (by decide)) fun _ _ => ?_
  exact .bind (attribute_read admits inside (by decide)) fun _ _ => failsWith_ok _

theorem readDirection_fails (owner : String) : FailsWith P (readDirection owner node).outcome := by
  simp only [readDirection, Noted.outcome_bind, Noted.outcome_liftM]
  refine .bind (attribute_read admits inside (by decide)) fun mode _ => ?_
  split
  · exact failsWith_ok _
  · exact failsWith_ok _

theorem readStoredParameter_fails (owner : String) :
    FailsWith P (readStoredParameter owner node).outcome := by
  simp only [readStoredParameter, Noted.outcome_bind, Noted.outcome_liftM]
  refine .bind (attributeD_read admits inside (by decide)) fun _ _ => ?_
  refine .bind (attribute_read admits inside (by decide)) fun _ _ => ?_
  exact .bind (readDirection_fails admits inside owner) fun _ _ => failsWith_ok _

theorem schemaOf_fails (rules : StorageRules) : FailsWith P (schemaOf rules node) := by
  refine .bind (attribute_read admits inside (by decide)) fun declared _ => ?_
  split
  · exact failsWith_ok _
  · exact failsWith_ok _
  · exact failsWith_ok _

theorem readReturn_fails : FailsWith P (readReturn node) := by
  have within := nested_within root node inside
  refine .bind (firstNamed_fails admits.misnamed within) fun collection _ => ?_
  refine first_fails admits.misnamed within (failsWith_ok _) fun row inRow => ?_
  exact children_read admits inRow (fun x inColumn => readColumn_fails admits inColumn [])
    fun _ => failsWith_ok _

theorem readTable_fails (rules : StorageRules) : FailsWith P (readTable rules node) := by
  refine .bind (attributeD_read admits inside (by decide)) fun _ _ => ?_
  refine .bind (keyNames_fails admits inside) fun keys _ => ?_
  exact children_read admits inside (fun x inColumn => readColumn_fails admits inColumn keys)
    fun _ => failsWith_ok _

theorem readEntitySet_fails (rules : StorageRules) (m : StorageModel) :
    FailsWith P (readEntitySet rules m node).outcome := by
  simp only [readEntitySet, Noted.outcome_bind, Noted.outcome_liftM]
  refine .bind (attributeD_read admits inside (by decide)) fun set _ => ?_
  refine .bind (attributeD_read admits inside (by decide)) fun type _ => ?_
  split
  · exact failsWith_ok _
  · simp only [Noted.outcome_bind, Noted.outcome_liftM]
    refine .bind (schemaOf_fails admits inside rules) fun _ _ => ?_
    exact .bind (attributeD_read admits inside (by decide)) fun _ _ => failsWith_ok _

theorem readContainer_fails (rules : StorageRules) (m : StorageModel) :
    FailsWith P (readContainer rules node m).outcome := by
  simp only [readContainer, Noted.outcome_bind, Noted.outcome_liftM]
  refine first_fails admits.misnamed (nested_within root node inside) (failsWith_ok _)
    fun container inContainer => ?_
  simp only [Noted.outcome_bind, Noted.outcome_liftM, Noted.outcome_foldlM]
  refine childrenNamed_fails admits.misnamed inContainer fun sets within => ?_
  exact .foldlM (fun set member m => readEntitySet_fails admits (within set member) rules m) m

end nodes

section associations

variable (misnamed : ∀ name, Misnamed root name → P (.brokenName name)) {node : Element}
  (inside : node ∈ root.nested)
include misnamed inside

theorem readEnd_fails {name : String} (flawed : ∀ flaw, P (.association name flaw))
    (m : StorageModel) : FailsWith P (readEnd m name node) := by
  refine .bind (attributeD_fails misnamed inside (by decide)) fun type _ => ?_
  dsimp only
  split
  · exact failsWith_error.2 (flawed _)
  · refine .bind (attribute_fails misnamed inside (by decide)) fun token _ => ?_
    refine .bind (multiplicityOf_fails flawed token) fun _ _ => ?_
    exact .bind (attributeD_fails misnamed inside (by decide)) fun _ _ => failsWith_ok _

theorem readConstraintEnd_fails {name : String} (flawed : ∀ flaw, P (.association name flaw))
    (which : ConstraintEnd) : FailsWith P (readConstraintEnd name node which) := by
  refine childrenNamed_fails misnamed inside fun ends within => ?_
  split
  · rename_i only
    have inEnd := within only (by simp)
    refine childrenNamed_fails misnamed inEnd fun columns within => ?_
    refine .bind (.mapM fun x member => ?_) fun _ _ => ?_
    · exact attributeD_fails misnamed (within x member) (by decide)
    · exact .bind (attributeD_fails misnamed inEnd (by decide)) fun _ _ => failsWith_ok _
  · exact failsWith_error.2 (flawed _)

theorem readAssociation_fails
    (flawed : ∀ name flaw, node.attributeD "Name" = .ok name → P (.association name flaw))
    (m : StorageModel) : FailsWith P (readAssociation m node) := by
  refine .bind (attributeD_fails misnamed inside (by decide)) fun name named => ?_
  have flawed : ∀ flaw, P (.association name flaw) := fun flaw => flawed name flaw named
  refine childrenNamed_fails misnamed inside fun ends within => ?_
  dsimp only
  split
  · rename_i firstNode secondNode
    refine .bind (readEnd_fails misnamed (within firstNode (by simp)) flawed m) fun first _ => ?_
    refine .bind (readEnd_fails misnamed (within secondNode (by simp)) flawed m) fun second _ => ?_
    split
    · exact failsWith_error.2 (flawed _)
    · refine childrenNamed_fails misnamed inside fun constraints within => ?_
      split
      · rename_i constraint
        have inConstraint := within constraint (by simp)
        refine .bind (readConstraintEnd_fails misnamed inConstraint flawed _) fun principal _ => ?_
        refine .bind (readConstraintEnd_fails misnamed inConstraint flawed _) fun dependent _ => ?_
        split
        · split
          · exact failsWith_error.2 (flawed _)
          · exact failsWith_ok _
        · exact failsWith_error.2 (flawed _)
      · exact failsWith_error.2 (flawed _)
  · exact failsWith_error.2 (flawed _)

end associations

theorem tryMap_fails {α : Type} [Keyed α] {c : Catalog α} {f : α → Except Fault α}
    {keeps : ∀ a b, f a = .ok b → Keyed.key b = Keyed.key a} (each : ∀ a, FailsWith P (f a)) :
    FailsWith P (c.tryMap f keeps) := by
  unfold Catalog.tryMap
  split
  · rename_i e failed
    exact failsWith_error.2 (FailsWith.mapM (fun a _ => each a) e failed)
  · exact failsWith_ok _

section storage

variable {rules : StorageRules} (admits : Admits P rules.naming root) (texts : rules.naming.Texts)
include admits texts

theorem readStoredFunction_fails {node : Element} (inside : node ∈ root.nested) :
    FailsWith P (readStoredFunction rules node).outcome := by
  simp only [readStoredFunction, Noted.outcome_bind, Noted.outcome_liftM, Noted.outcome_mapM]
  refine .bind (attributeD_read admits inside (by decide)) fun name _ => ?_
  refine .bind (attribute_read admits inside (by decide)) fun _ _ => ?_
  refine .bind ((normalizeFunction_fails texts name).imp admits.acronyms) fun _ _ => ?_
  refine .bind (schemaOf_fails admits inside rules) fun _ _ => ?_
  refine .bind (attribute_read admits inside (by decide)) fun _ _ => ?_
  refine children_read admits inside (fun x inParameter => ?_) fun _ => ?_
  · exact readStoredParameter_fails admits inParameter name
  refine childrenNamed_fails admits.misnamed inside fun results within => ?_
  cases results with
  | nil => exact failsWith_ok _
  | cons result _ =>
    simp only [Noted.outcome_bind, Noted.outcome_liftM]
    exact .bind (readReturn_fails admits (within result (by simp))) fun _ _ => failsWith_ok _

theorem fixNames_fails (m : StorageModel) : FailsWith P (fixNames rules m) := by
  refine .map (tryMap_fails fun t => ?_)
  exact ((normalize_fails texts t.name t.isView).imp admits.acronyms).map

theorem readStorageSchema_fails {schema : Element} (inside : schema ∈ root.nested) :
    FailsWith P (readStorageSchema rules schema).outcome := by
  simp only [readStorageSchema, readTables, readAssociations, Noted.outcome_bind,
    Noted.outcome_liftM, Noted.outcome_mapM]
  refine .bind ?_ fun tables _ => ?_
  · exact children_read admits inside (fun x inTable => readTable_fails admits inTable rules)
      fun _ => failsWith_ok _
  refine children_read admits inside
    (fun x inFunction => readStoredFunction_fails admits texts inFunction) fun functions => ?_
  refine .bind (readContainer_fails admits inside rules _) fun placed _ => ?_
  refine .bind (fixNames_fails admits texts placed) fun m _ => ?_
  refine .bind ?_ fun _ _ => failsWith_ok _
  refine childrenNamed_fails admits.misnamed inside fun associations within => ?_
  exact .mapM fun x member => readAssociation_fails admits.misnamed (within x member)
    (fun _ _ _ => admits.reported _ rfl) m

end storage

theorem schemaIn_fails (admits : Admits P naming root) (name : String) :
    FailsWith P (schemaIn? root name) :=
  first_fails admits.misnamed (fun _ member => member) (failsWith_ok _) fun models inside =>
    firstNamed_fails admits.misnamed (nested_within root models inside)

theorem schemaIn_nested {name : String} {schema : Element}
    (found : schemaIn? root name = .ok (some schema)) : schema ∈ root.nested := by
  obtain ⟨models, first, found⟩ := bind_ok.1 found
  cases models with
  | none => cases found
  | some e => exact nested_within root e (mem_of_firstNamed first) schema (mem_of_firstNamed found)

theorem readStorage_fails {rules : StorageRules} (admits : Admits P rules.naming root)
    (texts : rules.naming.Texts) : FailsWith P (readStorage rules root).outcome := by
  simp only [readStorage, Noted.outcome_bind, Noted.outcome_liftM]
  refine .bind (schemaIn_fails admits _) fun schema found => ?_
  cases schema with
  | none => exact failsWith_error.2 (admits.reported _ rfl)
  | some node => exact readStorageSchema_fails admits texts (schemaIn_nested found)

section conceptual

theorem importNodes_nested {schema : Element} (inside : schema ∈ root.nested)
    {nodes : List Element} (found : importNodes schema = .ok nodes) :
    ∀ x ∈ nodes, x ∈ root.nested := by
  obtain ⟨container, first, found⟩ := bind_ok.1 found
  cases container with
  | none =>
    cases found
    exact fun x member => absurd member List.not_mem_nil
  | some e =>
    have inContainer := nested_within root schema inside e (mem_of_firstNamed first)
    intro x member
    exact nested_within root e inContainer x (child_nested (mem_of_namedIn found x member))

theorem readMaxLength_total (declared : Option String) :
    ∃ n, (readMaxLength declared).outcome = .ok n := by
  unfold readMaxLength
  split
  · exact ⟨_, rfl⟩
  · dsimp only
    split
    · exact ⟨_, rfl⟩
    · split
      · exact ⟨_, rfl⟩
      · split
        · exact ⟨_, rfl⟩
        · exact ⟨_, rfl⟩

variable (admits : Admits P naming root)
include admits

theorem readProperty_fails {node : Element} (inside : node ∈ root.nested) (keys : List String) :
    FailsWith P (readProperty keys node).outcome := by
  simp only [readProperty, Noted.outcome_bind, Noted.outcome_liftM]
  refine .bind (attributeD_read admits inside (by decide)) fun _ _ => ?_
  refine .bind (attributeD_read admits inside (by decide)) fun _ _ => ?_
  refine .bind (attribute_read admits inside (by decide)) fun _ _ => ?_
  refine .bind (attribute_read admits inside (by decide)) fun _ _ => ?_
  refine .bind (attribute_read admits inside (by decide)) fun declared _ => ?_
  obtain ⟨length, read⟩ := readMaxLength_total declared
  refine .bind (failsWith_of_ok read) fun _ _ => ?_
  refine .bind (integer_read admits inside (by decide)) fun _ _ => ?_
  refine .bind (integer_read admits inside (by decide)) fun _ _ => ?_
  refine .bind (attribute_read admits inside (by decide)) fun _ _ => ?_
  exact .bind (attribute_read admits inside (by decide)) fun _ _ => failsWith_ok _

theorem readParameter_fails {node : Element} (inside : node ∈ root.nested) (owner : String) :
    FailsWith P (readParameter owner node).outcome := by
  simp only [readParameter, Noted.outcome_bind, Noted.outcome_liftM]
  refine .bind (readDirection_fails admits inside owner) fun _ _ => ?_
  refine .bind (attributeD_read admits inside (by decide)) fun _ _ => ?_
  refine .bind (attribute_read admits inside (by decide)) fun _ _ => ?_
  exact .bind (attribute_read admits inside (by decide)) fun _ _ => failsWith_ok _

theorem declaredReturn_fails {node : Element} (inside : node ∈ root.nested) :
    FailsWith P (declaredReturn node) := by
  refine .bind (attribute_read admits inside (by decide)) fun declared _ => ?_
  split
  · exact failsWith_ok _
  · refine childrenNamed_fails admits.misnamed inside fun returns within => ?_
    split
    · rename_i returned _
      exact attribute_read admits (within returned (by simp)) (by decide)
    · exact failsWith_ok _

variable (texts : naming.Texts)
include texts

theorem readEntity_fails {node : Element} (inside : node ∈ root.nested) :
    FailsWith P (readEntity naming node).outcome := by
  simp only [readEntity, Noted.outcome_bind, Noted.outcome_liftM, Noted.outcome_mapM]
  refine .bind (attributeD_read admits inside (by decide)) fun name _ => ?_
  refine .bind ((normalize_fails texts name false).imp admits.acronyms) fun _ _ => ?_
  refine .bind (keyNames_fails admits inside) fun keys _ => ?_
  exact children_read admits inside (fun x inProperty => readProperty_fails admits inProperty keys)
    fun _ => failsWith_ok _

theorem readComplexType_fails {node : Element} (inside : node ∈ root.nested) :
    FailsWith P (readComplexType naming node).outcome := by
  simp only [readComplexType, Noted.outcome_bind, Noted.outcome_liftM, Noted.outcome_mapM]
  refine .bind (attributeD_read admits inside (by decide)) fun name _ => ?_
  refine children_read admits inside (fun x inProperty => readProperty_fails admits inProperty [])
    fun _ => ?_
  exact .bind ((normalize_fails texts name false).imp admits.acronyms) fun _ _ => failsWith_ok _

theorem readFunctionImport_fails {node : Element} (inside : node ∈ root.nested)
    (m : ConceptualModel) : FailsWith P (readFunctionImport naming m node).outcome := by
  simp only [readFunctionImport, Noted.outcome_bind, Noted.outcome_liftM, Noted.outcome_mapM]
  refine .bind (attributeD_read admits inside (by decide)) fun name _ => ?_
  refine .bind (declaredReturn_fails admits inside) fun _ _ => ?_
  refine .bind ((normalizeFunction_fails texts name).imp admits.acronyms) fun _ _ => ?_
  refine .bind (attribute_read admits inside (by decide)) fun _ _ => ?_
  exact children_read admits inside
    (fun x inParameter => readParameter_fails admits inParameter name) fun _ => failsWith_ok _

omit texts

theorem readEntityEnd_fails {node : Element} (inside : node ∈ root.nested) (m : ConceptualModel)
    (name : String) : FailsWith P (readEntityEnd m name node) := by
  refine .bind (attributeD_read admits inside (by decide)) fun type _ => ?_
  dsimp only
  split
  · exact failsWith_error.2 (admits.reported _ rfl)
  · refine .bind (attribute_read admits inside (by decide)) fun token _ => ?_
    exact .bind (multiplicityOf_fails (fun _ => admits.reported _ rfl) token) fun _ _ => failsWith_ok _

theorem readEntityAssociation_fails {node : Element} (inside : node ∈ root.nested)
    (m : ConceptualModel) : FailsWith P (readEntityAssociation m node) := by
  refine .bind (attributeD_read admits inside (by decide)) fun name _ => ?_
  refine childrenNamed_fails admits.misnamed inside fun ends within => ?_
  split
  · rename_i firstNode secondNode
    refine .bind (readEntityEnd_fails admits (within firstNode (by simp)) m name) fun _ _ => ?_
    refine .bind (readEntityEnd_fails admits (within secondNode (by simp)) m name) fun _ _ => ?_
    exact failsWith_ok _
  · exact failsWith_error.2 (admits.reported _ rfl)

theorem importNodes_fails {schema : Element} (inside : schema ∈ root.nested) :
    FailsWith P (importNodes schema) := by
  refine first_fails admits.misnamed (nested_within root schema inside) (failsWith_ok _)
    fun container inContainer => ?_
  exact namedIn_fails admits.misnamed fun x member =>
    nested_within root container inContainer x (child_nested member)

include texts

theorem readConceptualSchema_fails {schema : Element} (inside : schema ∈ root.nested) :
    FailsWith P (readConceptualSchema naming schema).outcome := by
  simp only [readConceptualSchema, readEntityAssociations, Noted.outcome_bind,
    Noted.outcome_liftM, Noted.outcome_mapM]
  refine children_read admits inside (fun x inEntity => readEntity_fails admits texts inEntity)
    fun entities => ?_
  refine children_read admits inside
    (fun x inType => readComplexType_fails admits texts inType) fun complexTypes => ?_
  refine .bind (importNodes_fails admits inside) fun imports found => ?_
  refine .bind (.mapM fun x member => ?_) fun _ _ => ?_
  · exact readFunctionImport_fails admits texts (importNodes_nested inside found x member) _
  refine .bind ?_ fun _ _ => failsWith_ok _
  refine childrenNamed_fails admits.misnamed inside fun associations within => ?_
  exact .mapM fun x member => readEntityAssociation_fails admits (within x member) _

theorem readConceptual_fails : FailsWith P (readConceptual naming root).outcome := by
  simp only [readConceptual, Noted.outcome_bind, Noted.outcome_liftM]
  refine .bind (schemaIn_fails admits _) fun schema found => ?_
  cases schema with
  | none => exact failsWith_error.2 (admits.reported _ rfl)
  | some node => exact readConceptualSchema_fails admits texts (schemaIn_nested found)

end conceptual

section mappings

theorem container_nested {node : Element} (found : container root = .ok node) :
    node ∈ root.nested := by
  simp only [container, bind_ok] at found
  obtain ⟨mappings, first, mapping, second, entities, third, found⟩ := found
  have inside {name : String} {e : Option Element} {x : Element}
      (within : ∀ y, e = some y → y ∈ root.nested)
      (answered : firstWithin name e = .ok (some x)) : x ∈ root.nested := by
    cases e with
    | none => cases answered
    | some y => exact nested_within root y (within y rfl) x (mem_of_firstNamed answered)
  cases entities with
  | none => cases found
  | some e =>
    cases found
    refine inside (fun y same => ?_) third
    subst same
    refine inside (fun z same => ?_) second
    subst same
    exact mem_of_firstNamed first

variable (admits : Admits P naming root)
include admits

theorem container_fails : FailsWith P (container root) := by
  have below {name : String} {e : Element} (inside : e ∈ root.nested) :
      FailsWith P (firstWithin name (some e)) :=
    firstNamed_fails admits.misnamed (nested_within root e inside)
  refine first_fails admits.misnamed (fun _ member => member) ?_ fun mappings inside => ?_
  · exact failsWith_error.2 (admits.reported _ rfl)
  refine first_fails admits.misnamed (nested_within root mappings inside) ?_
    fun mapping inside => ?_
  · exact failsWith_error.2 (admits.reported _ rfl)
  refine .bind (below inside) fun found _ => ?_
  split
  · exact failsWith_ok _
  · exact failsWith_error.2 (admits.reported _ rfl)

theorem readCorrespondence_fails {node : Element} (inside : node ∈ root.nested) :
    FailsWith P (readCorrespondence node) := by
  refine .bind (attributeD_read admits inside (by decide)) fun _ _ => ?_
  exact .bind (attributeD_read admits inside (by decide)) fun _ _ => failsWith_ok _

theorem readFragment_fails {node : Element} (inside : node ∈ root.nested) (entity : String) :
    FailsWith P (readFragment entity node) := by
  refine .bind (attributeD_read admits inside (by decide)) fun _ _ => ?_
  refine descendants_fails admits.misnamed (nested_within root node inside) fun nodes within => ?_
  refine .bind (.mapM fun x member => ?_) fun _ _ => failsWith_ok _
  exact readCorrespondence_fails admits (within x member)

theorem readTypeMapping_fails {node : Element} (inside : node ∈ root.nested) :
    FailsWith P (readTypeMapping node) := by
  refine .bind (attributeD_read admits inside (by decide)) fun _ _ => ?_
  refine descendants_fails admits.misnamed (nested_within root node inside) fun nodes within => ?_
  exact .mapM fun x member => readFragment_fails admits (within x member) _

theorem readSetMapping_fails {node : Element} (inside : node ∈ root.nested) :
    FailsWith P (readSetMapping node) := by
  refine descendants_fails admits.misnamed (nested_within root node inside) fun types within => ?_
  split
  · refine .bind (attributeD_read admits inside (by decide)) fun _ _ => ?_
    exact .bind (readFragment_fails admits inside _) fun _ _ => failsWith_ok _
  · refine .bind (.mapM fun x member => ?_) fun _ _ => failsWith_ok _
    exact readTypeMapping_fails admits (within x member)

theorem readMappings_fails : FailsWith P (readMappings root) := by
  refine .bind (container_fails admits) fun node found => ?_
  have inside := container_nested found
  refine descendants_fails admits.misnamed (nested_within root node inside) fun sets within => ?_
  refine .bind (.mapM fun x member => ?_) fun _ _ => failsWith_ok _
  exact readSetMapping_fails admits (within x member)

theorem readFunctionMapping_fails {node : Element} (inside : node ∈ root.nested) :
    FailsWith P (readFunctionMapping node) := by
  refine .bind (attributeD_read admits inside (by decide)) fun _ _ => ?_
  exact .bind (attributeD_read admits inside (by decide)) fun _ _ => failsWith_ok _

theorem readFunctionMappings_fails : FailsWith P (readFunctionMappings root) := by
  refine .bind (container_fails admits) fun node found => ?_
  have inside := container_nested found
  refine descendants_fails admits.misnamed (nested_within root node inside) fun nodes within => ?_
  exact .mapM fun x member => readFunctionMapping_fails admits (within x member)

end mappings

end EntityScaffold.Reading
