import EntityScaffold.Model.Conceptual
import EntityScaffold.Reading.Storage

/-!
The conceptual section of a document. Every association gives each of the two entities it joins a
navigation to the other one; an association of an entity with itself gives it two.
-/
namespace EntityScaffold.Reading
open Naming Xml

/-- A length may be a number or `max`, which is written as -1; any other text is noted. -/
def readMaxLength : Option String → Noted (Option Int)
  | none => pure none
  | some raw =>
    let cs := Text.trim raw.toList
    if cs.isEmpty then pure none
    else if Text.lowerChars cs = "max".toList then pure (some (-1))
    else
      match Text.readInt raw.toList with
      | some n => pure (some n)
      | none => do
        Noted.note (.ignoredMaxLength raw)
        pure none

def readProperty (keys : List String) (node : Element) : Noted Property := do
  let name ← node.attributeD "Name"
  let type ← node.attributeD "Type"
  let nullable ← node.attribute? "Nullable"
  let defaultValue ← node.attribute? "DefaultValue"
  let maxLength ← readMaxLength (← node.attribute? "MaxLength")
  let precision ← node.integer? "Precision"
  let scale ← node.integer? "Scale"
  let fixed ← node.attribute? "FixedLength"
  let unicode ← node.attribute? "Unicode"
  pure
    { name := name
      type := type
      isNullable := some (nullable != some "false")
      isPrimaryKey := keys.contains name
      defaultValue := defaultValue
      maxLength := maxLength
      precision := precision
      scale := scale
      isFixedLength := fixed == some "true"
      isUnicode := unicode == some "true" }

def readEntity (naming : NamingRules) (node : Element) : Noted Entity := do
  let name ← node.attributeD "Name"
  let fixedName ← naming.normalize name false
  let keys ← keyNames node
  let properties ← (← node.childrenNamed "Property").mapM (readProperty keys)
  pure { name := name, fixedName := fixedName, tableName := some name, properties := properties }

def readComplexType (naming : NamingRules) (node : Element) : Noted ComplexType := do
  let name ← node.attributeD "Name"
  let properties ← (← node.childrenNamed "Property").mapM (readProperty [])
  let fixedName ← naming.normalize name false
  pure ⟨name, fixedName, properties⟩

def readParameter (owner : String) (node : Element) : Noted Parameter := do
  let direction ← readDirection owner node
  let name ← node.attributeD "Name"
  let type ← node.attribute? "Type"
  let nullable ← node.attribute? "Nullable"
  pure
    { name := name
      type := type
      direction := direction
      isNullable := some (nullable != some "false") }

def declaredReturn (node : Element) : Except Fault (Option String) := do
  match ← node.attribute? "ReturnType" with
  | some t => return some t
  | none =>
    match ← node.childrenNamed "ReturnType" with
    | returned :: _ => returned.attribute? "Type"
    | [] => return none

def returnName? (declared : Option String) : Option String :=
  ((elementType declared).1.filter (· != "")).map unqualified

def readFunctionImport (naming : NamingRules) (m : ConceptualModel) (node : Element) :
    Noted FunctionImport := do
  let name ← node.attributeD "Name"
  let declared ← declaredReturn node
  let fixedName ← naming.normalizeFunction name
  let composable ← node.attribute? "IsComposable"
  let complexType := (returnName? declared).filter m.complexTypes.contains
  let entityType := (returnName? declared).filter m.entities.contains
  let parameters ← (← node.childrenNamed "Parameter").mapM (readParameter name)
  pure
    { name := name
      fixedName := fixedName
      parameters := parameters
      returnType := declared
      returnComplexType := complexType
      returnEntityType := if complexType.isSome then none else entityType
      isComposable := composable == some "true" }

def readEntityEnd (m : ConceptualModel) (name : String) (node : Element) :
    Except Fault (String × Multiplicity) := do
  let entity := unqualified (← node.attributeD "Type")
  if !m.entities.contains entity then throw (.association name (.unknownEntity entity))
  return (entity, ← multiplicityOf name (← node.attribute? "Multiplicity"))

def addNavigation (m : ConceptualModel) (n : Navigation) : ConceptualModel :=
  m.modifyEntity n.entityName (fun e => { e with navigations := e.navigations ++ [n] })
    (fun _ => rfl)

structure EntityAssociation where
  name : String
  first : String × Multiplicity
  second : String × Multiplicity
  deriving DecidableEq, Repr

namespace EntityAssociation

def firstNavigation (a : EntityAssociation) : Navigation where
  entityName := a.first.1
  targetName := a.second.1
  multiplicity := a.second.2
  association := a.name

def secondNavigation (a : EntityAssociation) : Navigation where
  entityName := a.second.1
  targetName := a.first.1
  multiplicity := a.first.2
  association := a.name

end EntityAssociation

def joinEntities (m : ConceptualModel) (a : EntityAssociation) : ConceptualModel :=
  addNavigation (addNavigation m a.firstNavigation) a.secondNavigation

def readEntityAssociation (m : ConceptualModel) (node : Element) :
    Except Fault EntityAssociation := do
  let name ← node.attributeD "Name"
  match ← node.childrenNamed "End" with
  | [firstNode, secondNode] =>
    let first ← readEntityEnd m name firstNode
    let second ← readEntityEnd m name secondNode
    return ⟨name, first, second⟩
  | nodes => throw (.association name (.endCount nodes.length))

def readEntityAssociations (m : ConceptualModel) (schema : Element) :
    Except Fault (List EntityAssociation) := do
  (← schema.childrenNamed "Association").mapM (readEntityAssociation m)

def importNodes (schema : Element) : Except Fault (List Element) := do
  match ← schema.first? "EntityContainer" with
  | none => return []
  | some container => container.childrenNamed "FunctionImport"

def readConceptualSchema (naming : NamingRules) (schema : Element) : Noted ConceptualModel := do
  let entities ← (← schema.childrenNamed "EntityType").mapM (readEntity naming)
  let complexTypes ← (← schema.childrenNamed "ComplexType").mapM (readComplexType naming)
  let m : ConceptualModel :=
    { entities := .ofList entities, complexTypes := .ofList complexTypes }
  let functions ← (← importNodes schema).mapM (readFunctionImport naming m)
  let m := { m with functions := .ofList functions }
  return (← readEntityAssociations m schema).foldl joinEntities m

def readConceptual (naming : NamingRules) (root : Element) : Noted ConceptualModel := do
  match ← schemaIn? root "ConceptualModels" with
  | none => Noted.fail (.missingSection .conceptual)
  | some schema => readConceptualSchema naming schema

end EntityScaffold.Reading
