import EntityScaffold.Catalog
import EntityScaffold.Model.Direction
import EntityScaffold.Model.Label
import EntityScaffold.Model.Multiplicity
import EntityScaffold.Sorting

/-!
The conceptual model: entities with their properties and navigations, complex types, and function
imports. An association is not kept as such: each of its ends is a navigation of an entity.
-/
namespace EntityScaffold

structure Property where
  name : String
  type : String
  isNullable : Option Bool := some true
  isPrimaryKey : Bool := false
  defaultValue : Option String := none
  maxLength : Option Int := none
  precision : Option Int := none
  scale : Option Int := none
  isFixedLength : Bool := false
  isUnicode : Bool := false
  deriving DecidableEq, Repr

structure Navigation where
  entityName : String
  targetName : String
  multiplicity : Multiplicity
  association : String := ""
  targetFixedName : Label := .null
  targetTypeName : Label := .null
  targetSchema : Label := .null
  identifier : Label := .null
  inverseIdentifier : Label := .null
  deriving DecidableEq, Repr

def Navigation.text (n : Navigation) : String :=
  "TargetName:" ++ n.targetName ++ " TargetNameFixed:" ++ n.targetFixedName.display ++
    " TargetSchema:" ++ n.targetSchema.display ++ " Multiplicity:" ++ n.multiplicity.label ++
    " Identifier:" ++ n.identifier.display

structure Entity where
  name : String
  fixedName : Label := .str ""
  tableName : Option String := none
  schema : Label := .null
  properties : List Property := []
  navigations : List Navigation := []
  isUsed : Bool := false
  deriving DecidableEq, Repr

instance : Keyed Entity := ⟨Entity.name⟩

def Entity.property? (e : Entity) (name : String) : Option Property :=
  e.properties.find? (·.name == name)

namespace Entity

/-- The text by which entities are put in order; a schema that is not given comes first. -/
def schemaOrder (e : Entity) : String := if e.schema.isGiven then Text.lower e.schema.display else ""

/-- Entities by schema, its case apart, and then by name. -/
def comesBefore (a b : Entity) : Bool :=
  decide (a.schemaOrder < b.schemaOrder) ||
    (a.schemaOrder == b.schemaOrder && decide (a.name ≤ b.name))

end Entity

structure ComplexType where
  name : String
  fixedName : Label := .str ""
  properties : List Property := []
  deriving DecidableEq, Repr

instance : Keyed ComplexType := ⟨ComplexType.name⟩

structure Parameter where
  name : String
  type : Option String := none
  direction : Direction := .in
  isNullable : Option Bool := some true
  deriving DecidableEq, Repr

/-- A function import; it returns rows when its return type is a complex type or an entity. -/
structure FunctionImport where
  name : String
  fixedName : Label := .str ""
  parameters : List Parameter := []
  returnType : Option String := none
  returnComplexType : Option String := none
  returnEntityType : Option String := none
  isComposable : Bool := false
  deriving DecidableEq, Repr

instance : Keyed FunctionImport := ⟨FunctionImport.name⟩

def isGiven (name : Option String) : Bool := name.getD "" != ""

def FunctionImport.returnsRows (f : FunctionImport) : Bool :=
  isGiven f.returnComplexType || isGiven f.returnEntityType

structure ConceptualModel where
  entities : Catalog Entity := .empty
  complexTypes : Catalog ComplexType := .empty
  functions : Catalog FunctionImport := .empty

namespace ConceptualModel

def usedEntities (m : ConceptualModel) : List Entity :=
  sortBy Entity.comesBefore (m.entities.entries.filter (·.isUsed))

def orderedEntities (m : ConceptualModel) : Except Fault (List Entity) := do
  (m.entities.entries.filter (·.isUsed)).forM fun e => do
    if e.schema.isGiven then discard e.schema.letters
  return m.usedEntities

def modifyEntity (m : ConceptualModel) (name : String) (f : Entity → Entity)
    (keeps : ∀ e, Keyed.key (f e) = Keyed.key e) : ConceptualModel :=
  { m with entities := m.entities.modify name f keeps }

end ConceptualModel

end EntityScaffold
