import EntityScaffold.Fault
import EntityScaffold.Model.Resolved
import EntityScaffold.Reading.TypeName
import EntityScaffold.Xml.Element

/-!
The mapping section of a document: one mapping for every fragment, in document order. In the older
form an entity set mapping without type mappings is itself the only fragment.
-/
namespace EntityScaffold.Reading
open Xml

def firstWithin (name : String) : Option Element → Except Fault (Option Element)
  | none => .ok none
  | some node => node.first? name

def container (root : Element) : Except Fault Element := do
  let mappings ← root.first? "Mappings"
  let mapping ← firstWithin "Mapping" mappings
  match ← firstWithin "EntityContainerMapping" mapping with
  | some node => return node
  | none => throw (.missingSection .mapping)

def readCorrespondence (node : Element) : Except Fault Correspondence := do
  return ⟨← node.attributeD "ColumnName", ← node.attributeD "Name"⟩

def readFragment (entity : String) (node : Element) : Except Fault Mapping := do
  let table ← node.attributeD "StoreEntitySet"
  return ⟨table, entity, ← (← node.descendants "ScalarProperty").mapM readCorrespondence⟩

def readTypeMapping (node : Element) : Except Fault (List Mapping) := do
  let entity := entityTypeName (← node.attributeD "TypeName")
  (← node.descendants "MappingFragment").mapM (readFragment entity)

def readSetMapping (node : Element) : Except Fault (List Mapping) := do
  match ← node.descendants "EntityTypeMapping" with
  | [] => return [← readFragment (entityTypeName (← node.attributeD "TypeName")) node]
  | types => return (← types.mapM readTypeMapping).flatten

def readMappings (root : Element) : Except Fault (List Mapping) := do
  return (← (← (← container root).descendants "EntitySetMapping").mapM readSetMapping).flatten

def readFunctionMapping (node : Element) : Except Fault FunctionMapping := do
  return ⟨← node.attributeD "FunctionImportName", unqualified (← node.attributeD "FunctionName")⟩

def readFunctionMappings (root : Element) : Except Fault (List FunctionMapping) := do
  (← (← container root).descendants "FunctionImportMapping").mapM readFunctionMapping

end EntityScaffold.Reading
