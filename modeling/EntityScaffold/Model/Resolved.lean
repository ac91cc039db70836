import EntityScaffold.Model.Conceptual
import EntityScaffold.Model.Storage

/-!
Mappings between the two models, and the model in which both have been bound together. The entities
in use are listed by schema and name, everything else in the order of its model.
-/
namespace EntityScaffold

structure Correspondence where
  column : String
  property : String
  deriving DecidableEq, Repr

def Correspondence.text (c : Correspondence) : String :=
  "Column:" ++ c.column ++ " == Property:" ++ c.property

/-- One fragment: the columns of a table that hold properties of an entity. -/
structure Mapping where
  table : String
  entity : String
  correspondences : List Correspondence := []
  deriving DecidableEq, Repr

def Mapping.text (m : Mapping) : String := "Table:" ++ m.table ++ " == Entity:" ++ m.entity

structure FunctionMapping where
  functionImport : String
  storedFunction : String
  deriving DecidableEq, Repr

structure ResolvedModel where
  storage : StorageModel
  conceptual : ConceptualModel
  mappings : List Mapping
  functionMappings : List FunctionMapping

namespace ResolvedModel

def usedEntities (m : ResolvedModel) : List Entity := m.conceptual.usedEntities

def orderedEntities (m : ResolvedModel) : Except Fault (List Entity) :=
  m.conceptual.orderedEntities

def usedTables (m : ResolvedModel) : List Table := m.storage.tables.entries.filter (·.isUsed)

/-- The stored function of an import: the first mapping of its name decides. -/
def storedFunctionFor? (m : ResolvedModel) (f : FunctionImport) : Option StoredFunction :=
  (m.functionMappings.find? fun x => x.functionImport == f.name).bind fun x =>
    m.storage.functions.find? x.storedFunction

def returnedTypeNames (m : ResolvedModel) : List String :=
  (m.conceptual.functions.entries.filterMap fun f =>
    f.returnComplexType.filter fun n => n != "" && m.conceptual.complexTypes.contains n).eraseDups

def returnedComplexTypes (m : ResolvedModel) : List ComplexType :=
  m.returnedTypeNames.filterMap m.conceptual.complexTypes.find?

end ResolvedModel

end EntityScaffold
