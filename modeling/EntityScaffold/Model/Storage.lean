import EntityScaffold.Catalog
import EntityScaffold.Model.Direction
import EntityScaffold.Model.Label
import EntityScaffold.Model.Multiplicity

/-!
The storage model: tables with their columns and foreign keys, stored functions, and the entity sets
under which a table goes by another name. What binding finds out is kept in fields that are empty
before it. Names that settings may give are labels, and a column may leave open whether it takes no
value.
-/
namespace EntityScaffold

structure Column where
  name : String
  type : String
  isNullable : Option Bool := some true
  isPrimaryKey : Bool := false
  defaultValue : Option String := none
  maxLength : Option Int := none
  precision : Option Int := none
  scale : Option Int := none
  valueGenerator : Option String := none
  propertyName : Option String := none
  deriving DecidableEq, Repr

instance : Keyed Column := ⟨Column.name⟩

/-- One side of a relationship between two tables; a pair of columns is an own one and the other
table's. -/
structure ForeignKey where
  source : Multiplicity
  destination : Multiplicity
  table : String
  association : String := ""
  isPrincipal : Bool := false
  columns : List (String × String) := []
  tableFixedName : Label := .null
  tableSchema : Label := .null
  identifier : Label := .null
  inverseIdentifier : Label := .null
  deriving DecidableEq, Repr

def ForeignKey.text (k : ForeignKey) : String :=
  "Table:" ++ k.table ++ " Columns:[" ++
    ", ".intercalate (k.columns.map fun p => p.1 ++ " == " ++ p.2) ++ "]"

inductive TableKind where
  | table
  | view
  deriving DecidableEq, Repr

structure Table where
  name : String
  fixedName : Label := .str ""
  schema : Label := .str "dbo"
  columns : Catalog Column := .empty
  kind : TableKind := .table
  isUsed : Bool := false
  entityName : Label := .null
  foreignKeys : List ForeignKey := []

instance : Keyed Table := ⟨Table.name⟩

def Table.isView (t : Table) : Bool := t.kind == .view

def Table.primaryKeys (t : Table) : List Column := t.columns.entries.filter (·.isPrimaryKey)

structure StoredParameter where
  name : String
  type : Option String := none
  direction : Direction := .in
  deriving DecidableEq, Repr

structure StoredFunction where
  name : String
  fixedName : Label := .str ""
  schema : Label := .str "dbo"
  parameters : List StoredParameter := []
  isComposable : Bool := false
  returnsCollection : Bool := false
  returnType : Option String := none
  returnColumns : List Column := []
  deriving DecidableEq, Repr

instance : Keyed StoredFunction := ⟨StoredFunction.name⟩

def StoredFunction.text (f : StoredFunction) : String :=
  f.name ++ " - " ++ f.fixedName.display ++ " - " ++ f.schema.display

/-- An entity set whose name is not its table's. -/
structure EntitySet where
  name : String
  table : String
  deriving DecidableEq, Repr

instance : Keyed EntitySet := ⟨EntitySet.name⟩

structure StorageModel where
  tables : Catalog Table := .empty
  functions : Catalog StoredFunction := .empty
  entitySets : Catalog EntitySet := .empty

namespace StorageModel

/-- A table by its own name, or else by the entity set that exposes it. -/
def resolveTable? (m : StorageModel) (name : String) : Option Table :=
  match m.tables.find? name with
  | some t => some t
  | none => (m.entitySets.find? name).bind fun s => m.tables.find? s.table

def modifyTable (m : StorageModel) (name : String) (f : Table → Table)
    (keeps : ∀ t, Keyed.key (f t) = Keyed.key t) : StorageModel :=
  { m with tables := m.tables.modify name f keeps }

end StorageModel

end EntityScaffold
