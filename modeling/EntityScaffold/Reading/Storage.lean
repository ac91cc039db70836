import EntityScaffold.Model.Storage
import EntityScaffold.Naming.Normalizer
import EntityScaffold.Noted
import EntityScaffold.Reading.Multiplicity
import EntityScaffold.Reading.TypeName
import EntityScaffold.Xml.Element

/-!
The storage section of a document. Types become tables, entity sets give them their schema and say
whether they are views, and every association puts one foreign key on each of the two tables it
joins. Associations are read after everything else, so that they find all tables.
-/
namespace EntityScaffold.Reading
open Naming Xml

structure StorageRules where
  naming : NamingRules
  defaultSchema : Label

def keyNames (node : Element) : Except Fault (List String) := do
  let refs ← (← node.childrenNamed "Key").mapM (·.childrenNamed "PropertyRef")
  refs.flatten.mapM (·.attributeD "Name")

def unboundedTypes : List String := ["varchar(max)", "nvarchar(max)", "varbinary(max)"]

/-- A length counts only when it limits something. -/
def columnLength (type : String) (declared : Option Int) : Option Int :=
  if Text.lower type ∈ unboundedTypes then none
  else declared.filter fun n => n != 0 && n != -1

def readColumn (keys : List String) (node : Element) : Except Fault Column := do
  let name ← node.attributeD "Name"
  let type ← node.attributeD "Type"
  let nullable ← node.attribute? "Nullable"
  pure
    { name := name
      type := type
      isNullable := some (nullable != some "false")
      isPrimaryKey := keys.contains name
      defaultValue := ← node.attribute? "DefaultValue"
      maxLength := columnLength type (← node.integer? "MaxLength")
      precision := ← node.integer? "Precision"
      scale := ← node.integer? "Scale"
      valueGenerator := ← node.attribute? "StoreGeneratedPattern" }

def readTable (rules : StorageRules) (node : Element) : Except Fault Table := do
  let name ← node.attributeD "Name"
  let keys ← keyNames node
  let columns ← (← node.childrenNamed "Property").mapM (readColumn keys)
  pure { name := name, schema := rules.defaultSchema, columns := .ofList columns }

/-- The direction of a parameter; a mode that means nothing is noted and taken for `in`. -/
def readDirection (owner : String) (node : Element) : Noted Direction := do
  let mode ← node.attribute? "Mode"
  match Direction.ofMode? mode with
  | some d => pure d
  | none =>
    Noted.note (.unknownMode mode owner)
    pure .in

def readStoredParameter (owner : String) (node : Element) : Noted StoredParameter := do
  let name ← node.attributeD "Name"
  let type ← node.attribute? "Type"
  pure ⟨name, type, ← readDirection owner node⟩

def schemaOf (rules : StorageRules) (node : Element) : Except Fault Label := do
  match ← node.attribute? "Schema" with
  | none | some "" => return rules.defaultSchema
  | some s => return .str s

/-- What the element of a return type says: whether it is a collection, and the columns of a row. -/
def readReturn (node : Element) : Except Fault (Bool × List Column) := do
  let collection ← node.first? "CollectionType"
  match ← node.first? "RowType" with
  | none => return (collection.isSome, [])
  | some row =>
    return (collection.isSome, ← (← row.childrenNamed "Property").mapM (readColumn []))

def readStoredFunction (rules : StorageRules) (node : Element) : Noted StoredFunction := do
  let name ← node.attributeD "Name"
  let (returnType, isCollection) := elementType (← node.attribute? "ReturnType")
  let fixedName ← rules.naming.normalizeFunction name
  let schema ← schemaOf rules node
  let composable ← node.attribute? "IsComposable"
  let parameters ← (← node.childrenNamed "Parameter").mapM (readStoredParameter name)
  let (returned, columns) ← match ← node.childrenNamed "ReturnType" with
    | result :: _ => readReturn result
    | [] => pure (false, [])
  pure
    { name := name
      fixedName := fixedName
      schema := schema
      parameters := parameters
      isComposable := Text.lower (composable.getD "true") == "true"
      returnsCollection := isCollection || returned
      returnType := returnType
      returnColumns := columns }

/-- The table that an entity set exposes: that of its type, or else the one of its own name. -/
def exposedTable? (m : StorageModel) (set type : String) : Option Table :=
  match m.tables.find? (if type = "" then set else type) with
  | some t => some t
  | none => m.tables.find? set

def viewSetType : String := "views"

def readEntitySet (rules : StorageRules) (m : StorageModel) (node : Element) :
    Noted StorageModel := do
  let set ← node.attributeD "Name"
  match exposedTable? m set (unqualified (← node.attributeD "EntityType")) with
  | none =>
    Noted.note (.unmatchedEntitySet set)
    pure m
  | some t =>
    let schema ← schemaOf rules node
    let kind := if Text.lower (← node.attributeD "Type") = viewSetType then .view else .table
    let sets := if set = t.name then m.entitySets else m.entitySets.insert ⟨set, t.name⟩
    pure { m with
      entitySets := sets
      tables := m.tables.modify t.name (fun t => { t with schema := schema, kind := kind })
        (fun _ => rfl) }

def readContainer (rules : StorageRules) (schema : Element) (m : StorageModel) :
    Noted StorageModel := do
  match ← schema.first? "EntityContainer" with
  | none => do
    Noted.note .noEntityContainer
    pure m
  | some container => (← container.childrenNamed "EntitySet").foldlM (readEntitySet rules) m

def fixName (rules : StorageRules) (t : Table) : Except Fault Table :=
  (rules.naming.normalize t.name t.isView).map fun fixed => { t with fixedName := fixed }

theorem key_of_fixName {rules : StorageRules} {t u : Table} (h : fixName rules t = .ok u) :
    Keyed.key u = Keyed.key t := by
  unfold fixName at h
  cases fixed : rules.naming.normalize t.name t.isView with
  | error e => rw [fixed] at h; cases h
  | ok name => rw [fixed] at h; cases h; rfl

def fixNames (rules : StorageRules) (m : StorageModel) : Except Fault StorageModel :=
  (m.tables.tryMap (fixName rules) fun _ _ h => key_of_fixName h).map fun tables =>
    { m with tables := tables }

structure AssociationEnd where
  role : String
  table : String
  multiplicity : Multiplicity
  deriving DecidableEq, Repr

def readEnd (m : StorageModel) (name : String) (node : Element) :
    Except Fault AssociationEnd := do
  let table := unqualified (← node.attributeD "Type")
  if !m.tables.contains table then throw (.association name (.unknownTable table))
  let multiplicity ← multiplicityOf name (← node.attribute? "Multiplicity")
  return ⟨← node.attributeD "Role", table, multiplicity⟩

def readConstraintEnd (name : String) (constraint : Element) (which : ConstraintEnd) :
    Except Fault (String × List String) := do
  match ← constraint.childrenNamed which.title with
  | [node] =>
    let columns ← (← node.childrenNamed "PropertyRef").mapM (·.attributeD "Name")
    return (← node.attributeD "Role", columns)
  | _ => throw (.association name (.constraintEnd which))

def addForeignKey (m : StorageModel) (table : String) (k : ForeignKey) : StorageModel :=
  m.modifyTable table (fun t => { t with foreignKeys := t.foreignKeys ++ [k] }) (fun _ => rfl)

structure TableAssociation where
  name : String
  dependent : AssociationEnd
  principal : AssociationEnd
  dependentColumns : List String
  principalColumns : List String
  deriving DecidableEq, Repr

namespace TableAssociation

def dependentKey (a : TableAssociation) : ForeignKey where
  source := a.dependent.multiplicity
  destination := a.principal.multiplicity
  table := a.principal.table
  association := a.name
  isPrincipal := false
  columns := a.dependentColumns.zip a.principalColumns

def principalKey (a : TableAssociation) : ForeignKey where
  source := a.principal.multiplicity
  destination := a.dependent.multiplicity
  table := a.dependent.table
  association := a.name
  isPrincipal := true
  columns := a.principalColumns.zip a.dependentColumns

end TableAssociation

/-- Adds the two foreign keys of an association, dependent side first. -/
def joinTables (m : StorageModel) (a : TableAssociation) : StorageModel :=
  addForeignKey (addForeignKey m a.dependent.table a.dependentKey) a.principal.table a.principalKey

def readAssociation (m : StorageModel) (node : Element) : Except Fault TableAssociation := do
  let name ← node.attributeD "Name"
  let flawed := fun flaw => Fault.association name flaw
  match ← node.childrenNamed "End" with
  | [firstNode, secondNode] =>
    let first ← readEnd m name firstNode
    let second ← readEnd m name secondNode
    if first.role = second.role then throw (flawed .duplicateRoles)
    match ← node.childrenNamed "ReferentialConstraint" with
    | [constraint] =>
      let (principalRole, principalColumns) ← readConstraintEnd name constraint .principal
      let (dependentRole, dependentColumns) ← readConstraintEnd name constraint .dependent
      let ends := [(first.role, first), (second.role, second)]
      match ends.lookup principalRole, ends.lookup dependentRole with
      | some principal, some dependent =>
        if principalColumns.isEmpty || principalColumns.length != dependentColumns.length then
          throw (flawed .columnMismatch)
        return ⟨name, dependent, principal, dependentColumns, principalColumns⟩
      | _, _ => throw (flawed .strayRole)
    | _ => throw (flawed .constraintCount)
  | nodes => throw (flawed (.endCount nodes.length))

def readAssociations (m : StorageModel) (schema : Element) :
    Except Fault (List TableAssociation) := do
  (← schema.childrenNamed "Association").mapM (readAssociation m)

def schemaIn? (root : Element) (name : String) : Except Fault (Option Element) := do
  match ← root.first? name with
  | none => return none
  | some models => models.first? "Schema"

def readTables (rules : StorageRules) (schema : Element) : Except Fault (Catalog Table) := do
  return .ofList (← (← schema.childrenNamed "EntityType").mapM (readTable rules))

def readStorageSchema (rules : StorageRules) (schema : Element) : Noted StorageModel := do
  let tables ← readTables rules schema
  let functions ← (← schema.childrenNamed "Function").mapM (readStoredFunction rules)
  let m : StorageModel := { tables := tables, functions := .ofList functions }
  let m ← readContainer rules schema m
  let m ← fixNames rules m
  return (← readAssociations m schema).foldl joinTables m

def readStorage (rules : StorageRules) (root : Element) : Noted StorageModel := do
  match ← schemaIn? root "StorageModels" with
  | none => Noted.fail (.missingSection .storage)
  | some schema => readStorageSchema rules schema

end EntityScaffold.Reading
