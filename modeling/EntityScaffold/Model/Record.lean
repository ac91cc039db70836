import EntityScaffold.Json.Fields
import EntityScaffold.Model.Resolved

/-!
Models as records: every part of a model written as an object with all its fields, and read from
one in which the fields that have a usual value may be left out.
-/
namespace EntityScaffold

def Multiplicity.ofRecord (j : Json) (name : String) : Multiplicity :=
  (ofToken? (j.textField name)).getD .one

def Direction.ofRecord (j : Json) : Direction :=
  (all.find? fun d => d.token == j.textField "direction").getD .in

/-- Whether no value may stand there; a null leaves it open. -/
def nullability (j : Json) : Option Bool :=
  match j.field? "is_nullable" with
  | none => some true
  | some .null => none
  | some value => some value.truthy

def Column.record (c : Column) : Json :=
  .obj [("name", .str c.name), ("type", .str c.type), ("is_nullable", .ofOption .bool c.isNullable),
    ("is_primary_key", .bool c.isPrimaryKey), ("default_value", .ofOption .str c.defaultValue),
    ("max_length", .ofOption .int c.maxLength), ("precision", .ofOption .int c.precision),
    ("scale", .ofOption .int c.scale), ("value_generator", .ofOption .str c.valueGenerator),
    ("property_name", .ofOption .str c.propertyName)]

def Column.ofRecord (j : Json) : Column where
  name := j.textField "name"
  type := j.textField "type"
  isNullable := nullability j
  isPrimaryKey := j.boolField "is_primary_key" false
  defaultValue := j.textField? "default_value"
  maxLength := j.intField? "max_length"
  precision := j.intField? "precision"
  scale := j.intField? "scale"
  valueGenerator := j.textField? "value_generator"
  propertyName := j.textField? "property_name"

def ForeignKey.record (k : ForeignKey) : Json :=
  .obj [("source", .str k.source.token), ("destination", .str k.destination.token),
    ("table", .str k.table), ("association", .str k.association),
    ("is_principal", .bool k.isPrincipal),
    ("columns", .arr (k.columns.map fun p => .ofTexts [p.1, p.2])),
    ("table_fixed_name", k.tableFixedName),
    ("table_schema", k.tableSchema), ("identifier", k.identifier),
    ("inverse_identifier", k.inverseIdentifier), ("str", .str k.text)]

def pairOfRecord (j : Json) : String × String :=
  match j.items.map (·.display) with
  | [a, b] => (a, b)
  | _ => ("", "")

def ForeignKey.ofRecord (j : Json) : ForeignKey where
  source := .ofRecord j "source"
  destination := .ofRecord j "destination"
  table := j.textField "table"
  association := j.textField "association"
  isPrincipal := j.boolField "is_principal" false
  columns := (j.itemsField "columns").map pairOfRecord
  tableFixedName := j.labelField "table_fixed_name" .null
  tableSchema := j.labelField "table_schema" .null
  identifier := j.labelField "identifier" .null
  inverseIdentifier := j.labelField "inverse_identifier" .null

def TableKind.token : TableKind → String
  | .table => "table"
  | .view => "view"

def Table.record (t : Table) : Json :=
  .obj [("name", .str t.name), ("fixed_name", t.fixedName), ("schema", t.schema),
    ("columns", .arr (t.columns.entries.map (·.record))), ("repo_kind", .str t.kind.token),
    ("used", .bool t.isUsed), ("entity_name", t.entityName),
    ("foreign_keys", .arr (t.foreignKeys.map (·.record)))]

def Table.ofRecord (j : Json) : Table where
  name := j.textField "name"
  fixedName := j.labelField "fixed_name" (.str "")
  schema := j.labelField "schema" (.str "dbo")
  columns := .ofList ((j.itemsField "columns").map Column.ofRecord)
  kind := if j.textField "repo_kind" = TableKind.view.token then .view else .table
  isUsed := j.boolField "used" false
  entityName := j.labelField "entity_name" .null
  foreignKeys := (j.itemsField "foreign_keys").map ForeignKey.ofRecord

def StoredParameter.record (p : StoredParameter) : Json :=
  .obj [("name", .str p.name), ("type", .ofOption .str p.type),
    ("direction", .str p.direction.token)]

def StoredParameter.ofRecord (j : Json) : StoredParameter where
  name := j.textField "name"
  type := j.textField? "type"
  direction := .ofRecord j

def StoredFunction.record (f : StoredFunction) : Json :=
  .obj [("name", .str f.name), ("fixed_name", f.fixedName), ("schema", f.schema),
    ("parameters", .arr (f.parameters.map (·.record))), ("is_composable", .bool f.isComposable),
    ("returns_collection", .bool f.returnsCollection),
    ("return_type", .ofOption .str f.returnType),
    ("return_columns", .arr (f.returnColumns.map (·.record))), ("str", .str f.text)]

def StoredFunction.ofRecord (j : Json) : StoredFunction where
  name := j.textField "name"
  fixedName := j.labelField "fixed_name" (.str "")
  schema := j.labelField "schema" (.str "dbo")
  parameters := (j.itemsField "parameters").map StoredParameter.ofRecord
  isComposable := j.boolField "is_composable" false
  returnsCollection := j.boolField "returns_collection" false
  returnType := j.textField? "return_type"
  returnColumns := (j.itemsField "return_columns").map Column.ofRecord

def StorageModel.record (m : StorageModel) : Json :=
  .obj [("tables", .arr (m.tables.entries.map (·.record))),
    ("functions", .arr (m.functions.entries.map (·.record))),
    ("entity_sets", .arr (m.entitySets.entries.map fun s => .ofTexts [s.name, s.table]))]

def StorageModel.ofRecord (j : Json) : StorageModel where
  tables := .ofList ((j.itemsField "tables").map Table.ofRecord)
  functions := .ofList ((j.itemsField "functions").map StoredFunction.ofRecord)
  entitySets := .ofList ((j.itemsField "entity_sets").map fun s =>
    ⟨(pairOfRecord s).1, (pairOfRecord s).2⟩)

def Property.record (p : Property) : Json :=
  .obj [("name", .str p.name), ("type", .str p.type), ("is_nullable", .ofOption .bool p.isNullable),
    ("is_primary_key", .bool p.isPrimaryKey), ("default_value", .ofOption .str p.defaultValue),
    ("max_length", .ofOption .int p.maxLength), ("precision", .ofOption .int p.precision),
    ("scale", .ofOption .int p.scale), ("fixed_length", .bool p.isFixedLength),
    ("unicode", .bool p.isUnicode)]

def Property.ofRecord (j : Json) : Property where
  name := j.textField "name"
  type := j.textField "type"
  isNullable := nullability j
  isPrimaryKey := j.boolField "is_primary_key" false
  defaultValue := j.textField? "default_value"
  maxLength := j.intField? "max_length"
  precision := j.intField? "precision"
  scale := j.intField? "scale"
  isFixedLength := j.boolField "fixed_length" false
  isUnicode := j.boolField "unicode" false

def Navigation.record (n : Navigation) : Json :=
  .obj [("entity_name", .str n.entityName), ("target_name", .str n.targetName),
    ("multiplicity", .str n.multiplicity.token), ("association", .str n.association),
    ("target_fixed_name", n.targetFixedName),
    ("target_type_name", n.targetTypeName),
    ("target_schema", n.targetSchema), ("identifier", n.identifier),
    ("inverse_identifier", n.inverseIdentifier), ("str", .str n.text)]

def Navigation.ofRecord (j : Json) : Navigation where
  entityName := j.textField "entity_name"
  targetName := j.textField "target_name"
  multiplicity := .ofRecord j "multiplicity"
  association := j.textField "association"
  targetFixedName := j.labelField "target_fixed_name" .null
  targetTypeName := j.labelField "target_type_name" .null
  targetSchema := j.labelField "target_schema" .null
  identifier := j.labelField "identifier" .null
  inverseIdentifier := j.labelField "inverse_identifier" .null

def Entity.record (e : Entity) : Json :=
  .obj [("name", .str e.name), ("fixed_name", e.fixedName),
    ("table_name", .ofOption .str e.tableName), ("schema", e.schema),
    ("properties", .arr (e.properties.map (·.record))),
    ("navigation_properties", .arr (e.navigations.map (·.record))), ("used", .bool e.isUsed)]

def Entity.ofRecord (j : Json) : Entity where
  name := j.textField "name"
  fixedName := j.labelField "fixed_name" (.str "")
  tableName := j.textField? "table_name"
  schema := j.labelField "schema" .null
  properties := (j.itemsField "properties").map Property.ofRecord
  navigations := (j.itemsField "navigation_properties").map Navigation.ofRecord
  isUsed := j.boolField "used" false

def ComplexType.record (t : ComplexType) : Json :=
  .obj [("name", .str t.name), ("fixed_name", t.fixedName),
    ("properties", .arr (t.properties.map (·.record)))]

def ComplexType.ofRecord (j : Json) : ComplexType where
  name := j.textField "name"
  fixedName := j.labelField "fixed_name" (.str "")
  properties := (j.itemsField "properties").map Property.ofRecord

def Parameter.record (p : Parameter) : Json :=
  .obj [("name", .str p.name), ("type", .ofOption .str p.type),
    ("direction", .str p.direction.token), ("is_nullable", .ofOption .bool p.isNullable)]

def Parameter.ofRecord (j : Json) : Parameter where
  name := j.textField "name"
  type := j.textField? "type"
  direction := .ofRecord j
  isNullable := nullability j

def FunctionImport.record (f : FunctionImport) : Json :=
  .obj [("name", .str f.name), ("fixed_name", f.fixedName),
    ("parameters", .arr (f.parameters.map (·.record))),
    ("return_type", .ofOption .str f.returnType),
    ("return_complex_type", .ofOption .str f.returnComplexType),
    ("return_entity_type", .ofOption .str f.returnEntityType),
    ("is_composable", .bool f.isComposable)]

def FunctionImport.ofRecord (j : Json) : FunctionImport where
  name := j.textField "name"
  fixedName := j.labelField "fixed_name" (.str "")
  parameters := (j.itemsField "parameters").map Parameter.ofRecord
  returnType := j.textField? "return_type"
  returnComplexType := j.textField? "return_complex_type"
  returnEntityType := j.textField? "return_entity_type"
  isComposable := j.boolField "is_composable" false

def ConceptualModel.record (m : ConceptualModel) : Json :=
  .obj [("entities", .arr (m.entities.entries.map (·.record))),
    ("complex_types", .arr (m.complexTypes.entries.map (·.record))),
    ("functions", .arr (m.functions.entries.map (·.record)))]

def ConceptualModel.ofRecord (j : Json) : ConceptualModel where
  entities := .ofList ((j.itemsField "entities").map Entity.ofRecord)
  complexTypes := .ofList ((j.itemsField "complex_types").map ComplexType.ofRecord)
  functions := .ofList ((j.itemsField "functions").map FunctionImport.ofRecord)

def Correspondence.record (c : Correspondence) : Json :=
  .obj [("column_name", .str c.column), ("property_name", .str c.property), ("str", .str c.text)]

def Correspondence.ofRecord (j : Json) : Correspondence :=
  ⟨j.textField "column_name", j.textField "property_name"⟩

def Mapping.record (m : Mapping) : Json :=
  .obj [("table_name", .str m.table), ("entity_name", .str m.entity),
    ("properties", .arr (m.correspondences.map (·.record))), ("str", .str m.text)]

def Mapping.ofRecord (j : Json) : Mapping where
  table := j.textField "table_name"
  entity := j.textField "entity_name"
  correspondences := (j.itemsField "properties").map Correspondence.ofRecord

def FunctionMapping.record (m : FunctionMapping) : Json :=
  .obj [("function_import_name", .str m.functionImport), ("function_name", .str m.storedFunction)]

def FunctionMapping.ofRecord (j : Json) : FunctionMapping :=
  ⟨j.textField "function_import_name", j.textField "function_name"⟩

namespace ResolvedModel

def record (m : ResolvedModel) : Json :=
  .obj [("storage", m.storage.record), ("conceptual", m.conceptual.record),
    ("mappings", .arr (m.mappings.map (·.record))),
    ("function_mappings", .arr (m.functionMappings.map (·.record)))]

def ofRecord (j : Json) : ResolvedModel where
  storage := .ofRecord ((j.field? "storage").getD .null)
  conceptual := .ofRecord ((j.field? "conceptual").getD .null)
  mappings := (j.itemsField "mappings").map Mapping.ofRecord
  functionMappings := (j.itemsField "function_mappings").map FunctionMapping.ofRecord

def storedFunctionRecord (m : ResolvedModel) (f : FunctionImport) : Json :=
  .arr [.str f.name, .ofOption (fun s => .str s.name) (m.storedFunctionFor? f)]

def primaryKeyRecord (t : Table) : Json :=
  .arr [.str t.name, .ofTexts (t.primaryKeys.map (·.name))]

def queryRecord (m : ResolvedModel) : Json :=
  .obj [("used_entities", .ofTexts (m.usedEntities.map (·.name))),
    ("used_tables", .ofTexts (m.usedTables.map (·.name))),
    ("returned_complex_types", .ofTexts (m.returnedComplexTypes.map (·.name))),
    ("storage_functions", .arr (m.conceptual.functions.entries.map m.storedFunctionRecord)),
    ("primary_keys", .arr (m.storage.tables.entries.map primaryKeyRecord))]

end ResolvedModel

end EntityScaffold
