import EntityScaffold.Fault
import EntityScaffold.Json.Value
import EntityScaffold.Source.ContextClass
import EntityScaffold.Source.DomainClass
import EntityScaffold.Source.EntityConfiguration
import EntityScaffold.Source.Template

/-!
Source units written as records. A layout reads the values of its record in the order in which its
text needs them, and reads again what its text shows again, so of several values that are not there
or not of the right form the first one needed is reported. The names that units share may be given
by the record too.
-/
namespace EntityScaffold.Source

inductive UnitLayout where
  | schemaConstants
  | domainClass
  | entityConfiguration
  | contextClass
  | repository
  | repositoryInterface
  deriving DecidableEq, Repr

namespace UnitLayout

def name : UnitLayout → String
  | .schemaConstants => "schema_constants.cs.j2"
  | .domainClass => "domain.cs.j2"
  | .entityConfiguration => "configuration.cs.j2"
  | .contextClass => "context.cs.j2"
  | .repository => "repository.cs.j2"
  | .repositoryInterface => "repository_interface.cs.j2"

def all : List UnitLayout :=
  [.schemaConstants, .domainClass, .entityConfiguration, .contextClass, .repository,
    .repositoryInterface]

def ofName? (text : String) : Option UnitLayout := all.find? fun l => l.name == text

end UnitLayout

abbrev Needed := ReaderT UnitLayout (Except Fault)

def lacking (flaw : LayoutFlaw) : Needed α := fun layout => .error (.layout layout.name flaw)

def needed (r : Json) (name : String) : Needed Json :=
  match r.field? name with
  | some j => pure j
  | none => lacking (.undefined name)

def neededText (r : Json) (name : String) : Needed String := do return (← needed r name).display

def neededItems (r : Json) (name : String) : Needed (List Json) := do
  return ← Label.parts (← needed r name)

def neededTexts (r : Json) (name : String) : Needed (List String) := do
  return (← neededItems r name).map (·.display)

def ownerName (r : Json) : String := if r.isNull then "None" else r.formName ++ " object"

def part (r : Json) (name : String) : Needed Json :=
  match r.field? name with
  | some j => pure j
  | none => lacking (.undefinedPart (ownerName r) name)

def partText (r : Json) (name : String) : Needed String := do return (← part r name).display

def partTexts (r : Json) (name : String) : Needed (List String) := do
  return (← Label.parts (← part r name)).map (·.display)

def UnitNames.overlaid (names : UnitNames) (r : Json) : UnitNames where
  rootNamespace := ((r.field? "namespace").map (·.display)).getD names.rootNamespace
  contextName := ((r.field? "context_name").map (·.display)).getD names.contextName
  schemaClass := ((r.field? "schema_class_name").map (·.display)).getD names.schemaClass

def constantPair (r : Json) : Needed (String × String) := do
  match ← Label.parts r with
  | [name, schema] => return (name.display, schema.display)
  | _ => throw (.wrongSize r.display)

def SchemaConstants.ofRecord (r : Json) : Needed SchemaConstants := do
  return ⟨← (← neededItems r "constants").mapM constantPair⟩

/-- A navigation as a record; the constructor shows those that are collections by name first. -/
def NavigationMember.created (r : Json) : Needed Unit := do
  if (← part r "is_collection").truthy then
    discard (part r "name")
    discard (part r "type")

def NavigationMember.ofRecord (r : Json) : Needed NavigationMember := do
  let isCollection := (← part r "is_collection").truthy
  let type ← partText r "type"
  return ⟨← partText r "name", type, isCollection⟩

def Member.ofRecord (r : Json) : Needed Member := do
  let type ← partText r "type"
  return ⟨← partText r "name", type⟩

def DomainClass.ofRecord (r : Json) : Needed DomainClass := do
  let usings ← neededTexts r "usings"
  let bucket ← needed r "bucket"
  let className ← needed r "class_name"
  let base ← needed r "base_class"
  let navigations ← neededItems r "navigations"
  navigations.forM NavigationMember.created
  let properties ← (← neededItems r "properties").mapM Member.ofRecord
  let navigations ← navigations.mapM NavigationMember.ofRecord
  return {
    bucket, className, usings, properties, navigations
    baseClass := if base.truthy then some base.display else none }

def TableBinding.ofRecord (r : Json) : Needed TableBinding := do
  return ⟨← partText r "method", ← partText r "name", ← partText r "schema"⟩

/-- The keys; a single one is looked up by its place, which the fields of an object do not have. -/
def keysOf (value : Json) : Needed (List String) := do
  match value with
  | .obj [_] => lacking (.undefinedElement (ownerName value) 0)
  | other => return (← Label.parts other).map (·.display)

def PropertyFacets.ofRecord (r : Json) : Needed PropertyFacets := do
  return ⟨← partText r "name", ← partTexts r "facets"⟩

def Relationship.ofRecord (r x : Json) : Needed (Relationship × String) := do
  let association ← partText x "association"
  let separator ← neededText r "call_separator"
  return (⟨association, ← partTexts x "calls"⟩, separator)

def EntityConfiguration.ofRecord (r : Json) : Needed EntityConfiguration := do
  let bucket ← needed r "bucket"
  let className ← neededText r "class_name"
  let entityType ← neededText r "entity_type"
  let binding ← needed r "binding"
  let binding ← if binding.truthy then some <$> TableBinding.ofRecord binding else pure none
  let keys ← keysOf (← needed r "keys")
  let properties ← (← neededItems r "properties").mapM PropertyFacets.ofRecord
  let relationships ← (← neededItems r "relationships").mapM (Relationship.ofRecord r)
  return {
    bucket, className, entityType, binding, keys, properties
    callSeparator := (relationships.head?.map Prod.snd).getD ""
    relationships := relationships.map Prod.fst }

def EntitySetMember.ofRecord (r : Json) : Needed EntitySetMember := do
  return ⟨← partText r "type", ← partText r "name"⟩

def FunctionMethod.registered (r : Json) : Needed Unit := do
  discard (part r "name")
  discard (part r "store_name")
  discard (part r "schema")

def FunctionMethod.ofRecord (r : Json) : Needed FunctionMethod := do
  let isStatic := (← part r "is_static").truthy
  let returnType ← partText r "return_type"
  return {
    isStatic, returnType
    name := ← partText r "name"
    arguments := ← partText r "arguments"
    body := ← partText r "body"
    storeName := ← partText r "store_name"
    schema := ← partText r "schema" }

def ProcedureMethod.ofRecord (r : Json) : Needed ProcedureMethod := do
  let returnType ← partText r "return_type"
  let name ← partText r "name"
  let arguments ← partText r "arguments"
  let setup ← partTexts r "setup"
  let kind ← part r "kind"
  let rows ← if kind = .str "rows" then some <$> partText r "row_type" else pure none
  let sql ← partText r "sql"
  let sqlArguments ← partText r "sql_args"
  let assignments ← partTexts r "assignments"
  let scalar ← if kind = .str "scalar" then some <$> partText r "result" else pure none
  return {
    name, returnType, arguments, setup, sql, sqlArguments, assignments
    result := match rows, scalar with
      | some type, _ => .rows type
      | none, some expression => .scalar expression
      | none, none => .execute }

def ContextClass.ofRecord (r : Json) : Needed ContextClass := do
  let sets ← (← neededItems r "db_sets").mapM EntitySetMember.ofRecord
  let configurations ← neededTexts r "configurations"
  let functions ← neededItems r "db_functions"
  functions.forM FunctionMethod.registered
  let functions ← functions.mapM FunctionMethod.ofRecord
  let procedures ← (← neededItems r "procedures").mapM ProcedureMethod.ofRecord
  return { sets, configurations, functions, procedures }

def Repository.ofRecord (r : Json) : Needed Repository := do
  return ⟨← needed r "bucket", ← neededText r "entity_name", ← neededText r "entity_type"⟩

def recordLines (names : UnitNames) (r : Json) : UnitLayout → Needed (List String)
  | .schemaConstants => (·.lines names) <$> SchemaConstants.ofRecord r
  | .domainClass => (·.lines names) <$> DomainClass.ofRecord r
  | .entityConfiguration => (·.lines names) <$> EntityConfiguration.ofRecord r
  | .contextClass => (·.lines names) <$> ContextClass.ofRecord r
  | .repository => (·.lines names) <$> Repository.ofRecord r
  | .repositoryInterface => (·.interfaceLines names) <$> Repository.ofRecord r

def recordText (names : UnitNames) (layout : UnitLayout) (r : Json) : Except Fault String := do
  discard (contextOf r)
  return codeText (← recordLines (names.overlaid r) r layout layout)

end EntityScaffold.Source
