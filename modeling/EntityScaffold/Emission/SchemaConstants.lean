import EntityScaffold.Config
import EntityScaffold.Model.Resolved
import EntityScaffold.Naming.Collision
import EntityScaffold.Source.Names

/-!
Schema constants: one for each schema in use besides the default one. Schemas that differ by case
share a constant; a name that clashes with another or with the default constant gets a suffix.
-/
namespace EntityScaffold.Emission
open Source

structure SchemaConstant where
  name : Label
  schema : String
  deriving DecidableEq, Repr

def sameSchema (a b : String) : Bool := Text.lower a == Text.lower b

/-- The schemas of the tables in use and of the functions that imports call. -/
def schemasInUse (m : ResolvedModel) : List Label :=
  m.usedTables.map (·.schema) ++
    (m.conceptual.functions.entries.filterMap m.storedFunctionFor?).map (·.schema)

def schemaBefore (a b : String) : Bool :=
  decide (Text.lower a < Text.lower b) || (Text.lower a == Text.lower b && decide (a ≤ b))

/-- The schemas in use that are given, each once, in the order of their lower-case forms. -/
def sortedSchemas (m : ResolvedModel) : Except Fault (List String) := do
  let given ← ((schemasInUse m).filter Label.isGiven).mapM Label.atom
  return sortBy schemaBefore (← given.mapM Label.letters).eraseDups

def takenConstants (c : Config) (made : List SchemaConstant) : List Label :=
  c.defaultBucket :: made.map (·.name)

def addConstants (c : Config) (made : List SchemaConstant) :
    List String → Except Fault (List SchemaConstant)
  | [] => .ok made
  | s :: rest =>
    do
      if (← c.isDefaultSchema (.str s)) || made.any (fun k => sameSchema k.schema s) then
        addConstants c made rest
      else
        let base ← c.schemaName s
        let name ← Naming.freeLabel base (takenConstants c made).contains
        addConstants c (made ++ [⟨name, s⟩]) rest

def schemaConstants (c : Config) (m : ResolvedModel) : Except Fault (List SchemaConstant) := do
  discard c.defaultBucket.atom
  addConstants c [] (← sortedSchemas m)

def constantBefore (a b : SchemaConstant) : Bool :=
  decide (a.name.display < b.name.display) ||
    (a.name.display == b.name.display && decide (a.schema ≤ b.schema))

/-- The constants by name; names that are no texts have no order among others. -/
def sortedConstants (c : Config) (m : ResolvedModel) : Except Fault (List SchemaConstant) := do
  let made ← schemaConstants c m
  if 1 < made.length then made.forM fun k => discard k.name.text
  return sortBy constantBefore made

/-- The name of a schema's constant; a schema that is not in use is named as it would be alone. -/
def constantName (c : Config) (m : ResolvedModel) (schema : Label) : Except Fault Label := do
  if ← c.isDefaultSchema schema then return c.defaultBucket
  else
    let schema ← schema.letters
    let alone ← c.schemaName schema
    let made ← schemaConstants c m
    return ((made.find? fun k => sameSchema k.schema schema).map (·.name)).getD alone

def constantReference (c : Config) (m : ResolvedModel) (schema : Label) : Except Fault String :=
  (constantName c m schema).map fun name => c.schemaClassName ++ "." ++ name.display

/-- The class of all constants, the default one first; here every name must be a text. -/
def schemaUnit (c : Config) (m : ResolvedModel) : Except Fault SchemaConstants := do
  let made ← sortedConstants c m
  let first := (← c.defaultBucket.text, c.defaultSchema.display)
  return ⟨first :: (← made.mapM fun k => do return (← k.name.text, k.schema))⟩

end EntityScaffold.Emission
