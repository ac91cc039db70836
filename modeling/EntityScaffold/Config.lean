import EntityScaffold.Naming.Normalizer
import EntityScaffold.Settings.Key
import EntityScaffold.Source.Names

/-!
What a run works with: settings in the form that each step needs. A namespace or model name is only
ever shown. Other values are kept as they were given, and a step that needs a text refuses what is
none when it comes to it. Naming rules are refused where the lists they come from are no lists.
-/
namespace EntityScaffold
open Naming

structure Config where
  sourcePath : Label
  destinationRoot : Label
  rootNamespace : String
  modelName : String
  fileExtension : Label
  emitContext : Bool
  emitDomainModels : Bool
  emitRepositories : Bool
  emitMappingConfiguration : Bool
  defaultSchema : Label
  defaultBucket : Label
  naming : Except Fault NamingRules

namespace Settings

def labels (value : Json) : Except Fault (List Label) :=
  if value.truthy then Label.parts value else .ok []

/-- Enters an override that is given as a pair. One for what is no text is never looked up. -/
def addOverride (entered : List (String × Label)) (value : Json) :
    Except Fault (List (String × Label)) := do
  match ← Label.parts value with
  | [name, fixed] =>
    match ← Label.atom name with
    | .str name => return Json.putField name fixed entered
    | _ => return entered
  | _ => throw (.wrongSize value.display)

def overrides (value : Json) : Except Fault (List (String × Label)) :=
  match value with
  | .obj fields => .ok fields
  | other => do (← labels other).foldlM addOverride []

def namingOf (acronyms suffixWords nameOverrides : Json) : Except Fault NamingRules := do
  let acronyms ← labels acronyms
  let suffixWords ← labels suffixWords
  return ⟨acronyms, suffixWords, ← overrides nameOverrides⟩

def naming (s : Settings) : Except Fault NamingRules :=
  namingOf (s.value .acronyms) (s.value .suffixWords) (s.value .nameOverrides)

def contextName (s : Settings) : String := (s.value .modelName).display ++ "Context"

def schemaClassName (s : Settings) : String := "SchemaName" ++ (s.value .modelName).display

def unitNames (s : Settings) : Source.UnitNames :=
  ⟨(s.value .rootNamespace).display, s.contextName, s.schemaClassName⟩

end Settings

namespace Config

def ofSettings (s : Settings) : Config where
  sourcePath := s.value .sourcePath
  destinationRoot := s.value .destinationRoot
  rootNamespace := (s.value .rootNamespace).display
  modelName := (s.value .modelName).display
  fileExtension := s.value .fileExtension
  emitContext := (s.value .emitContext).truthy
  emitDomainModels := (s.value .emitDomainModels).truthy
  emitRepositories := (s.value .emitRepositories).truthy
  emitMappingConfiguration := (s.value .emitMappingConfiguration).truthy
  defaultSchema := s.value .defaultSchema
  defaultBucket := s.value .defaultSchemaName
  naming := s.naming

def contextName (c : Config) : String := c.modelName ++ "Context"

def schemaClassName (c : Config) : String := "SchemaName" ++ c.modelName

def unitNames (c : Config) : Source.UnitNames := ⟨c.rootNamespace, c.contextName, c.schemaClassName⟩

def schemaName (c : Config) (schema : String) : Except Fault Label := do
  (← c.naming).normalize schema false

/-- No schema and the default one, its case apart, are the same. -/
def isDefaultSchema (c : Config) (schema : Label) : Except Fault Bool :=
  if schema.isGiven then do
    return Text.lower (← schema.letters) == Text.lower (← c.defaultSchema.letters)
  else .ok true

def bucket (c : Config) (schema : Label) : Except Fault Label := do
  return if ← c.isDefaultSchema schema then c.defaultBucket else schema

end Config

end EntityScaffold
