import EntityScaffold.Json.Value

/-!
The settings of a run: one value for each key, of whatever form it was given. The keys have a fixed
order, in which settings are written.
-/
namespace EntityScaffold

inductive SettingKey where
  | sourcePath
  | destinationRoot
  | rootNamespace
  | modelName
  | fileExtension
  | emitContext
  | emitDomainModels
  | emitRepositories
  | emitMappingConfiguration
  | defaultSchema
  | defaultSchemaName
  | acronyms
  | suffixWords
  | nameOverrides
  deriving DecidableEq, Repr

namespace SettingKey

def all : List SettingKey :=
  [.sourcePath, .destinationRoot, .rootNamespace, .modelName, .fileExtension, .emitContext,
    .emitDomainModels, .emitRepositories, .emitMappingConfiguration, .defaultSchema,
    .defaultSchemaName, .acronyms, .suffixWords, .nameOverrides]

def text : SettingKey → String
  | .sourcePath => "source_path"
  | .destinationRoot => "destination_root"
  | .rootNamespace => "namespace"
  | .modelName => "model_name"
  | .fileExtension => "file_extension"
  | .emitContext => "emit_context"
  | .emitDomainModels => "emit_domain_models"
  | .emitRepositories => "emit_repositories"
  | .emitMappingConfiguration => "emit_mapping_configuration"
  | .defaultSchema => "default_schema"
  | .defaultSchemaName => "default_schema_name"
  | .acronyms => "acronyms"
  | .suffixWords => "suffix_words"
  | .nameOverrides => "name_overrides"

def isKnown (name : String) : Bool := all.any fun k => k.text == name

def default : SettingKey → Json
  | .sourcePath => .null
  | .destinationRoot => .null
  | .rootNamespace => .str "App.Data"
  | .modelName => .str "AppDb"
  | .fileExtension => .str ".cs"
  | .emitContext => .bool true
  | .emitDomainModels => .bool true
  | .emitRepositories => .bool true
  | .emitMappingConfiguration => .bool true
  | .defaultSchema => .str "dbo"
  | .defaultSchemaName => .str "General"
  | .acronyms => .arr [.str "TMS"]
  | .suffixWords => .arr [.str "Doc"]
  | .nameOverrides => .obj []

theorem mem_all (k : SettingKey) : k ∈ all := by cases k <;> decide

theorem text_injective {a b : SettingKey} (h : a.text = b.text) : a = b := by
  cases a <;> cases b <;> first | rfl | exact absurd h (by decide)

end SettingKey

structure Settings where
  value : SettingKey → Json

namespace Settings

def defaults : Settings := ⟨SettingKey.default⟩

instance : Inhabited Settings := ⟨defaults⟩

def record (s : Settings) : Json := .obj (SettingKey.all.map fun k => (k.text, s.value k))

def overlay (s : Settings) (layer : List (String × Json)) : Settings :=
  ⟨fun k => (layer.lookup k.text).getD (s.value k)⟩

end Settings

end EntityScaffold
