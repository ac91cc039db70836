import EntityScaffold.Model.Label
import EntityScaffold.Settings.Key
import EntityScaffold.Text.Identifier

/-!
What may be wrong with settings without keeping a run from starting. Settings that are given but
are no texts cannot be checked.
-/
namespace EntityScaffold

inductive SettingsWarning where
  | rootNamespace (shown : String)
  | modelName (shown : String)
  | fileExtension (shown : String)
  | nothingEnabled
  deriving DecidableEq, Repr

def SettingsWarning.message : SettingsWarning → String
  | .rootNamespace t => s!"Invalid namespace: {t}"
  | .modelName t => s!"Invalid model name: {t}"
  | .fileExtension t => s!"Invalid file extension: {t}"
  | .nothingEnabled => "All artifact kinds are disabled; only schema constants will be generated"

namespace Settings
open Text

def dottedParts : List Char → List (List Char)
  | [] => [[]]
  | c :: rest =>
    if c = '.' then [] :: dottedParts rest
    else
      match dottedParts rest with
      | [] => [[c]]
      | part :: parts => (c :: part) :: parts

def isNamespace (cs : List Char) : Bool := (dottedParts cs).all isIdentifier

def isExtension (cs : List Char) : Bool :=
  match cs with
  | '.' :: rest => (dottedParts rest).all fun part => !part.isEmpty && part.all isWordChar
  | _ => false

def emitKeys : List SettingKey :=
  [.emitContext, .emitDomainModels, .emitRepositories, .emitMappingConfiguration]

def shownValue (s : Settings) (k : SettingKey) : String := (s.value k).display

def characters (l : Label) : Except Fault (List Char) :=
  if l.isGiven then l.letters.map (·.toList) else .ok []

def extensionCharacters (l : Label) : Except Fault (List Char) :=
  if l.isGiven then l.text.map (·.toList) else .ok []

def warnings (s : Settings) : Except Fault (List SettingsWarning) := do
  let rootNamespace ← characters (s.value .rootNamespace)
  let modelName ← characters (s.value .modelName)
  let extension ← extensionCharacters (s.value .fileExtension)
  return (
    (if isNamespace rootNamespace then [] else [.rootNamespace (s.shownValue .rootNamespace)]) ++
    (if isIdentifier modelName then [] else [.modelName (s.shownValue .modelName)]) ++
    (if isExtension extension then [] else [.fileExtension (s.shownValue .fileExtension)]) ++
    (if emitKeys.any fun k => (s.value k).truthy then [] else [.nothingEnabled]))

end Settings

end EntityScaffold
