import EntityScaffold.Files.FileTree
import EntityScaffold.Json.Printer
import EntityScaffold.Json.Reader
import EntityScaffold.Settings.Layers
import EntityScaffold.Text.Case

/-!
Settings files. A file is looked for first, must then have the right extension, and must hold one
object.
-/
namespace EntityScaffold.Settings

def fileSuffix : String := ".json"

/-- Bytes that are no text are not reported as a flaw of the settings. -/
def readContent (p : Path) (content : ByteArray) : Except Fault SettingLayer :=
  match (String.fromUTF8? content).map Json.parse with
  | none => .error (.notText p.text)
  | some (.ok (.obj fields)) => .ok fields
  | some (.ok _) => .error (.settings (.fileNotObject p.text))
  | some (.error .oversized) => .error .oversizedNumber
  | some (.error .malformed) => .error (.settings .fileMalformed)

def readFile (t : FileTree) (p : Path) : Except Fault SettingLayer :=
  match t.find? p with
  | .error e => .error (.unreachable e)
  | .ok none => .error (.settings (.fileMissing p.text))
  | .ok (some _) =>
    if Text.lower p.suffix ≠ fileSuffix then .error (.settings (.fileNotJson p.text))
    else
      match t.read p with
      | .ok content => readContent p content
      | .error e => .error (.settings (.fileUnreadable p.text e))

/-- The layer of a file; an empty name stands for no file. -/
def fileLayer (t : FileTree) (file : Option String) : Except Fault SettingLayer :=
  match file with
  | none | some "" => .ok []
  | some name => readFile t (.ofString name)

def load (t : FileTree) (file : Option String) (custom : SettingLayer) : Except Fault Settings := do
  (ofLayers (← fileLayer t file) custom).mapError .settings

def savedText (s : Settings) : String := s.record.pretty 0

def saveFault (p : Path) (e : FileError) : Fault :=
  if e.problem = .zeroCharacter then .unusablePath p.text else .settings (.unsaved p.text e)

def save (s : Settings) (file : String) : Disk Fault Unit :=
  let p := Path.ofString file
  ExceptT.adapt (saveFault p) (Disk.writeFile p s.savedText.toUTF8)

end EntityScaffold.Settings
