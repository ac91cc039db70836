import EntityScaffold.CommandLine.Session
import EntityScaffold.Moment
import Std.Time.DateTime.Timestamp

/-!
The program. A command runs on a tree that holds what stands on the disk at every place that can
matter to it; what it has put into the tree is then stored. Which places its artifacts take is
found by running it once for nothing.
-/
namespace EntityScaffold.CommandLine

def Arguments.places (a : Arguments) : List Place :=
  (a.settingsFile?.toList ++ a.words.filterMap (·.text?)).flatMap fun word =>
    (Path.ofString word).route

def nodeOnDisk (place : Place) : IO (Option Node) := do
  match ← (IO.FS.realPath place.text).toBaseIO with
  | .error _ => return none
  | .ok found =>
    if ← found.isDir then return some .folder
    return some (.file (← IO.FS.readBinFile found))

def treeOnDisk (places : List Place) : IO FileTree :=
  places.foldlM (fun t place => do
    match ← nodeOnDisk place with
    | some node => return t.put place node
    | none => return t) .empty

/-- Stores a node, unless the disk is known to hold it already. -/
def storeNode (known : FileTree) (place : Place) (node : Node) : IO Unit :=
  match known.node? place, node with
  | some .folder, .folder => pure ()
  | some (.file old), .file new => do
    if old.data != new.data then IO.FS.writeBinFile place.text new
  | _, .folder => IO.FS.createDirAll place.text
  | _, .file new => IO.FS.writeBinFile place.text new

/-- Stores a tree, older entries first, so that a folder comes before what is in it. -/
def storeTree (known changed : FileTree) : IO Unit :=
  changed.entries.reverse.forM fun e => storeNode known e.1 e.2

def clockNow : IO String := do
  let seconds := (← Std.Time.Timestamp.now).toSecondsSinceUnixEpoch.toInt.toNat
  let moment : Moment :=
    { year := 1, month := 1, day := 1, hour := (seconds / 3600 % 24 : Nat),
      minute := (seconds / 60 % 60 : Nat), second := (seconds % 60 : Nat) }
  return moment.clockText

def report (s : Session) (ending : Ending) : IO UInt32 := do
  s.notices.forM fun n => IO.eprintln (n.level.title ++ " " ++ n.message)
  (s.lines.flatMap (·.plain)).forM IO.println
  match ending with
  | .ok code => return UInt32.ofNat code
  | .error f => do
    IO.eprintln f.message
    return 1

def helpLines : List String :=
  ["usage: " ++ programName ++ " [switches] " ++ " ".intercalate Arguments.wordNames] ++
    Switch.all.map fun s => "  " ++ s.title

def refuse : Refusal → IO UInt32
  | .usage flaw => do
    IO.eprintln (usageError flaw)
    return 2
  | .version => do
    IO.print versionText
    return 0
  | .help => do
    helpLines.forM IO.println
    return 0

def sessionOn (tree : FileTree) : Session := { tree := tree, console := .marked }

def perform (a : Arguments) : IO UInt32 := do
  let clock ← clockNow
  let (rehearsed, _) := (sessionOn (← treeOnDisk a.places)).command a clock
  let known ← treeOnDisk (a.places ++ rehearsed.tree.entries.map Prod.fst)
  let (s, ending) := (sessionOn known).command a clock
  storeTree known s.tree
  report s ending

def answer (texts : List String) : IO UInt32 :=
  match Arguments.parse texts with
  | .ok a => perform a
  | .error r => refuse r

end EntityScaffold.CommandLine

def main (args : List String) : IO UInt32 := EntityScaffold.CommandLine.answer args
