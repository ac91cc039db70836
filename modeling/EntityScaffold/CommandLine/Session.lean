import EntityScaffold.CommandLine.Arguments
import EntityScaffold.CommandLine.Console
import EntityScaffold.Files.Output
import EntityScaffold.Run
import EntityScaffold.Settings.File
import EntityScaffold.Settings.Warnings

/-!
Sessions: runs that report on a console and write their artifacts to a file tree. A session counts
the artifacts of all its runs. A dry run lists artifacts and leaves the tree alone. A fault of the
run or of the tree ends a run with a message; what was written before it stays. A line that the
console refuses ends a run without one, wherever it was to be told, the message itself included.
-/
namespace EntityScaffold.CommandLine
open Source

structure RunFlags where
  dryRun : Bool := false
  verbose : Bool := false
  deriving DecidableEq, Repr

structure Session where
  tree : FileTree
  written : List Artifact := []
  lines : List ConsoleLine := []
  notices : List Notice := []
  console : Console := .willing

abbrev Progress := Session × Option Fault

def Progress.next (x : Progress) (step : Session → Progress) : Progress :=
  match x with
  | (s, none) => step s
  | (s, some f) => (s, some f)

/-- How a run of a session ends: with an exit code, or with a fault that is not reported. -/
abbrev Ending := Except Fault Nat

def Progress.close (code : Nat) : Progress → Session × Ending
  | (s, none) => (s, .ok code)
  | (s, some f) => (s, .error f)

namespace Session

/-- Tells the console lines until it refuses one. -/
def tell (s : Session) (lines : List ConsoleLine) : Progress :=
  let heard := s.console.hear s.lines lines
  ({ s with lines := heard.1 }, heard.2)

def note (s : Session) (n : Notice) : Session := { s with notices := s.notices ++ [n] }

def eventLine (clock : String) (e : RunEvent) : String := "[dim]" ++ clock ++ "[/dim] " ++ e.message

def artifactLine (a : Artifact) : String := "  [green]✓[/green] " ++ a.path

def keep (flags : RunFlags) (s : Session) (a : Artifact) : Progress :=
  (s.tell (if flags.verbose || flags.dryRun then [.text (artifactLine a)] else [])).next fun s =>
    ({ s with written := s.written ++ [a] }, none)

/-- Only what a system refuses is noted. -/
def noteWrite (f : Fault) (s : Session) : Session :=
  if f.isReported then s.note (.writeFailed f.message) else s

def store (root : Path) (s : Session) (a : Artifact) : Progress :=
  match (writeArtifact root a.path (.str a.content)).run.run s.tree with
  | (.ok _, tree) => ({ s with tree := tree }, none)
  | (.error f, tree) => ({ s with tree := tree }.noteWrite f, some f)

def take (flags : RunFlags) (root : Except Fault Path) (s : Session) (a : Artifact) : Progress :=
  if flags.dryRun then s.keep flags a
  else
    match root with
    | .error f => (s, some f)
    | .ok root => (s.store root a).next (·.keep flags a)

/-- Follows a run until it ends, an artifact cannot be written or a line is refused. -/
def follow (flags : RunFlags) (clock : String) (root : Except Fault Path) (s : Session) :
    List (Step RunItem) → Progress
  | [] => (s, none)
  | .notice n :: rest => (s.note n).follow flags clock root rest
  | .item (.event e) :: rest =>
    (s.tell [.text (eventLine clock e)]).next fun s => s.follow flags clock root rest
  | .item (.artifact a) :: rest => (s.take flags root a).next fun s => s.follow flags clock root rest

def prepare (flags : RunFlags) (c : Config) (s : Session) : Progress :=
  if flags.dryRun then (s, none)
  else
    match (prepareDestination c).run.run s.tree with
    | (.ok _, tree) => ({ s with tree := tree }, none)
    | (.error f, tree) => ({ s with tree := tree }, some f)

def perform (flags : RunFlags) (clock : String) (c : Config) (s : Session) : Progress :=
  (s.prepare flags c).next fun s =>
    let x := runSource c s.tree
    (s.follow flags clock (destinationPath c) x.steps).next fun s => (s, x.stopped)

def failureLine (f : Fault) : String := "[red]✗ Error:[/red] " ++ f.message

def writtenLine (count : Nat) : String :=
  "[yellow]⚠️  " ++ toString count ++ " artifacts were written before the failure[/yellow]"

def failureReport (flags : RunFlags) (f : Fault) (s : Session) : List ConsoleLine :=
  .text (failureLine f) ::
    if s.written.isEmpty || flags.dryRun then [] else [.text (writtenLine s.written.length)]

def kindCount (written : List Artifact) (k : ArtifactKind) : Nat :=
  written.countP fun a => a.kind == k

/-- A row for each kind in the order of its first artifact, and the total. -/
def summaryRows (written : List Artifact) : List (List String) :=
  ((written.map (·.kind)).eraseDups.map fun k => [k.text, toString (kindCount written k)]) ++
    [["[bold]total[/bold]", "[bold]" ++ toString written.length ++ "[/bold]"]]

def summaryTitle (flags : RunFlags) : String :=
  if flags.dryRun then "📊 Artifacts (dry run)" else "📊 Generated Artifacts"

def successReport (flags : RunFlags) (s : Session) : List ConsoleLine :=
  [.text "", .table (summaryTitle flags) ["Kind", "Files"] (summaryRows s.written)]

def finish (flags : RunFlags) : Progress → Session × Ending
  | (s, none) => (s.tell (s.successReport flags)).close 0
  | (s, some f) =>
    if f.isReported then (s.tell (s.failureReport flags f)).close 1 else (s, .error f)

def headerLines (settings : Settings) : List ConsoleLine :=
  [.text ("📄 Source: [cyan]" ++ settings.shownValue .sourcePath ++ "[/cyan]"),
    .text ("📁 Destination: [cyan]" ++ settings.shownValue .destinationRoot ++ "[/cyan]")]

def run (settings : Settings) (flags : RunFlags) (clock : String) (s : Session) :
    Session × Ending :=
  finish flags <| (s.tell (headerLines settings)).next fun s =>
    s.perform flags clock (.ofSettings settings)

def warningLine (w : SettingsWarning) : ConsoleLine := .text ("  [yellow]•[/yellow] " ++ w.message)

def refuseSettings (f : Fault) (s : Session) : Session × Ending :=
  if f.isReported then
    (s.tell [.text ("[red]✗ Configuration error:[/red] " ++ f.message)]).close 1
  else (s, .error f)

def command (a : Arguments) (clock : String) (s : Session) : Session × Ending :=
  match Settings.load s.tree a.settingsFile? a.layer with
  | .error f => s.refuseSettings f
  | .ok settings =>
    match settings.warnings with
    | .error f => (s, .error f)
    | .ok warnings =>
      match s.tell (warnings.map warningLine) with
      | (s, none) => s.run settings ⟨a.has .dryRun, a.has .verbose⟩ clock
      | (s, some f) => (s, .error f)

end Session

end EntityScaffold.CommandLine
