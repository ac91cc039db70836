import EntityScaffold.Config
import EntityScaffold.Fault
import EntityScaffold.Files.FileTree

/-!
Where artifacts go. The destination gets its folders for the default schema before a run, one below
each top folder of an enabled kind, and an artifact makes the folders it still lacks.
-/
namespace EntityScaffold

def bucketedFolders (c : Config) : List String :=
  (if c.emitDomainModels then ["Domain"] else []) ++
  (if c.emitMappingConfiguration then ["Configuration"] else []) ++
  (if c.emitRepositories then ["IRepositories", "Repositories"] else [])

def destinationPath (c : Config) : Except Fault Path := (Label.text c.destinationRoot).map .ofString

def destinationFolders (c : Config) : Except Fault (List Path) := do
  let root ← destinationPath c
  let below ← (bucketedFolders c).mapM fun f => do
    return (root.join (.ofString f)).join (.ofString (← Label.text c.defaultBucket))
  return root :: below

/-- The fault of a step on the disk; no system is asked about a path that it would not take. -/
def diskFault (fault : FileError → Fault) (e : FileError) : Fault :=
  if e.problem = .zeroCharacter then .unusablePath e.path else fault e

def makeOutputFolder (p : Path) : Disk Fault Unit :=
  ExceptT.adapt (diskFault (.folder p.text)) (Disk.ensureFolder p)

def prepareDestination (c : Config) : Disk Fault (List Path) := do
  match destinationFolders c with
  | .error f => throw f
  | .ok folders =>
    folders.forM makeOutputFolder
    return folders

def artifactPath (root : Path) (path : String) : Path := root.join (.ofString path)

/-- Writes an artifact's text below a root. What is no text is refused once there is a folder. -/
def writeArtifact (root : Path) (path : String) (content : Label) : Disk Fault Unit :=
  let p := artifactPath root path
  let refused := diskFault (.write p.text)
  match content.text with
  | .ok text => ExceptT.adapt refused (Disk.writeBelow p text.toUTF8)
  | .error f => do
    ExceptT.adapt refused (Disk.ensureFolder p.parent)
    throw f

end EntityScaffold
