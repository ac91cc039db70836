import EntityScaffold.Files.FileError
import EntityScaffold.Files.Path
import EntityScaffold.Sorting

/-!
A tree of folders and files, kept as one entry for each place in it. A place is the list of names
that leads there from the working folder; places outside begin with the parts that lead out, whose
folders are always there. Steps on the tree may fail, and what they did before stays done. What a tree
allows, the device that it is on may still refuse, or break off while it is done.
-/
namespace EntityScaffold

abbrev Place := List String

inductive Node where
  | folder
  | file (content : ByteArray)

/-- What comes of a write that has a place: all of it is done, it does not begin, or it breaks off
when the file has been emptied and has its first bytes again. -/
inductive WriteEnd where
  | done
  | refused (reason : String)
  | brokenOff (length : Nat) (reason : String)

/-- What a device answers to a change, by how many there were before it: why it refuses a folder, if
it does, and what comes of a write. -/
structure Device where
  folderRefusal? : Nat → Place → Option String
  writeEnd : Nat → Place → ByteArray → WriteEnd

def Device.sound : Device := ⟨fun _ _ => none, fun _ _ _ => .done⟩

structure FileTree where
  entries : List (Place × Node)
  device : Device := .sound
  changes : Nat := 0

abbrev Disk (ε : Type) := ExceptT ε (StateM FileTree)

def Place.outermost : Place := ["/"]

def Place.isStanding (place : Place) : Bool := place.all (· == Path.up) || place == outermost

def Place.isInside (place : Place) : Bool :=
  place.head? != some Path.up && place.head? != some "/"

def Place.text (place : Place) : String := "/".intercalate place

def Place.above (place : Place) : Place :=
  if place = outermost then outermost
  else if place.all (· == Path.up) then place ++ [Path.up]
  else place.dropLast

def Place.next (place : Place) (part : String) : Place :=
  if part = Path.up then place.above else place ++ [part]

/-- The places that parts go through from a folder, both ends included. -/
def Place.route (place : Place) : List String → List Place
  | [] => [place]
  | part :: rest => place :: (place.next part).route rest

def Path.start (p : Path) : Place := if p.isAbsolute then Place.outermost else []

def Path.route (p : Path) : List Place := p.start.route p.parts

namespace FileTree

def empty : FileTree := { entries := [] }

instance : Inhabited FileTree := ⟨empty⟩

def node? (t : FileTree) (place : Place) : Option Node :=
  if place.isStanding then some .folder else t.entries.lookup place

def put (t : FileTree) (place : Place) (node : Node) : FileTree :=
  { t with
    entries := (place, node) :: t.entries.filter fun e => e.1 != place
    changes := t.changes + 1 }

def nameLimit : Nat := 255

def pathLimit : Nat := 4095

/-- Goes on from a folder; what is gone through must be a folder, what is reached need not exist. -/
def walk (t : FileTree) (place : Place) : List String → Except FileProblem Place
  | [] => .ok place
  | part :: rest =>
    match t.node? place with
    | none => .error .absent
    | some (.file _) => .error .notDirectory
    | some .folder =>
      if part.utf8ByteSize ≤ nameLimit then t.walk (place.next part) rest
      else .error .nameTooLong

def place? (t : FileTree) (p : Path) : Except FileProblem Place :=
  if p.text.contains '\x00' then .error .zeroCharacter
  else if p.text.utf8ByteSize ≤ pathLimit then t.walk p.start p.parts
  else .error .nameTooLong

/-- What a path leads to, if there is anything; too long a name is not looked up at all. -/
def find? (t : FileTree) (p : Path) : Except FileError (Option Node) :=
  match t.place? p with
  | .ok place => .ok (t.node? place)
  | .error .nameTooLong => .error ⟨.nameTooLong, p.text⟩
  | .error _ => .ok none

def isFolder (t : FileTree) (p : Path) : Bool :=
  match t.find? p with
  | .ok (some .folder) => true
  | _ => false

def read (t : FileTree) (p : Path) : Except FileError ByteArray :=
  match t.place? p with
  | .error problem => .error ⟨problem, p.text⟩
  | .ok place =>
    match t.node? place with
    | some (.file content) => .ok content
    | some .folder => .error ⟨.isDirectory, p.text⟩
    | none => .error ⟨.absent, p.text⟩

def filePlace? (t : FileTree) (p : Path) : Except FileError Place :=
  match t.place? p with
  | .error problem => .error ⟨problem, p.text⟩
  | .ok place =>
    match t.node? place with
    | some .folder => .error ⟨.isDirectory, p.text⟩
    | _ => .ok place

def write (t : FileTree) (p : Path) (content : ByteArray) : Except FileError Unit × FileTree :=
  match t.filePlace? p with
  | .error e => (.error e, t)
  | .ok place =>
    match t.device.writeEnd t.changes place content with
    | .done => (.ok (), t.put place (.file content))
    | .refused reason => (.error ⟨.denied reason, p.text⟩, t)
    | .brokenOff length reason =>
      (.error ⟨.brokenOff reason, p.text⟩, t.put place (.file (content.extract 0 length)))

def makeFolder (t : FileTree) (p : Path) : Except FileProblem FileTree :=
  match t.place? p with
  | .error problem => .error problem
  | .ok place =>
    match t.node? place with
    | some _ => .error .exists
    | none =>
      match t.device.folderRefusal? t.changes place with
      | some reason => .error (.denied reason)
      | none => .ok (t.put place .folder)

def files (t : FileTree) : List (Place × ByteArray) :=
  t.entries.filterMap fun e =>
    match e.2 with
    | .file content => if e.1.isInside then some (e.1, content) else none
    | .folder => none

def folders (t : FileTree) : List Place :=
  t.entries.filterMap fun e =>
    match e.2 with
    | .folder => if e.1.isInside then some e.1 else none
    | .file _ => none

def sortedFolders (t : FileTree) : List String := sortTexts (t.folders.map Place.text)

def sortedFiles (t : FileTree) : List (String × ByteArray) :=
  sortBy (fun a b => decide (a.1 ≤ b.1)) (t.files.map fun f => (f.1.text, f.2))

end FileTree

namespace Disk

variable {ε : Type}

def ensureOne (p : Path) : Disk FileError Unit := do
  let t ← get
  match t.makeFolder p with
  | .ok changed => set changed
  | .error problem => if t.isFolder p then pure () else throw ⟨problem, p.text⟩

def ensureFolder (p : Path) : Disk FileError Unit := do
  let t ← get
  match t.makeFolder p with
  | .error .absent =>
    if _h : p.parts = [] then throw ⟨.absent, p.text⟩
    else do
      ensureFolder p.parent
      ensureOne p
  | _ => ensureOne p
termination_by p.parts.length
decreasing_by exact Path.length_parent_lt _h

def writeFile (p : Path) (content : ByteArray) : Disk FileError Unit :=
  ExceptT.mk (modifyGet fun t => t.write p content)

def writeBelow (p : Path) (content : ByteArray) : Disk FileError Unit := do
  ensureFolder p.parent
  writeFile p content

end Disk

def FileTree.ofContents (files : List (String × String)) (folders : List String) : FileTree :=
  let steps : Disk FileError Unit := do
    folders.forM fun f => Disk.ensureFolder (.ofString f)
    files.forM fun f => Disk.writeBelow (.ofString f.1) f.2.toUTF8
  (steps.run.run .empty).2

end EntityScaffold
