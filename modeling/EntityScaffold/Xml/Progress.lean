import EntityScaffold.Xml.Name

/-!
How far reading has come, besides the place in the text. What is amiss in a document either ends
reading or is kept as a finding, and the document is taken when the last finding is no error.
Entities count the bytes that they stand for, so that a small document cannot stand for a huge one.
-/
namespace EntityScaffold.Xml

inductive Finding where
  | warning
  | error
  deriving DecidableEq, Repr

structure Findings where
  warnings : Nat := 0
  errors : Nat := 0
  endInError : Bool := false
  deriving DecidableEq, Repr

namespace Findings

def limit : Nat := 100

def add (fs : Findings) : Finding → Findings
  | .warning =>
    if fs.warnings < limit then
      { fs with warnings := fs.warnings + 1, endInError := false }
    else fs
  | .error =>
    if fs.errors < limit then { fs with errors := fs.errors + 1, endInError := true } else fs

end Findings

inductive EntityValue where
  | internal (text : List Char)
  | external
  | unparsed
  deriving DecidableEq, Repr

/-- What the text of an entity was first read as. -/
inductive EntityUse where
  | content
  | value
  deriving DecidableEq, Repr

/-- Parameters and all other entities have names of their own. -/
structure EntityKey where
  isParameter : Bool
  name : List Char
  deriving DecidableEq, Repr

structure Entity where
  value : EntityValue
  firstUse : Option EntityUse := none
  /-- Whether its size is settled. -/
  isCounted : Bool := false
  /-- Whether it is known to be fit for values. -/
  isFit : Bool := false
  size : Nat := 0
  deriving DecidableEq, Repr

/-- What the value of an attribute is made of. -/
inductive AttributeType where
  | text
  | identifier
  | name
  | names
  | token
  | tokens
  deriving DecidableEq, Repr

structure AttributeRule where
  element : List Char
  name : List Char
  type : AttributeType
  deriving DecidableEq, Repr

structure Progress where
  standalone : Bool
  findings : Findings := {}
  entities : List (EntityKey × Entity) := []
  /-- Set when declarations may stand outside the text at hand. -/
  isOpen : Bool := false
  inSubset : Bool := false
  rules : List AttributeRule := []
  elements : List (List Char) := []
  notations : List (List Char) := []
  identifiers : List (List Char) := []
  /-- How much the entities come to that the document itself refers to. -/
  size : Nat := 0

/-- Where reading is: in the document itself, or in the text of an entity. -/
structure Place where
  entity : Option EntityKey := none
  /-- How many texts are open, this one included. -/
  depth : Nat := 1
  /-- How many elements are open outside this text. -/
  nesting : Nat := 0
  /-- The length of this text in bytes. -/
  size : Nat

abbrev Scan := ReaderT Place (StateT Progress Option)

namespace Scan

def find (f : Finding) : Scan Unit :=
  modify fun p => { p with findings := p.findings.add f }

def warn : Scan Unit := find .warning

/-- Notes an error that does not end reading. -/
def err : Scan Unit := find .error

def entity? (key : EntityKey) : Scan (Option Entity) := do return (← get).entities.lookup key

def setEntity (key : EntityKey) (e : Entity) : Scan Unit :=
  modify fun p =>
    { p with entities := p.entities.map fun x => if x.1 = key then (key, e) else x }

def use (key : EntityKey) (as : EntityUse) : Scan Unit := do
  match ← entity? key with
  | some e => setEntity key { e with firstUse := some as }
  | none => return

/-- Declares an entity; the first declaration of a name counts. -/
def declare (key : EntityKey) (value : EntityValue) : Scan Unit := do
  if (← entity? key).isNone then
    modify fun p => { p with entities := p.entities ++ [(key, { value := value })] }

/-- A name that nothing declares: it may be declared elsewhere, or reading ends. -/
def undeclared : Scan Unit := do
  let p ← get
  guard (p.isOpen && !p.standalone)
  warn

/-- From here on names may be declared elsewhere. -/
def openUp : Scan Unit := modify fun p => { p with isOpen := true }

/-- What a reference counts on top of the text it stands for. -/
def referenceCost : Nat := 20

def sizeLimit : Nat := 1000000

/-- How many bytes may be stood for by each byte that was read. -/
def growthLimit : Nat := 5

/-- Ends reading when a size is too large for what was read; `rest` is still to be read. -/
def checkSize (size : Nat) (rest : List Char) : Scan Unit := do
  if sizeLimit < size then
    let place ← read
    guard (size / growthLimit ≤ place.size - byteLength rest)

/-- Counts a reference to something of a size. The size of an entity that is settled stays. -/
def charge (size : Nat) (rest : List Char) : Scan Unit := do
  match (← read).entity with
  | none =>
    let total := (← get).size + size + referenceCost
    modify fun p => { p with size := total }
    checkSize total rest
  | some key =>
    match ← entity? key with
    | none => return
    | some e =>
      if !e.isCounted then
        let total := e.size + size + referenceCost
        setEntity key { e with size := total }
        checkSize total rest

def inEntity (key : EntityKey) (text : List Char) (nesting : Nat) (scan : Scan α) : Scan α :=
  withReader (fun place => ⟨some key, place.depth + 1, nesting, byteLength text⟩) scan

/-- Counts a reference to an entity whose text has been read; the first time settles its size. -/
def settle (key : EntityKey) (text rest : List Char) : Scan Unit := do
  match ← entity? key with
  | none => return
  | some e =>
    let size := if e.isCounted then e.size else e.size + byteLength text
    setEntity key { e with size := size, isCounted := true }
    charge size rest

def depthLimit : Nat := 20

def depthLeft : Scan Nat := do return depthLimit - (← read).depth

end Scan

end EntityScaffold.Xml
