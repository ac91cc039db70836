import EntityScaffold.Xml.Reference

/-!
Values of attributes. Every blank of a value becomes a space. A reference to an entity stays in the
value until reading has shown that the entity is fit for it: that nothing in its text, nor in what
that leads to, is markup. The text of an entity keeps its blanks, save in the name of a namespace.
-/
namespace EntityScaffold.Xml

inductive ValuePart where
  | character (c : Char)
  | reference (name : List Char)
  deriving DecidableEq, Repr

def ValuePart.text : ValuePart → List Char
  | .character c => [c]
  | .reference name => '&' :: name ++ [';']

def ValuePart.isCharacter : ValuePart → Bool
  | .character _ => true
  | .reference _ => false

def keptText (parts : List ValuePart) : List Char := parts.flatMap ValuePart.text

/-- How a value is read: whether spaces side by side count as one and those at its ends not at all,
and whether the text of entities takes the place of references at once. -/
structure ValueForm where
  collapses : Bool := false
  expands : Bool := false
  deriving DecidableEq, Repr

/-! What an entity in a value comes to. -/

def referredSize (sizeOf : List Char → Scan Nat) : Nat → Nat → List Char → Scan Nat
  | 0, total, _ => return total
  | _ + 1, total, [] => return total
  | _ + 1, _, '<' :: _ => failure
  | steps + 1, total, '&' :: rest => do
    let (r, rest) ← reference? rest
    match r with
    | .character _ | .predefined _ => referredSize sizeOf steps total rest
    | .entity name =>
      match ← referent name true with
      | .text _ => do
        let size ← sizeOf name
        referredSize sizeOf steps (total + size + Scan.referenceCost) rest
      | _ => referredSize sizeOf steps total rest
  | steps + 1, total, _ :: rest => referredSize sizeOf steps total rest

/-- Notes that an entity is fit; while declarations are read, sizes are not settled. -/
def settleFit (key : EntityKey) (size : Nat) : Scan Nat := do
  match ← Scan.entity? key with
  | none => return 0
  | some e =>
    if (← get).inSubset then
      Scan.setEntity key { e with isFit := true }
      return e.size
    else
      Scan.setEntity key { e with isFit := true, isCounted := true, size := size }
      return size

def isKnownFit (e : Entity) : Scan Bool := do return e.isFit && (e.isCounted || (← get).inSubset)

def fitSize : Nat → List Char → Scan Nat
  | depth, name => do
    match ← Scan.entity? (generalKey name) with
    | none => return 0
    | some e =>
      if ← isKnownFit e then return e.size
      else
        match depth, e.value with
        | 0, _ => failure
        | depth + 1, .internal text => do
          let size ← referredSize (fitSize depth) (text.length + 1) (byteLength text) text
          settleFit (generalKey name) size
        | _ + 1, _ => return 0

/-! Reading a value. -/

/-- A value read so far, last part first, and whether a space would add nothing. -/
structure ValueSoFar where
  parts : List ValuePart := []
  afterSpace : Bool := true

namespace ValueSoFar

def add (v : ValueSoFar) (p : ValuePart) : ValueSoFar := ⟨p :: v.parts, false⟩

def addSpace (form : ValueForm) (v : ValueSoFar) : ValueSoFar :=
  if form.collapses && v.afterSpace then v else ⟨.character ' ' :: v.parts, true⟩

/-- A character that was written as a reference; only a space is like one that was not. -/
def addCharacter (form : ValueForm) (v : ValueSoFar) (c : Char) : ValueSoFar :=
  if c = ' ' then v.addSpace form else v.add (.character c)

def finish (form : ValueForm) (v : ValueSoFar) : List ValuePart :=
  match v.parts with
  | .character ' ' :: rest =>
    if form.collapses && v.afterSpace then rest.reverse else v.parts.reverse
  | parts => parts.reverse

end ValueSoFar

/-- Puts the text of an entity into a value; `expand` does so for the entities in it. -/
def expandText (form : ValueForm)
    (expand : List Char → List Char → ValueSoFar → Scan ValueSoFar) :
    Nat → ValueSoFar → List Char → Scan ValueSoFar
  | 0, v, _ => return v
  | _ + 1, v, [] => return v
  | _ + 1, _, '<' :: _ => failure
  | steps + 1, v, '&' :: rest => do
    let (r, rest) ← reference? rest
    match r with
    | .character c => expandText form expand steps (v.addCharacter form c) rest
    | .predefined c => expandText form expand steps (v.add (.character c)) rest
    | .entity name =>
      match ← referent name true with
      | .text text => do
        let v ← expand name text v
        expandText form expand steps v rest
      | _ => expandText form expand steps v rest
  | steps + 1, v, c :: rest =>
    expandText form expand steps (if isSpace c then v.addSpace form else v.add (.character c)) rest

def expandEntity (form : ValueForm) (after : List Char) :
    Nat → List Char → List Char → ValueSoFar → Scan ValueSoFar
  | 0, _, _, _ => failure
  | depth + 1, _, text, v => do
    Scan.charge (byteLength text) after
    expandText form (expandEntity form after depth) (text.length + 1) v text

def addReference (form : ValueForm) (v : ValueSoFar) (r : Reference) (after : List Char) :
    Scan ValueSoFar := do
  match r with
  | .character c => return v.addCharacter form c
  | .predefined c => return v.add (.character c)
  | .entity name =>
    match ← referent name true with
    | .text text =>
      if form.expands then expandEntity form after (← Scan.depthLeft) name text v
      else
        let size ← fitSize (← Scan.depthLeft) name
        Scan.charge size after
        return v.add (.reference name)
    | _ => return v

def valueUpTo (form : ValueForm) (quote : Char) :
    Nat → ValueSoFar → List Char → Scan (List ValuePart × List Char)
  | 0, _, _ => failure
  | _ + 1, _, [] => failure
  | steps + 1, v, c :: rest =>
    if c = quote then return (v.finish form, rest)
    else
      match c, rest with
      | '<', _ => failure
      | '&', rest => do
        let (r, rest) ← reference? rest
        let v ← addReference form v r rest
        valueUpTo form quote steps v rest
      | '\r', '\n' :: rest => valueUpTo form quote steps (v.addSpace form) rest
      | c, rest =>
        valueUpTo form quote steps
          (if isSpace c then v.addSpace form else v.add (.character c)) rest

def value (form : ValueForm) (steps : Nat) : List Char → Scan (List ValuePart × List Char)
  | q :: rest => if isQuote q then valueUpTo form q steps {} rest else failure
  | [] => failure

/-! The text of a value. -/

def replaced (entity : List Char → List Char) : Nat → List Char → List Char
  | 0, _ => []
  | _ + 1, [] => []
  | steps + 1, '&' :: rest =>
    match reference? rest with
    | none => []
    | some (.character c, rest) | some (.predefined c, rest) => c :: replaced entity steps rest
    | some (.entity name, rest) => entity name ++ replaced entity steps rest
  | steps + 1, c :: rest => c :: replaced entity steps rest

/-- The text that an entity has in values. One that was content before has its lines unified. -/
def entityText (entities : List (EntityKey × Entity)) : Nat → List Char → List Char
  | 0, _ => []
  | depth + 1, name =>
    match entities.lookup (generalKey name) with
    | some e =>
      match e.value with
      | .internal text =>
        let text := if e.firstUse = some .content then unifyLines text else text
        replaced (entityText entities depth) (text.length + 1) text
      | .external | .unparsed => []
    | none => []

def referredNames : Nat → List Char → List (List Char)
  | 0, _ => []
  | _ + 1, [] => []
  | steps + 1, '&' :: rest =>
    match reference? rest with
    | some (.entity name, rest) => name :: referredNames steps rest
    | some (_, rest) => referredNames steps rest
    | none => []
  | steps + 1, _ :: rest => referredNames steps rest

/-- Notes that an entity has come into a value, and with it those that it leads to. -/
def useInValue : Nat → List Char → Scan Unit
  | 0, _ => return
  | depth + 1, name => do
    match ← Scan.entity? (generalKey name) with
    | some e =>
      match e.firstUse, e.value with
      | none, .internal text =>
        (referredNames (text.length + 1) text).forM (useInValue depth)
        Scan.use (generalKey name) .value
      | _, _ => return
    | none => return

def valueText (parts : List ValuePart) : Scan (List Char) := do
  let depth := (← get).entities.length + 1
  let texts ← parts.mapM fun p => do
    match p with
    | .character c => return [c]
    | .reference name =>
      useInValue depth name
      return entityText (← get).entities depth name
  return texts.flatten

end EntityScaffold.Xml
