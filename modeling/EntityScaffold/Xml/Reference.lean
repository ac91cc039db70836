import EntityScaffold.Xml.Progress

/-!
References: to a character by its number, to one of five characters by name, and to entities. The
names of the five cannot be taken away from them.
-/
namespace EntityScaffold.Xml

def predefined : List (List Char × Char) :=
  [("amp".toList, '&'), ("lt".toList, '<'), ("gt".toList, '>'), ("quot".toList, '\x22'),
    ("apos".toList, '\x27')]

inductive Reference where
  | character (c : Char)
  | predefined (c : Char)
  | entity (name : List Char)
  deriving DecidableEq, Repr

def decimalDigit? (c : Char) : Option Nat :=
  if c.isDigit then some (c.toNat - 48) else none

def hexDigit? (c : Char) : Option Nat :=
  if c.isDigit then some (c.toNat - 48)
  else if 'a' ≤ c && c ≤ 'f' then some (c.toNat - 87)
  else if 'A' ≤ c && c ≤ 'F' then some (c.toNat - 55)
  else none

def number? (base : Nat) (digit? : Char → Option Nat) :
    Option Nat → List Char → Option (Nat × List Char)
  | _, [] => none
  | value, c :: rest =>
    if c = ';' then value.map fun n => (n, rest)
    else (digit? c).bind fun d => number? base digit? (some (value.getD 0 * base + d)) rest

def validChar? (n : Nat) : Option Char :=
  if n < 0x110000 ∧ ¬ (0xD800 ≤ n ∧ n ≤ 0xDFFF) then
    if isChar (Char.ofNat n) then some (Char.ofNat n) else none
  else none

def endedName? (cs : List Char) : Option (List Char × List Char) := do
  let (name, rest) ← name? cs
  return (name, ← word? [';'] rest)

def reference? : List Char → Option (Reference × List Char)
  | '#' :: 'x' :: rest => do
    let (n, rest) ← number? 16 hexDigit? none rest
    return (.character (← validChar? n), rest)
  | '#' :: rest => do
    let (n, rest) ← number? 10 decimalDigit? none rest
    return (.character (← validChar? n), rest)
  | cs => do
    let (name, rest) ← endedName? cs
    match predefined.lookup name with
    | some c => return (.predefined c, rest)
    | none => return (.entity name, rest)

inductive Referent where
  | text (cs : List Char)
  | elsewhere
  | nothing
  deriving DecidableEq, Repr

def generalKey (name : List Char) : EntityKey := ⟨false, name⟩

def parameterKey (name : List Char) : EntityKey := ⟨true, name⟩

/-- Looks an entity up. One that is not parsed is never referred to, and one whose text is elsewhere
not from within a value. -/
def referent (name : List Char) (inValue : Bool) : Scan Referent := do
  match ← Scan.entity? (generalKey name) with
  | none =>
    Scan.undeclared
    return .nothing
  | some e =>
    match e.value with
    | .internal text => return .text text
    | .external =>
      guard !inValue
      return .elsewhere
    | .unparsed => failure

end EntityScaffold.Xml
