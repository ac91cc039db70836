import EntityScaffold.Json.Value
import EntityScaffold.Text.Integer
import EntityScaffold.Text.Shortest

/-!
Reading a settings file. The grammar is the usual one with three extra number names; control
characters may not stand in a string, nothing may follow the value, and of two fields with one name
the later value counts. A whole number of too many digits ends the reading where it stands. The depth
of a value is bounded by the length of its text, so that length serves as the bound on the recursion.
-/
namespace EntityScaffold.Json

inductive ReadFlaw where
  | malformed
  | oversized
  deriving DecidableEq, Repr

abbrev Read (α : Type) := Except ReadFlaw (α × List Char)

def isSpace (c : Char) : Bool := c == ' ' || c == '\t' || c == '\n' || c == '\r'

def skipSpace (cs : List Char) : List Char := cs.dropWhile isSpace

def hexValue? (c : Char) : Option Nat :=
  let n := c.toNat
  if 48 ≤ n && n ≤ 57 then some (n - 48)
  else if 97 ≤ n && n ≤ 102 then some (n - 87)
  else if 65 ≤ n && n ≤ 70 then some (n - 55)
  else none

def hexUnit? (a b c d : Char) : Option Nat := do
  let a ← hexValue? a
  let b ← hexValue? b
  let c ← hexValue? c
  let d ← hexValue? d
  return ((a * 16 + b) * 16 + c) * 16 + d

def isHighUnit (n : Nat) : Bool := 0xD800 ≤ n && n ≤ 0xDBFF

def isLowUnit (n : Nat) : Bool := 0xDC00 ≤ n && n ≤ 0xDFFF

def pairedUnits (high low : Nat) : Char :=
  Char.ofNat (0x10000 + (high - 0xD800) * 0x400 + (low - 0xDC00))

/-- A unit on its own; half of a pair has no character and is replaced. -/
def singleUnit (n : Nat) : Char :=
  if isHighUnit n || isLowUnit n then '\uFFFD' else Char.ofNat n

def escapedLetter? : Char → Option Char
  | '\x22' => some '\x22'
  | '\\' => some '\\'
  | '/' => some '/'
  | 'b' => some '\x08'
  | 'f' => some '\x0c'
  | 'n' => some '\n'
  | 'r' => some '\r'
  | 't' => some '\t'
  | _ => none

def consFirst (c : Char) (r : List Char × List Char) : List Char × List Char := (c :: r.1, r.2)

def readString : List Char → Option (List Char × List Char)
  | [] => none
  | '\x22' :: rest => some ([], rest)
  | '\\' :: 'u' :: a :: b :: c :: d :: '\\' :: 'u' :: e :: f :: g :: h :: rest =>
    match hexUnit? a b c d with
    | none => none
    | some n =>
      match hexUnit? e f g h with
      | none => none
      | some m =>
        if isHighUnit n && isLowUnit m then (readString rest).map (consFirst (pairedUnits n m))
        else (readString ('\\' :: 'u' :: e :: f :: g :: h :: rest)).map (consFirst (singleUnit n))
  | '\\' :: 'u' :: a :: b :: c :: d :: rest =>
    match hexUnit? a b c d with
    | none => none
    | some n => (readString rest).map (consFirst (singleUnit n))
  | '\\' :: c :: rest =>
    match escapedLetter? c with
    | none => none
    | some l => (readString rest).map (consFirst l)
  | c :: rest => if c.toNat < 32 then none else (readString rest).map (consFirst c)
termination_by cs => cs.length

def decimalValue (digits : List Char) : Nat :=
  digits.foldl (fun n c => n * 10 + (c.toNat - 48)) 0

def signed (negative : Bool) (n : Nat) : Int := if negative then -(n : Int) else n

def readFraction : List Char → List Char × List Char
  | '.' :: rest =>
    match rest.takeWhile Char.isDigit with
    | [] => ([], '.' :: rest)
    | ds => ('.' :: ds, rest.dropWhile Char.isDigit)
  | rest => ([], rest)

def exponentDigits (head rest all : List Char) : List Char × List Char :=
  match rest.takeWhile Char.isDigit with
  | [] => ([], all)
  | ds => (head ++ ds, rest.dropWhile Char.isDigit)

def readExponent (cs : List Char) : List Char × List Char :=
  match cs with
  | e :: rest =>
    if e = 'e' ∨ e = 'E' then
      match rest with
      | s :: more =>
        if s = '+' ∨ s = '-' then exponentDigits [e, s] more cs else exponentDigits [e] rest cs
      | [] => ([], cs)
    else ([], cs)
  | [] => ([], [])

def exponentValue : List Char → Int
  | _ :: '-' :: digits => -(decimalValue digits : Int)
  | _ :: '+' :: digits => decimalValue digits
  | _ :: digits => decimalValue digits
  | [] => 0

def decimalOf (negative : Bool) (whole fraction exponent : List Char) : Json :=
  let digits := decimalValue (whole ++ fraction.drop 1)
  let scale := exponentValue exponent - (fraction.drop 1).length
  let text := match Text.shortestText? digits scale with
    | some cs => String.ofList cs
    | none => "Infinity"
  .decimal (if negative then "-" ++ text else text)

/-- A number without its sign: no leading zero before another digit. -/
def readNumber (negative : Bool) (cs : List Char) : Read Json :=
  let digits := match cs with
    | '0' :: _ => ['0']
    | _ => cs.takeWhile Char.isDigit
  match digits with
  | [] => .error .malformed
  | ds =>
    let (fraction, rest) := readFraction (cs.drop ds.length)
    let (exponent, rest) := readExponent rest
    if !fraction.isEmpty || !exponent.isEmpty then
      .ok (decimalOf negative ds fraction exponent, rest)
    else if Text.digitLimit < ds.length then .error .oversized
    else .ok (.int (signed negative (decimalValue ds)), rest)

def dropWord? : List Char → List Char → Option (List Char)
  | [], cs => some cs
  | _ :: _, [] => none
  | w :: ws, c :: cs => if w = c then dropWord? ws cs else none

def words : List (String × Json) :=
  [("null", .null), ("true", .bool true), ("false", .bool false), ("NaN", .decimal "NaN"),
    ("Infinity", .decimal "Infinity"), ("-Infinity", .decimal "-Infinity")]

def readWord (cs : List Char) : Option (Json × List Char) :=
  words.findSome? fun (w, j) => (dropWord? w.toList cs).map fun rest => (j, rest)

def readScalar (cs : List Char) : Read Json :=
  match readWord cs with
  | some r => .ok r
  | none =>
    match cs with
    | '\x22' :: rest =>
      match readString rest with
      | some (s, rest) => .ok (.str (String.ofList s), rest)
      | none => .error .malformed
    | '-' :: rest => readNumber true rest
    | _ => readNumber false cs

mutual

def readValue : Nat → List Char → Read Json
  | 0, _ => .error .malformed
  | depth + 1, '[' :: rest =>
    match skipSpace rest with
    | ']' :: rest => .ok (.arr [], rest)
    | rest => (readItems depth [] rest).map fun (items, rest) => (.arr items, rest)
  | depth + 1, '\x7b' :: rest =>
    match skipSpace rest with
    | '\x7d' :: rest => .ok (.obj [], rest)
    | rest => (readFields depth [] rest).map fun (fs, rest) => (.obj fs, rest)
  | _ + 1, cs => readScalar cs

/-- Items up to the closing bracket; `done` holds those before, last first. -/
def readItems : Nat → List Json → List Char → Read (List Json)
  | 0, _, _ => .error .malformed
  | depth + 1, done, cs =>
    match readValue depth cs with
    | .error flaw => .error flaw
    | .ok (j, rest) =>
      match skipSpace rest with
      | ',' :: rest => readItems depth (j :: done) (skipSpace rest)
      | ']' :: rest => .ok ((j :: done).reverse, rest)
      | _ => .error .malformed

def readFields : Nat → List (String × Json) → List Char → Read (List (String × Json))
  | 0, _, _ => .error .malformed
  | depth + 1, done, '\x22' :: rest =>
    match readString rest with
    | none => .error .malformed
    | some (name, rest) =>
      match skipSpace rest with
      | ':' :: rest =>
        match readValue depth (skipSpace rest) with
        | .error flaw => .error flaw
        | .ok (j, rest) =>
          let done := putField (String.ofList name) j done
          match skipSpace rest with
          | ',' :: rest => readFields depth done (skipSpace rest)
          | '\x7d' :: rest => .ok (done, rest)
          | _ => .error .malformed
      | _ => .error .malformed
  | _ + 1, _, _ => .error .malformed

end

def parse (text : String) : Except ReadFlaw Json :=
  let cs := text.toList
  match readValue (cs.length + 1) (skipSpace cs) with
  | .ok (j, rest) => if (skipSpace rest).isEmpty then .ok j else .error .malformed
  | .error flaw => .error flaw

end EntityScaffold.Json
