import EntityScaffold.Text.Blank
import EntityScaffold.Text.Identifier

/-!
Whole numbers as text. A number may have blanks around it, one sign, leading zeros, digits of any
script, and single underscores between two digits; anything else is no number, and neither is one
of too many digits.
-/
namespace EntityScaffold.Text

/-- Reads digits after a digit; an underscore must be followed by one. -/
def readDigits (value : Nat) : List Char → Option Nat
  | [] => some value
  | '_' :: c :: rest =>
    match digitValue? c with
    | some d => readDigits (value * 10 + d) rest
    | none => none
  | c :: rest =>
    match digitValue? c with
    | some d => readDigits (value * 10 + d) rest
    | none => none

/-- The most digits a number may have, leading zeros counted. -/
def digitLimit : Nat := 4300

def digitCount (cs : List Char) : Nat := cs.countP (· != '_')

def readNat : List Char → Option Nat
  | [] => none
  | c :: rest =>
    match digitValue? c with
    | some d => if digitCount (c :: rest) ≤ digitLimit then readDigits d rest else none
    | none => none

def readInt (cs : List Char) : Option Int :=
  match trim cs with
  | '-' :: rest => (readNat rest).map fun n => -(n : Int)
  | '+' :: rest => (readNat rest).map Int.ofNat
  | rest => (readNat rest).map Int.ofNat

end EntityScaffold.Text
