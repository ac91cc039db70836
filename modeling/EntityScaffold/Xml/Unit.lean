/-!
Characters of units wider than a byte. Two units of two bytes may make one character; half of such a
pair is none.
-/
namespace EntityScaffold.Xml

/-- Units of two bytes; an odd byte at the end is refused. -/
def pairs? (bigEndian : Bool) : List UInt8 → Option (List Nat)
  | [] => some []
  | [_] => none
  | a :: b :: rest =>
    let n := if bigEndian then a.toNat * 256 + b.toNat else b.toNat * 256 + a.toNat
    (pairs? bigEndian rest).map (n :: ·)

def quads? (bigEndian : Bool) (bytes : List UInt8) : Option (List Nat) := do
  join (← pairs? bigEndian bytes)
where
  join : List Nat → Option (List Nat)
    | [] => some []
    | [_] => none
    | a :: b :: rest =>
      let n := if bigEndian then a * 65536 + b else b * 65536 + a
      (join rest).map (n :: ·)

def isHigh (n : Nat) : Bool := 0xD800 ≤ n && n ≤ 0xDBFF

def isLow (n : Nat) : Bool := 0xDC00 ≤ n && n ≤ 0xDFFF

def scalar? (n : Nat) : Option Char :=
  if n < 0x110000 && !isHigh n && !isLow n then some (Char.ofNat n) else none

def ofUnits? : List Nat → Option (List Char)
  | [] => some []
  | [n] => (scalar? n).map fun c => [c]
  | n :: m :: rest =>
    if isHigh n then
      if isLow m then
        (ofUnits? rest).map (Char.ofNat (0x10000 + (n - 0xD800) * 0x400 + (m - 0xDC00)) :: ·)
      else none
    else (scalar? n).bind fun c => (ofUnits? (m :: rest)).map (c :: ·)

end EntityScaffold.Xml
