import EntityScaffold.Xml.Unit
import EntityScaffold.Xml.WideEncoding

/-!
Encodings that use only the plain half of a byte. What is not plain stands between marks: as digits
of base 64 in one of them, as pairs of bytes in the other.
-/
namespace EntityScaffold.Xml

/-- A character that stands for itself where a plus sign is the mark. -/
def isDirect (c : Char) : Bool :=
  (' ' ≤ c && c ≤ '\x7d' && c != '+' && c != '\\') || c == '\t' || c == '\n' || c == '\r'

def digit64? (c : Char) : Option Nat :=
  if 'A' ≤ c && c ≤ 'Z' then some (c.toNat - 65)
  else if 'a' ≤ c && c ≤ 'z' then some (c.toNat - 71)
  else if c.isDigit then some (c.toNat + 4)
  else if c = '+' then some 62
  else if c = '/' then some 63
  else none

/-- Two-byte units of digits of base 64. The bits that are left over are fewer than a digit has, and
none of them is set. -/
def units64? : Nat → Nat → List Nat → Option (List Nat)
  | value, bits, [] => if value = 0 && bits < 6 then some [] else none
  | value, bits, d :: rest =>
    let value := value * 64 + d
    let bits := bits + 6
    if bits < 16 then units64? value bits rest
    else
      let left := 2 ^ (bits - 16)
      (units64? (value % left) (bits - 16) rest).map (value / left :: ·)

def afterMark : List Char → List Char
  | '-' :: rest => rest
  | cs => cs

/-- Reads text that marks digits of base 64 with a plus sign; the characters so far come last
first. -/
def decode64 : Nat → List Char → List Char → Option (List Char)
  | 0, _, _ => none
  | _ + 1, done, [] => some done.reverse
  | steps + 1, done, '+' :: '-' :: rest => decode64 steps ('+' :: done) rest
  | steps + 1, done, '+' :: rest => do
    let digits := (rest.takeWhile fun c => (digit64? c).isSome).filterMap digit64?
    let cs ← ofUnits? (← units64? 0 0 digits)
    decode64 steps (cs.reverse ++ done) (afterMark (rest.drop digits.length))
  | steps + 1, done, c :: rest => if isDirect c then decode64 steps (c :: done) rest else none

def decodeSwitched (index : Grid.Index) (inPairs : Bool) : List Char → List Nat → Option (List Char)
  | done, [] => some done.reverse
  | done, 0x1B :: 0x28 :: b :: rest =>
    if b = 0x42 || b = 0x4A then decodeSwitched index false done rest else none
  | done, 0x1B :: 0x24 :: b :: rest =>
    if b = 0x42 || b = 0x40 then decodeSwitched index true done rest else none
  | done, [a] => if inPairs then none else (PairRule.plain? a).map fun c => (c :: done).reverse
  | done, a :: b :: rest =>
    if inPairs then
      if a < 0x21 || b < 0x21 then none
      else
        (Grid.character? index (a - 0x21) (b - 0x21)).bind fun c =>
          decodeSwitched index true (c :: done) rest
    else (PairRule.plain? a).bind fun c => decodeSwitched index false (c :: done) (b :: rest)

inductive SevenBit where
  | marked
  | switched
  deriving DecidableEq, Repr

namespace SevenBit

def ofName? (name : String) : Option SevenBit :=
  if ["utf-7", "unicode-1-1-utf-7", "csunicode11utf7"].contains name then some .marked
  else if ["iso-2022-jp", "csiso2022jp"].contains name then some .switched
  else none

def decode? : SevenBit → List UInt8 → Option (List Char)
  | .marked, bytes => decode64 (bytes.length + 1) [] (bytes.map fun b => Char.ofNat b.toNat)
  | .switched, bytes => decodeSwitched Grid.japanese.index false [] (bytes.map (·.toNat))

end SevenBit

end EntityScaffold.Xml
