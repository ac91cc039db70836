/-!
The shortest decimal text of a number of 64 bits: the fewest digits that lie closer to it than to
any other such number, and of those the nearest. A number is written with a point, and from
sixteen digits before the point or four zeros behind it on with an exponent. All arithmetic is on
whole numbers.
-/
namespace EntityScaffold.Text

/-- A positive number, `mantissa * 2 ^ exponent`. The gap to the number below may be half as wide
as the gap above. -/
structure Binary where
  mantissa : Nat
  exponent : Int
  isNarrowBelow : Bool

structure Decimal where
  digits : Nat
  exponent : Int
  deriving DecidableEq, Repr

def Binary.ofBits (bits : UInt64) : Binary :=
  let exponent := ((bits >>> 52) &&& 0x7FF).toNat
  let fraction := (bits &&& 0xFFFFFFFFFFFFF).toNat
  if exponent = 0 then ⟨fraction, -1074, false⟩
  else ⟨Nat.pow 2 52 + fraction, (exponent : Int) - 1075, fraction == 0 && exponent > 1⟩

/-- Compares `a * 10 ^ i` with `n * 2 ^ j`. -/
def compareScaled (a : Nat) (i : Int) (n : Nat) (j : Int) : Ordering :=
  compare (a * Nat.pow 10 i.toNat * Nat.pow 2 (-j).toNat)
    (n * Nat.pow 2 j.toNat * Nat.pow 10 (-i).toNat)

/-- Whether a decimal lies among the reals that are rounded to `x`. -/
def Binary.readsBack (x : Binary) (d : Decimal) : Bool :=
  let low := if x.isNarrowBelow then 4 * x.mantissa - 1 else 4 * x.mantissa - 2
  let below := compareScaled d.digits d.exponent low (x.exponent - 2)
  let above := compareScaled d.digits d.exponent (4 * x.mantissa + 2) (x.exponent - 2)
  let withEnds := x.mantissa % 2 == 0
  (below == .gt || (withEnds && below == .eq)) && (above == .lt || (withEnds && above == .eq))

/-- The multiple of `10 ^ k` at or below `x`, counted in such steps. -/
def Binary.steps (x : Binary) (k : Int) : Nat :=
  (x.mantissa * Nat.pow 2 x.exponent.toNat * Nat.pow 10 (-k).toNat) /
    (Nat.pow 2 (-x.exponent).toNat * Nat.pow 10 k.toNat)

/-- Of two neighbours on a grid that both read back, the nearer; of two equally near the even. -/
def Binary.nearer (x : Binary) (low : Nat) (k : Int) : Nat :=
  match compareScaled (2 * low + 1) k x.mantissa (x.exponent + 1) with
  | .gt => low
  | .lt => low + 1
  | .eq => if low % 2 = 0 then low else low + 1

def Binary.onGrid? (x : Binary) (k : Int) : Option Decimal :=
  let low := x.steps k
  match x.readsBack ⟨low, k⟩, x.readsBack ⟨low + 1, k⟩ with
  | true, true => some ⟨x.nearer low k, k⟩
  | true, false => some ⟨low, k⟩
  | false, true => some ⟨low + 1, k⟩
  | false, false => none

/-- An exponent of ten that is not below the leading digit of any number of 64 bits. -/
def topExponent : Int := 309

/-- The first grid, from coarse to fine, that has a point for `x`. -/
def Binary.shortest (x : Binary) : Decimal :=
  ((List.range 640).findSome? fun (i : Nat) => x.onGrid? (topExponent - (i : Int))).getD (Decimal.mk 0 0)

def digitText (n : Nat) : List Char := (toString n).toList

def withoutFinalZeros (cs : List Char) : List Char :=
  (cs.reverse.dropWhile (· == '0')).reverse

def zeros (n : Nat) : List Char := List.replicate n '0'

/-- A fraction of no digits is written as one zero. -/
def pointed (whole fraction : List Char) : List Char :=
  whole ++ '.' :: (if fraction.isEmpty then ['0'] else fraction)

def exponentText (e : Int) : List Char :=
  let digits := digitText e.natAbs
  'e' :: (if e < 0 then '-' else '+') :: (if digits.length < 2 then '0' :: digits else digits)

/-- Lays digits out; `e` is the power of ten of the first of them. -/
def layOut (digits : List Char) (e : Int) : List Char :=
  if e < -4 || 16 ≤ e then
    (match digits with
    | [d] => [d]
    | ds => ds.take 1 ++ '.' :: ds.drop 1) ++ exponentText e
  else if e < 0 then pointed ['0'] (zeros (-e - 1).toNat ++ digits)
  else
    let whole := e.toNat + 1
    pointed (digits.take whole ++ zeros (whole - digits.length)) (digits.drop whole)

def Decimal.text (d : Decimal) : List Char :=
  let digits := digitText d.digits
  layOut (withoutFinalZeros digits) (d.exponent + digits.length - 1)

def nearestBits (digits : Nat) (exponent : Int) : UInt64 :=
  (Float.ofScientific digits (exponent < 0) exponent.natAbs).toBits

def infiniteBits : UInt64 := 0x7FF0000000000000

/-- The text of the number nearest to a decimal without a sign; none if it is too great. -/
def shortestText? (digits : Nat) (exponent : Int) : Option (List Char) :=
  let length := (digitText digits).length
  if digits = 0 || exponent + length < -400 then some ['0', '.', '0']
  else if 400 < exponent + length then none
  else
    let bits := nearestBits digits exponent
    if bits = infiniteBits then none
    else if bits = 0 then some ['0', '.', '0']
    else some (Binary.ofBits bits).shortest.text

end EntityScaffold.Text
