/-!
Tables of characters in rows and places. Where nothing stands there is zero, or the row ends.
-/
namespace EntityScaffold.Xml

structure Grid where
  rows : List String
  deriving DecidableEq, Repr

namespace Grid

abbrev Index := Array (Array Char)

def index (g : Grid) : Index := (g.rows.map fun row => row.toList.toArray).toArray

def character? (i : Index) (row place : Nat) : Option Char :=
  (i[row]?.bind (·[place]?)).filter (·.toNat != 0)

end Grid

end EntityScaffold.Xml
