import EntityScaffold.Text.Blank
import EntityScaffold.Text.Case

/-!
The words of a raw name. Underscores, hyphens and blanks separate words; a name counts as already
cased when it opens with a capital and a small letter follows within a short window.
-/
namespace EntityScaffold.Naming
open Text

def isSeparator (c : Char) : Bool := c == '_' || c == '-' || isBlank c

def words (name : List Char) : List (List Char) :=
  (name.splitOnP isSeparator).filter fun w => !w.isEmpty

def capitalizeRest : List Char → List Char
  | [] => []
  | c :: rest => upperChar c ++ lowerChars rest

def joinWords (name : List Char) : List Char := (words name).flatMap capitalizeRest

/-- The window of a name after its first letter. A window that ends before the name begins is
counted from the end of the name instead. -/
def window (lookahead : Int) (name : List Char) : List Char :=
  let stop := if lookahead + 1 < 0 then lookahead + 1 + name.length else lookahead + 1
  (name.take stop.toNat).drop 1

def defaultLookahead : Int := 5

def opensCapital (name : List Char) : Bool :=
  match name with
  | [] => false
  | c :: _ => !allBlank name && isUpper c

def looksPascal (lookahead : Int) (name : List Char) : Bool :=
  opensCapital name && (window lookahead name).any isLower

def isPascalCase (name : String) (lookahead : Int) : Bool := looksPascal lookahead name.toList

end EntityScaffold.Naming
