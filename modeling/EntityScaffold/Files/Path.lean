/-!
Paths as text with slashes. Empty parts and single points are dropped when a path is read, and a
part of two points is kept, for what it means depends on the folders it goes through. A path that
starts at the top replaces the one it is joined to.
-/
namespace EntityScaffold

structure Path where
  top : String
  parts : List String
  deriving DecidableEq, Repr

namespace Path

def up : String := ".."

/-- One slash starts at the top, and so do three or more; two are kept as two. -/
def topOf (cs : List Char) : String :=
  match (cs.takeWhile (· == '/')).length with
  | 0 => ""
  | 2 => "//"
  | _ => "/"

def splitParts : List Char → List (List Char)
  | [] => [[]]
  | c :: rest =>
    if c = '/' then [] :: splitParts rest
    else
      match splitParts rest with
      | [] => [[c]]
      | part :: parts => (c :: part) :: parts

def isPart (cs : List Char) : Bool := cs != [] && cs != ['.']

def ofString (text : String) : Path where
  top := topOf text.toList
  parts := ((splitParts text.toList).filter isPart).map String.ofList

def isAbsolute (p : Path) : Bool := p.top != ""

def text (p : Path) : String :=
  if p.top = "" && p.parts.isEmpty then "." else p.top ++ "/".intercalate p.parts

def join (p q : Path) : Path := if q.isAbsolute then q else { p with parts := p.parts ++ q.parts }

def parent (p : Path) : Path := { p with parts := p.parts.dropLast }

def name (p : Path) : String := p.parts.getLast?.getD ""

/-- The part of the name from its last point on, if something stands on both sides of it. -/
def suffix (p : Path) : String :=
  let reversed := p.name.toList.reverse
  let extension := reversed.takeWhile (· != '.')
  let stem := reversed.drop (extension.length + 1)
  if extension.isEmpty || stem.isEmpty then "" else String.ofList ('.' :: extension.reverse)

theorem length_parent_lt {p : Path} (h : p.parts ≠ []) :
    p.parent.parts.length < p.parts.length := by
  have : 0 < p.parts.length := List.length_pos_iff.2 h
  simp only [parent, List.length_dropLast]
  omega

end Path

end EntityScaffold
