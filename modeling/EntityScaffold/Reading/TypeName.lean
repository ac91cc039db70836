import EntityScaffold.Text.Blank

/-!
Type names as documents write them: with the namespace of their model in front, in a collection, or
in a list of types of which the first counts.
-/
namespace EntityScaffold.Reading
open Text

def afterLastPoint (cs : List Char) : List Char := (cs.reverse.takeWhile (· != '.')).reverse

def unqualified (name : String) : String := String.ofList (afterLastPoint name.toList)

def collectionOpening : List Char := "Collection(".toList

def subtypeOpening : List Char := "IsTypeOf(".toList

def enclosed? (opening cs : List Char) : Option (List Char) :=
  if opening.isPrefixOf cs && cs.getLast? == some ')' then
    some ((cs.drop opening.length).dropLast)
  else none

/-- The element type of a collection, or the type itself, and which of the two it is. -/
def unwrapCollection (name : List Char) : List Char × Bool :=
  match enclosed? collectionOpening (trim name) with
  | some inner => (trim inner, true)
  | none => (trim name, false)

/-- A type that may be missing; an empty one stays as it is. -/
def elementType : Option String → Option String × Bool
  | none => (none, false)
  | some "" => (some "", false)
  | some name =>
    let (inner, isCollection) := unwrapCollection name.toList
    (some (String.ofList inner), isCollection)

def entityTypeName (name : String) : String :=
  let first := trim (name.toList.takeWhile (· != ';'))
  String.ofList (afterLastPoint ((enclosed? subtypeOpening first).getD first))

end EntityScaffold.Reading
