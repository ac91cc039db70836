import EntityScaffold.Model.Label

/-!
Plural names of collections. The last letter decides, its case apart: after `s` nothing is added,
after a vowel or one of `h k c f g r b t` an `s`, in place of a `z` the letters `ces`, and after
anything else `es`.
-/
namespace EntityScaffold.Naming

def pluralSLetters : List Char :=
  ['a', 'e', 'i', 'o', 'u', 'h', 'k', 'c', 'f', 'g', 'r', 'b', 't']

inductive PluralEnding where
  | kept
  | s
  | ces
  | es
  deriving DecidableEq, Repr

def endingAfter (last : List Char) : PluralEnding :=
  match Text.lowerChars last with
  | [l] =>
    if l = 's' then .kept else if l ∈ pluralSLetters then .s else if l = 'z' then .ces else .es
  | _ => .es

def pluralChars (name : List Char) : List Char :=
  match name.getLast? with
  | none => []
  | some last =>
    match endingAfter [last] with
    | .kept => name
    | .s => name ++ ['s']
    | .ces => name.dropLast ++ ['c', 'e', 's']
    | .es => name ++ ['e', 's']

def pluralize (name : String) : String := String.ofList (pluralChars name.toList)

def pluralItems (items : List Label) (last : String) : Label :=
  match endingAfter last.toList with
  | .kept => .arr items
  | .s => .str ((Json.arr items).display ++ "s")
  | .ces => .str ((Json.arr items.dropLast).display ++ "ces")
  | .es => .str ((Json.arr items).display ++ "es")

/-- The plural of any label. What is given and has no last part has no plural. -/
def pluralLabel (name : Label) : Except Fault Label :=
  match name with
  | .str s => .ok (.str (pluralize s))
  | .arr items =>
    match items.getLast? with
    | none => .ok name
    | some last => (Label.letters last).map (pluralItems items)
  | .obj (_ :: _) => .error (.absentEntry "-1")
  | other => if other.truthy then .error (.wrongForm other.display) else .ok other

end EntityScaffold.Naming
