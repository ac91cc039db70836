import EntityScaffold.Json.Value

/-!
Fields of records: reading them with a default for those that are missing, and writing values that
may not be known. A field of null counts as missing where a value must be known.
-/
namespace EntityScaffold.Json

def ofOption (f : α → Json) : Option α → Json
  | some a => f a
  | none => .null

def text? : Json → Option String
  | .str s => some s
  | _ => none

def int? : Json → Option Int
  | .int n => some n
  | _ => none

def textField? (j : Json) (name : String) : Option String := (j.field? name).bind text?

def textField (j : Json) (name : String) : String := (j.textField? name).getD ""

def intField? (j : Json) (name : String) : Option Int := (j.field? name).bind int?

def boolField (j : Json) (name : String) (default : Bool) : Bool :=
  ((j.field? name).map truthy).getD default

def labelField (j : Json) (name : String) (default : Json) : Json := (j.field? name).getD default

def itemsField (j : Json) (name : String) : List Json := ((j.field? name).map items).getD []

def textsField (j : Json) (name : String) : List String := (j.itemsField name).map display

def ofTexts (texts : List String) : Json := .arr (texts.map .str)

def ofNat (n : Nat) : Json := .int n

end EntityScaffold.Json
