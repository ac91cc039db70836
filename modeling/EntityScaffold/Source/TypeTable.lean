import EntityScaffold.Fault
import EntityScaffold.Text.Blank

/-!
Types of the generated code for the primitive types of a model. A value type takes a question mark
where it may be null; a reference type stays as it is.
-/
namespace EntityScaffold.Source

structure CodeType where
  name : String
  isValue : Bool
  deriving DecidableEq, Repr

def CodeType.declaration (t : CodeType) (nullable : Bool) : String :=
  if nullable && t.isValue then t.name ++ "?" else t.name

abbrev TypeTable := List (String × CodeType)

def builtinTypes : TypeTable :=
  [("String", ⟨"string", false⟩), ("Int32", ⟨"int", true⟩), ("Int64", ⟨"long", true⟩),
    ("Boolean", ⟨"bool", true⟩), ("DateTime", ⟨"DateTime", true⟩),
    ("Decimal", ⟨"decimal", true⟩), ("Double", ⟨"double", true⟩), ("Guid", ⟨"Guid", true⟩),
    ("Byte", ⟨"byte", true⟩), ("Byte[]", ⟨"byte[]", false⟩), ("Int16", ⟨"short", true⟩),
    ("Binary", ⟨"byte[]", false⟩), ("Time", ⟨"TimeSpan", true⟩)]

def primitiveMark : List Char := "Edm.".toList

/-- The name under which a type is looked up: trimmed, and without one mark of primitive types. -/
def primitiveName (type : String) : String :=
  let cs := Text.trim type.toList
  String.ofList (if primitiveMark.isPrefixOf cs then cs.drop primitiveMark.length else cs)

def shownType (type : Option String) : String :=
  match type with
  | none | some "" => "<none>"
  | some t => t

namespace TypeTable

def resolve (table : TypeTable) (type : Option String) (owner : Option String) :
    Except Fault CodeType :=
  match table.lookup (primitiveName (type.getD "")) with
  | some t => .ok t
  | none => .error (.unsupportedType (shownType type) owner)

def declaration (table : TypeTable) (type : Option String) (nullable : Bool)
    (owner : Option String) : Except Fault String :=
  (table.resolve type owner).map fun t => t.declaration nullable

end TypeTable

end EntityScaffold.Source
