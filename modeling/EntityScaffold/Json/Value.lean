import EntityScaffold.Text.Quoted

/-!
Values of a settings file. Objects keep the order of their fields and hold each name once; whole
numbers are exact, and any other number is kept as its shortest text.
-/
namespace EntityScaffold

inductive Json where
  | null
  | bool (value : Bool)
  | int (value : Int)
  | decimal (text : String)
  | str (value : String)
  | arr (elements : List Json)
  | obj (members : List (String × Json))
  deriving Inhabited, Repr

namespace Json

/-- Gives `name` the value; a name that is there keeps its place. -/
def putField (name : String) (value : Json) : List (String × Json) → List (String × Json)
  | [] => [(name, value)]
  | (n, v) :: rest => if n = name then (n, value) :: rest else (n, v) :: putField name value rest

def fields : Json → List (String × Json)
  | .obj fs => fs
  | _ => []

def field? (j : Json) (name : String) : Option Json := j.fields.lookup name

/-- What a value is made of: the items of a list, the names of an object, the characters of a
string. -/
def items : Json → List Json
  | .arr js => js
  | .obj fs => fs.map fun f => .str f.1
  | .str s => s.toList.map fun c => .str (String.singleton c)
  | _ => []

def isZeroText (text : String) : Bool := text == "0.0" || text == "-0.0"

def formName : Json → String
  | .null => "NoneType"
  | .bool _ => "bool"
  | .int _ => "int"
  | .decimal _ => "float"
  | .str _ => "str"
  | .arr _ => "list"
  | .obj _ => "dict"

/-- Null, false, zero and everything empty count as no value. -/
def truthy : Json → Bool
  | .null => false
  | .bool b => b
  | .int n => n != 0
  | .decimal t => !isZeroText t
  | .str s => s != ""
  | .arr js => !js.isEmpty
  | .obj fs => !fs.isEmpty

def isNull : Json → Bool
  | .null => true
  | _ => false

def shownDecimal (text : String) : String :=
  match text with
  | "NaN" => "nan"
  | "Infinity" => "inf"
  | "-Infinity" => "-inf"
  | t => t

mutual

def shown : Json → String
  | .null => "None"
  | .bool true => "True"
  | .bool false => "False"
  | .int n => toString n
  | .decimal t => shownDecimal t
  | .str s => Text.quoted s
  | .arr js => "[" ++ ", ".intercalate (shownItems js) ++ "]"
  | .obj fs => "\x7b" ++ ", ".intercalate (shownFields fs) ++ "\x7d"

def shownItems : List Json → List String
  | [] => []
  | j :: rest => shown j :: shownItems rest

def shownFields : List (String × Json) → List String
  | [] => []
  | (name, j) :: rest => (Text.quoted name ++ ": " ++ shown j) :: shownFields rest

end

def display : Json → String
  | .str s => s
  | j => shown j

@[simp] theorem putField_nil (name : String) (value : Json) :
    putField name value [] = [(name, value)] := rfl

end Json

end EntityScaffold
