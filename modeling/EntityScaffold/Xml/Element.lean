import EntityScaffold.Fault
import EntityScaffold.Text.Integer
import EntityScaffold.Xml.Name

/-!
Elements of a document and the questions asked of them. Text and comments are not kept; instructions
and references to entities are kept as nodes without a name. Every question goes by local name, so
documents that differ in their namespaces answer alike; asking for the local part of a name that has
none is a fault.
-/
namespace EntityScaffold.Xml

structure Attribute where
  space : Option String
  name : String
  value : String
  deriving DecidableEq, Repr

/-- Whether the local part of a name can be told from the rest. -/
def hasLocalName (space : Option String) (name : String) : Bool :=
  !name.toList.contains ':' && !space.any fun s => s.toList.contains '\x7d'

inductive Element where
  | mk (space : Option String) (name : String) (attributes : List Attribute)
      (children : List Element)
  deriving Inhabited

namespace Element

/-- A node that is no element: an instruction, or a reference to an entity. -/
def nameless (attributes : List Attribute) : Element := mk none "" attributes []

def space : Element → Option String
  | mk s _ _ _ => s

def name : Element → String
  | mk _ n _ _ => n

def attributes : Element → List Attribute
  | mk _ _ as _ => as

def nodes : Element → List Element
  | mk _ _ _ cs => cs

def isNameless (e : Element) : Bool := e.name == ""

def children (e : Element) : List Element := e.nodes.filter (!·.isNameless)

def localName (e : Element) : Except Fault String :=
  if hasLocalName e.space e.name then .ok e.name else .error (.brokenName e.name)

def expandedName? (cs : List Char) : Option (Option (List Char) × List Char) :=
  let (space, name) :=
    match cs with
    | '\x7b' :: rest =>
      (some (rest.takeWhile (· != '\x7d')), (rest.dropWhile (· != '\x7d')).drop 1)
    | cs => (none, cs)
  if name.isEmpty || !cs.all isChar then none else some (space.filter (!·.isEmpty), name)

def spacedAttribute (name : String) : List Attribute → Except Fault (Option String)
  | [] => .ok none
  | a :: rest =>
    if a.space.isNone then spacedAttribute name rest
    else if !hasLocalName a.space a.name then .error (.brokenName a.name)
    else if a.name == name then .ok (some a.value)
    else spacedAttribute name rest

/-- An attribute by its name, which may begin with a namespace in braces. What has that very name
comes before what has a namespace and that local name. -/
def attribute? (e : Element) (name : String) : Except Fault (Option String) :=
  if e.isNameless then .ok ((e.attributes.find? (·.name == name)).map (·.value))
  else
    match expandedName? name.toList with
    | none => .error (.brokenName name)
    | some (space, own) =>
      match e.attributes.find? fun a =>
        a.space == space.map String.ofList && a.name == String.ofList own with
      | some a => .ok (some a.value)
      | none => spacedAttribute name e.attributes

def attributeD (e : Element) (name : String) : Except Fault String := do
  return (← e.attribute? name).getD ""

/-- A whole number; any other text counts as not given. -/
def wholeNumber? (value : Option String) : Option Int :=
  value.bind fun value => Text.readInt value.toList

def integer? (e : Element) (name : String) : Except Fault (Option Int) := do
  return wholeNumber? (← e.attribute? name)

def namedIn (name : String) : List Element → Except Fault (List Element)
  | [] => .ok []
  | e :: es => do
    let own ← e.localName
    let rest ← namedIn name es
    return if own = name then e :: rest else rest

/-- The first element of a list that has a local name; no later one is asked for its own. -/
def firstNamed (name : String) : List Element → Except Fault (Option Element)
  | [] => .ok none
  | e :: es => do
    if (← e.localName) = name then return some e
    firstNamed name es

def childrenNamed (e : Element) (name : String) : Except Fault (List Element) :=
  namedIn name e.children

mutual

def nested : Element → List Element
  | mk _ _ _ cs => forest cs

def forest : List Element → List Element
  | [] => []
  | e :: es => e :: (nested e ++ forest es)

end

def descendants (e : Element) (name : String) : Except Fault (List Element) :=
  namedIn name e.nested

def first? (e : Element) (name : String) : Except Fault (Option Element) :=
  firstNamed name e.nested

@[simp] theorem forest_nil : forest [] = [] := by simp [forest]

@[simp] theorem forest_cons (e : Element) (es : List Element) :
    forest (e :: es) = e :: (e.nested ++ forest es) := by simp [forest]

theorem nested_eq (e : Element) : e.nested = forest e.nodes := by
  cases e with
  | mk s n as cs => simp [nested, nodes]

end Element

end EntityScaffold.Xml
