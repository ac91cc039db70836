import EntityScaffold.Xml.Element
import EntityScaffold.Xml.TypeRules
import EntityScaffold.Xml.Uri

/-!
Start tags. Namespace declarations are taken out of the attributes and bind their label from the tag
on. What is amiss with a label is an error that does not end reading: a name whose label nothing
binds keeps it and has no namespace. A name that is written twice in a tag does end reading.
-/
namespace EntityScaffold.Xml

/-- Labels in scope, innermost first; the empty label is the one of unlabelled elements. -/
abbrev Scope := List (List Char × List Char)

def markupSpace : List Char := "http://www.w3.org/XML/1998/namespace".toList

def declarationSpace : List Char := "http://www.w3.org/2000/xmlns/".toList

def markupLabel : List Char := "xml".toList

def declarationLabel : List Char := "xmlns".toList

def declaredLabel? (key : QName) : Option (List Char) :=
  match key.label with
  | none => if key.name = declarationLabel then some [] else none
  | some l => if l = declarationLabel then some key.name else none

/-- Notes an error about a binding, which is then left out. -/
def refuseBinding : Scan Bool := do
  Scan.err
  return false

/-- Whether elements without a label may get a namespace. A reference that is not absolute is only
warned of. -/
def mayBindDefault (space : List Char) : Scan Bool := do
  if space.isEmpty then return true
  if !Uri.isReference space then Scan.err
  else if !Uri.isAbsolute space then Scan.warn
  if space = markupSpace ∨ space = declarationSpace then refuseBinding else return true

/-- Whether a label may be bound to a namespace. The two reserved ones go with their own labels
only, which need no binding, and a label cannot be unbound. -/
def mayBindLabel (label space : List Char) : Scan Bool := do
  if label = markupLabel then
    if space = markupSpace then return false else refuseBinding
  else if space = markupSpace ∨ label = declarationLabel ∨ space = declarationSpace ∨
      space.isEmpty then
    refuseBinding
  else
    if !Uri.isReference space then Scan.err
    return true

structure RawAttribute where
  key : QName
  value : List ValuePart

/-- A start tag read so far, its attributes and bindings last first. -/
structure TagSoFar where
  attributes : List RawAttribute := []
  bindings : Scope := []

namespace TagSoFar

def bind (t : TagSoFar) (label space : List Char) : Scan TagSoFar := do
  if ← if label.isEmpty then mayBindDefault space else mayBindLabel label space then
    guard (t.bindings.lookup label).isNone
    return { t with bindings := (label, space) :: t.bindings }
  else return t

end TagSoFar

structure Tag where
  key : QName
  attributes : List RawAttribute
  bindings : Scope
  isEmpty : Bool

def soundName (cs : List Char) : Scan (QName × List Char) := do
  let (key, rest) ← qname? cs
  if !key.isSound then Scan.err
  return (key, rest)

def spaceKey : QName := ⟨some markupLabel, "space".toList⟩

def spaceValues : List (List Char) := ["default".toList, "preserve".toList]

def addAttribute (t : TagSoFar) (key : QName) (value : List ValuePart) : Scan TagSoFar := do
  match declaredLabel? key with
  | some label => t.bind label (keptText value)
  | none =>
    if key = spaceKey ∧ !spaceValues.contains (keptText value) then Scan.warn
    return { t with attributes := ⟨key, value⟩ :: t.attributes }

def formOf (rules : List AttributeRule) (element key : QName) : ValueForm :=
  { collapses := ((ruleType? rules element.text key.text).getD .text) ≠ .text
    expands := (declaredLabel? key).isSome }

/-- Attributes up to the end of the tag; every one needs space before it. -/
def attributes (element : QName) : Nat → TagSoFar → List Char → Scan (TagSoFar × Bool × List Char)
  | 0, _, _ => failure
  | steps + 1, t, cs =>
    match skipSpace cs with
    | '>' :: rest => return (t, false, rest)
    | '/' :: '>' :: rest => return (t, true, rest)
    | _ => do
      let (key, rest) ← soundName (← space? cs)
      let (value, rest) ← value (formOf (← get).rules element key) steps (← equals? rest)
      attributes element steps (← addAttribute t key value) rest

def tag (steps : Nat) (cs : List Char) : Scan (Tag × List Char) := do
  let (key, rest) ← soundName cs
  let (t, isEmpty, rest) ← attributes key steps {} rest
  return (⟨key, t.attributes.reverse, t.bindings, isEmpty⟩, rest)

def boundSpace? (scope : Scope) (label : List Char) : Option (List Char) :=
  if label = markupLabel then some markupSpace else scope.lookup label

def isUnbound (scope : Scope) (key : QName) : Bool :=
  key.label.any fun l => (boundSpace? scope l).isNone

/-- The namespace of an element; an unlabelled one may have none. -/
def elementSpace? (scope : Scope) (key : QName) : Option (List Char) :=
  match key.label with
  | some l => boundSpace? scope l
  | none => (scope.lookup []).filter (!·.isEmpty)

def attributeSpace? (scope : Scope) (key : QName) : Option (List Char) :=
  key.label.bind (boundSpace? scope)

def ownName (scope : Scope) (key : QName) : List Char :=
  if isUnbound scope key then key.text else key.name

/-- Notes the names without a binding, and those that mean what an earlier one means. -/
def checkNames (scope : Scope) : List (Option (List Char) × List Char) → List QName → Scan Unit
  | _, [] => return
  | earlier, key :: rest => do
    if isUnbound scope key then Scan.err
    let meaning := (attributeSpace? scope key, key.name)
    if earlier.contains meaning then Scan.err
    checkNames scope (meaning :: earlier) rest

def isPlainName (cs : List Char) : Bool :=
  match cs with
  | c :: rest => isNameStart c && rest.all isNameChar
  | [] => false

def trimmedSpace (cs : List Char) : List Char := (skipSpace (skipSpace cs).reverse).reverse

def noteIdentifier (text : List Char) : Scan Unit := do
  if text.isEmpty ∨ (← get).identifiers.contains text then Scan.err
  else modify fun p => { p with identifiers := text :: p.identifiers }

def isIdentifier (rules : List AttributeRule) (scope : Scope) (element key : QName) : Bool :=
  ruleType? rules element.text key.text = some .identifier && key.isSound && !isUnbound scope key

/-- Checks an identifier in the text of the document itself, unless it is made of entities. -/
def checkIdentifier (scope : Scope) (element : QName) (a : RawAttribute) (text : List Char) :
    Scan Unit := do
  if (← read).entity.isNone ∧ a.value.all ValuePart.isCharacter then
    if a.key.text = identifierName then
      if !isPlainName (trimmedSpace text) then Scan.err
      noteIdentifier text
    else if isIdentifier (← get).rules scope element a.key then noteIdentifier text

def resolve (scope : Scope) (element : QName) (a : RawAttribute) : Scan Attribute := do
  let text ← valueText a.value
  checkIdentifier scope element a text
  return ⟨(attributeSpace? scope a.key).map String.ofList, String.ofList (ownName scope a.key),
    String.ofList text⟩

def hasRepeat [BEq α] : List α → Bool
  | [] => false
  | a :: rest => rest.contains a || hasRepeat rest

def openElement (scope : Scope) (tag : Tag) : Scan (Element × Scope) := do
  let scope := tag.bindings ++ scope
  let keys := tag.attributes.map (·.key)
  guard !hasRepeat keys
  checkNames scope [] keys
  if isUnbound scope tag.key then Scan.err
  let attributes ← tag.attributes.mapM (resolve scope tag.key)
  return (.mk ((elementSpace? scope tag.key).map String.ofList)
    (String.ofList (ownName scope tag.key)) attributes [], scope)

end EntityScaffold.Xml
