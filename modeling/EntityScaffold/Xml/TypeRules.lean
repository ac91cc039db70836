import EntityScaffold.Xml.Value

/-!
Rules that a document type gives for elements, attributes and notations. Elements are not checked
against them; what counts is the type of an attribute, since it decides how blanks in the value are
taken and which values are identifiers. A default value must be one that the type allows, and a name
may have one rule only.
-/
namespace EntityScaffold.Xml

def oneOf? (words : List (String × α)) (cs : List Char) : Option (α × List Char) :=
  words.findSome? fun w => (word? w.1.toList cs).map fun rest => (w.2, rest)

def alternatives? (item? : List Char → Option (List Char × List Char)) :
    Nat → List Char → Option (List Char)
  | 0, _ => none
  | steps + 1, cs => do
    let (_, rest) ← item? (skipSpace cs)
    match skipSpace rest with
    | ')' :: rest => some rest
    | '|' :: rest => alternatives? item? steps rest
    | _ => none

/-- How often a part may stand; a part without a mark stands once. -/
def afterCount : List Char → List Char
  | c :: rest => if c = '?' || c = '*' || c = '+' then rest else c :: rest
  | [] => []

def groupLimit : Nat := 256

/-- The parts of a group after its parenthesis, all with the same separator between them. The group
may hold others that nest at most `depth` deep. -/
def group? : Nat → Nat → Option Char → List Char → Option (List Char)
  | 0, _, _, _ => none
  | steps + 1, depth, separator, cs => do
    let rest ← match skipSpace cs with
      | '(' :: inner =>
        match depth with
        | 0 => none
        | depth + 1 => group? steps depth none inner
      | cs => (name? cs).map Prod.snd
    match skipSpace (afterCount rest) with
    | ')' :: rest => some rest
    | c :: rest =>
      if (c = ',' || c = '|') && separator.all (· == c) then group? steps depth (some c) rest
      else none
    | [] => none

def mixed? (steps : Nat) (cs : List Char) : Option (List Char) :=
  match skipSpace cs with
  | ')' :: rest => some ((word? ['*'] rest).getD rest)
  | '|' :: rest => (alternatives? name? steps rest).bind (word? ['*'])
  | _ => none

def contentModel? (steps : Nat) (cs : List Char) : Option (List Char) :=
  match cs with
  | '(' :: rest =>
    match word? "#PCDATA".toList (skipSpace rest) with
    | some rest => mixed? steps rest
    | none => (group? steps (groupLimit - 1) none rest).map afterCount
  | cs => (oneOf? [("EMPTY", ()), ("ANY", ())] cs).map Prod.snd

def elementRule (steps : Nat) (cs : List Char) : Scan (List Char) := do
  let (name, rest) ← name? (← space? cs)
  let rest ← word? ['>'] (skipSpace (← contentModel? steps (← space? rest)))
  if (← get).elements.contains name then Scan.err
  else modify fun p => { p with elements := name :: p.elements }
  return rest

def attributeTypes : List (String × AttributeType) :=
  [("CDATA", .text), ("IDREFS", .names), ("IDREF", .name), ("ID", .identifier), ("ENTITY", .name),
    ("ENTITIES", .names), ("NMTOKENS", .tokens), ("NMTOKEN", .token)]

def attributeType? (steps : Nat) (cs : List Char) : Option (AttributeType × List Char) :=
  match cs with
  | '(' :: rest => (alternatives? (run? isTokenChar) steps rest).map fun rest => (.tokens, rest)
  | cs =>
    match word? "NOTATION".toList cs with
    | some rest => do
      let rest ← alternatives? name? steps (← word? ['('] (← space? rest))
      return (.name, rest)
    | none => oneOf? attributeTypes cs

def attributeDefault (steps : Nat) (cs : List Char) :
    Scan (Option (List Char) × List Char) := do
  match oneOf? [("#REQUIRED", ()), ("#IMPLIED", ())] cs with
  | some (_, rest) => return (none, rest)
  | none =>
    let cs ← match word? "#FIXED".toList cs with
      | some rest => space? rest
      | none => some cs
    let (parts, rest) ← value {} steps cs
    return (some (keptText parts), rest)

def pieces (cs : List Char) : List (List Char) := (cs.splitOn ' ').filter (!·.isEmpty)

def isName : List Char → Bool
  | c :: rest => isOpenStart c && rest.all isTokenChar
  | [] => false

def isToken (cs : List Char) : Bool := !cs.isEmpty && cs.all isTokenChar

def isListOf (isItem : List Char → Bool) (cs : List Char) : Bool :=
  !(pieces cs).isEmpty && (pieces cs).all isItem

def AttributeType.allows : AttributeType → List Char → Bool
  | .text, _ => true
  | .identifier, cs | .name, cs => isName cs
  | .names, cs => isListOf isName cs
  | .token, cs => isToken cs
  | .tokens, cs => isListOf isToken (skipSpace cs)

def collapsed (cs : List Char) : List Char := [' '].intercalate (pieces cs)

def ruleType? (rules : List AttributeRule) (element name : List Char) : Option AttributeType :=
  (rules.find? fun r => r.element == element && r.name == name).map (·.type)

def identifierName : List Char := "xml:id".toList

/-- Adds a rule, unless there is one for the attribute. An element has one identifier. -/
def addRule (rule : AttributeRule) (defaultValue : Option (List Char)) : Scan Unit := do
  if rule.name = identifierName ∧ rule.type ≠ .identifier then Scan.err
  let fits := fun text =>
    rule.type.allows (if rule.type = .text then text else collapsed text)
  if !defaultValue.all fits then Scan.err
  let rules := (← get).rules
  if (ruleType? rules rule.element rule.name).isSome then Scan.warn
  else
    if rule.type = .identifier ∧
        rules.any fun r => r.element == rule.element && r.type == .identifier then
      Scan.err
    modify fun p => { p with rules := p.rules ++ [rule] }

def attributeRules (element : List Char) : Nat → List Char → Scan (List Char)
  | 0, _ => failure
  | steps + 1, cs =>
    match skipSpace cs with
    | '>' :: rest => return rest
    | cs => do
      let (name, cs) ← name? cs
      let (type, cs) ← attributeType? steps (← space? cs)
      let (defaultValue, cs) ← attributeDefault steps (← space? cs)
      guard (cs.head? == some '>' || (space? cs).isSome)
      addRule ⟨element, name, type⟩ defaultValue
      attributeRules element steps cs

def attributeList (steps : Nat) (cs : List Char) : Scan (List Char) := do
  let (element, rest) ← name? (← space? cs)
  attributeRules element steps rest

def isPublicChar (c : Char) : Bool :=
  c.isAlphanum || c == ' ' || c == '\n' || c == '\r' || "-'()+,./:=?;!*#@$_%".toList.contains c

def publicId? (cs : List Char) : Option (List Char) := do
  let (text, rest) ← quoted? cs
  let _ ← bounded? text
  if text.all isPublicChar then some rest else none

def systemId? (cs : List Char) : Option (List Char × List Char) := do
  let (text, rest) ← quoted? cs
  return (← bounded? text, rest)

/-- A system identifier, with a public one before it or not. -/
def externalId? (cs : List Char) : Option (List Char × List Char) :=
  match word? "SYSTEM".toList cs with
  | some rest => do systemId? (← space? rest)
  | none => do
    let rest ← publicId? (← space? (← word? "PUBLIC".toList cs))
    systemId? (← space? rest)

/-- The rest after the identifier of a notation, which may be a public one alone. -/
def notationId? (cs : List Char) : Option (List Char) :=
  match externalId? cs with
  | some (_, rest) => some rest
  | none => do publicId? (← space? (← word? "PUBLIC".toList cs))

def notationRule (cs : List Char) : Scan (List Char) := do
  let (name, rest) ← name? (← space? cs)
  if name.contains ':' then Scan.err
  let rest ← word? ['>'] (skipSpace (← notationId? (← space? rest)))
  if (← get).notations.contains name then Scan.err
  else modify fun p => { p with notations := name :: p.notations }
  return rest

def typeRule (steps : Nat) (cs : List Char) : Scan (List Char) :=
  match word? "<!ELEMENT".toList cs with
  | some rest => elementRule steps rest
  | none =>
    match word? "<!ATTLIST".toList cs with
    | some rest => attributeList steps rest
    | none => do notationRule (← word? "<!NOTATION".toList cs)

end EntityScaffold.Xml
