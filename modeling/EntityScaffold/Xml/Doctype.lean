import EntityScaffold.Xml.Instruction
import EntityScaffold.Xml.TypeRules

/-!
The document type. Its entities and rules are kept, the first of a name counting. The text of a
parameter holds whole declarations and is read where the parameter is referred to. Nothing outside
the document is ever read.
-/
namespace EntityScaffold.Xml

/-- A parameter may not stand inside the value of an entity. One that is not declared ends the value
where it is tolerated. -/
def strayParameter (cs : List Char) : Scan Unit := do
  let (name, _) ← endedName? cs
  Scan.openUp
  guard (← Scan.entity? (parameterKey name)).isNone
  Scan.undeclared

/-- References to characters by number are replaced at once, references by name stay. The value so
far comes last part first. -/
def literalValue : Nat → List Char → List Char → Scan (List Char)
  | 0, done, _ => return done.reverse
  | _ + 1, done, [] => return done.reverse
  | _ + 1, done, '%' :: rest => do
    strayParameter rest
    return done.reverse
  | steps + 1, done, '&' :: '#' :: rest => do
    match ← reference? ('#' :: rest) with
    | (.character c, rest) => literalValue steps (c :: done) rest
    | _ => failure
  | steps + 1, done, '&' :: rest => do
    let (name, rest) ← endedName? rest
    literalValue steps (('&' :: name ++ [';']).reverse ++ done) rest
  | steps + 1, done, c :: rest => literalValue steps (c :: done) rest

def outsideId? (cs : List Char) : Option (List Char) := do
  let (system, rest) ← externalId? cs
  if system.contains '#' then none else some rest

def entityValue (cs : List Char) : Scan (EntityValue × List Char) := do
  match cs with
  | q :: _ =>
    if isQuote q then
      let (raw, rest) ← quoted? cs
      guard (0 < (← Scan.depthLeft))
      return (.internal (← literalValue (raw.length + 1) [] raw), rest)
    else return (.external, ← outsideId? cs)
  | [] => failure

/-- An external entity of a notation is not parsed; the notation need not be named. -/
def withNotation? (value : EntityValue) (cs : List Char) : Option (EntityValue × List Char) :=
  match (space? cs).bind (word? "NDATA".toList) with
  | none => some (value, cs)
  | some rest => do
    guard (value == .external)
    let rest ← space? rest
    return (.unparsed, ((name? rest).map Prod.snd).getD rest)

def hexText (c : Char) : List Char := (Nat.toDigits 16 c.toNat).map Char.toUpper

/-- Whether a value is what one of the five names stands for anyhow. Two of the five characters have
to be written as references. -/
def restates (c : Char) : EntityValue → Bool
  | .internal ('&' :: '#' :: 'x' :: digits) => digits.map Char.toUpper == hexText c ++ [';']
  | .internal ('&' :: '#' :: digits) => digits == Nat.toDigits 10 c.toNat ++ [';']
  | .internal [d] => d == c && c != '&' && c != '<'
  | _ => false

def declareGeneral (name : List Char) (value : EntityValue) : Scan Unit :=
  match predefined.lookup name with
  | none => Scan.declare (generalKey name) value
  | some c => if restates c value then pure () else Scan.warn

def entityDeclaration (cs : List Char) : Scan (List Char) := do
  let cs ← space? cs
  let isParameter := cs.head? == some '%'
  let cs ← if isParameter then space? (cs.drop 1) else some cs
  let (name, cs) ← name? cs
  if name.contains ':' then Scan.err
  let (value, cs) ← entityValue (← space? cs)
  if isParameter then
    Scan.declare (parameterKey name) value
    word? ['>'] (skipSpace cs)
  else
    let (value, cs) ← withNotation? value cs
    declareGeneral name value
    word? ['>'] (skipSpace cs)

/-- Declarations up to what is none; `enter` reads the text of a parameter, given what follows. -/
def declarations (enter : List Char → List Char → Scan Unit) :
    Nat → List Char → Scan (List Char)
  | 0, _ => failure
  | steps + 1, cs =>
    match skipSpace cs with
    | '%' :: rest => do
      let (name, rest) ← endedName? rest
      Scan.openUp
      enter name rest
      declarations enter steps rest
    | '<' :: '!' :: '-' :: '-' :: rest => do declarations enter steps (← afterComment? rest)
    | '<' :: '?' :: rest => do
      let (_, rest) ← instruction rest
      declarations enter steps rest
    | '<' :: rest =>
      match word? "!ENTITY".toList rest with
      | some rest => do declarations enter steps (← entityDeclaration rest)
      | none => do declarations enter steps (← typeRule steps ('<' :: rest))
    | rest => return rest

def enterParameter : Nat → List Char → List Char → Scan Unit
  | depth, name, rest => do
    let key := parameterKey name
    match ← Scan.entity? key with
    | none => Scan.undeclared
    | some e =>
      match depth, e.value with
      | depth + 1, .internal text =>
        let left ← Scan.inEntity key text 0
          (declarations (enterParameter depth) (text.length + 1) text)
        guard left.isEmpty
        Scan.settle key text rest
      | 0, .internal _ => failure
      | _, .external | _, .unparsed => return

def doctype (cs : List Char) : Scan (List Char) := do
  modify fun p => { p with inSubset := true }
  let (_, cs) ← name? (← space? cs)
  let outside := (space? cs).bind externalId?
  if outside.isSome then Scan.openUp
  let cs := match outside with
    | some (_, rest) => skipSpace rest
    | none => skipSpace cs
  let rest ← match cs with
    | '[' :: rest => do
      let rest ← declarations (enterParameter (← Scan.depthLeft)) (rest.length + 1) rest
      word? [']'] rest
    | rest => pure rest
  modify fun p => { p with inSubset := false }
  word? ['>'] (skipSpace rest)

end EntityScaffold.Xml
