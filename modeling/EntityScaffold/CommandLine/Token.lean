import EntityScaffold.CommandLine.Switch
import EntityScaffold.Text.Identifier

/-!
Tokens: what each argument of a command line is, before any is used. Everything after a divider is a
word, and so is whatever does not look like a switch, a negative number among others.
-/
namespace EntityScaffold.CommandLine

/-- What stands in one piece with a switch: the value behind the equals sign of a long name, or
what follows a single letter. -/
inductive Attachment where
  | none
  | value (text : List Char)
  | letters (text : List Char)
  deriving DecidableEq, Repr

inductive Token where
  | word (text : String)
  | divider
  | switch (s : Switch) (name : String) (value : Attachment)
  | unknown (text : String)
  deriving DecidableEq, Repr

def dividerText : String := "--"

def Token.isSwitch : Token → Bool
  | .switch _ _ _ | .unknown _ => true
  | .word _ | .divider => false

def splitValue (cs : List Char) : List Char × Option (List Char) :=
  match cs.dropWhile (· != '=') with
  | [] => (cs, none)
  | _ :: value => (cs.takeWhile (· != '='), some value)

def dropFinalNewline (cs : List Char) : List Char :=
  if cs.getLast? = some '\n' then cs.dropLast else cs

/-- Digits, or digits with one point in front of the last of them, behind a minus sign. One line
break at the end does not count. -/
def isNegativeNumber (cs : List Char) : Bool :=
  let isDigit (c : Char) := (Text.digitValue? c).isSome
  match dropFinalNewline cs with
  | '-' :: rest =>
    let whole := rest.takeWhile isDigit
    match rest.dropWhile isDigit with
    | [] => !whole.isEmpty
    | '.' :: fraction => !fraction.isEmpty && fraction.all isDigit
    | _ => false
  | _ => false

abbrev SwitchMatch := Switch × String × Attachment

def attached : Option (List Char) → Attachment
  | some text => .value text
  | none => .none

def isShortName (name : List Char) : Bool := name.length == 2

def longMatches (cs : List Char) : List SwitchMatch :=
  let (name, value) := splitValue cs
  Switch.named.filterMap fun (n, s) =>
    if name.isPrefixOf n.toList then some (s, n, attached value) else none

def shortMatches (cs : List Char) : List SwitchMatch :=
  Switch.named.filterMap fun (n, s) =>
    if n.toList = cs.take 2 then some (s, n, .letters (cs.drop 2)) else none

def matchesOf (cs : List Char) : List SwitchMatch :=
  match cs with
  | '-' :: '-' :: _ => longMatches cs
  | _ => shortMatches cs

/-- The switch that is named in full, in front of an equals sign or alone. Behind a single letter
the equals sign says no more than that letters follow. -/
def exactMatch? (text : String) : Option SwitchMatch :=
  match Switch.ofName? text with
  | some s => some (s, text, .none)
  | none =>
    match splitValue text.toList with
    | (name, some value) =>
      (Switch.ofName? (String.ofList name)).map fun s =>
        (s, String.ofList name, if isShortName name then .letters value else .value value)
    | (_, none) => none

def switchToken (m : SwitchMatch) : Token := .switch m.1 m.2.1 m.2.2

def tokenOf (text : String) : Except UsageFlaw Token :=
  match text.toList with
  | '-' :: _ :: _ =>
    match exactMatch? text with
    | some m => .ok (switchToken m)
    | none =>
      match matchesOf text.toList with
      | [m] => .ok (switchToken m)
      | [] =>
        if isNegativeNumber text.toList || text.toList.contains ' ' then .ok (.word text)
        else .ok (.unknown text)
      | several => .error (.ambiguous text (several.map (·.2.1)))
  | _ => .ok (.word text)

def tokens : List String → Except UsageFlaw (List Token)
  | [] => .ok []
  | text :: rest =>
    if text = dividerText then .ok (.divider :: rest.map .word)
    else do
      let token ← tokenOf text
      return token :: (← tokens rest)

end EntityScaffold.CommandLine
