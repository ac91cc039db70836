import EntityScaffold.Text.Blank
import EntityScaffold.Text.Identifier
import EntityScaffold.Xml.Progress
import EntityScaffold.Xml.Skip

/-!
Processing instructions. A target that is spelled like the word of the declaration, in any case, is
reserved; other targets that begin so are allowed with a warning, save two that are well known. The
text of an instruction may hold settings, written as attributes are.
-/
namespace EntityScaffold.Xml

def reservedTarget : List Char := "xml".toList

def knownTargets : List (List Char) := ["xml-stylesheet".toList, "xml-model".toList]

def checkTarget (target : List Char) : Scan Unit := do
  if (target.map Char.toLower).take reservedTarget.length = reservedTarget then
    guard (target.length ≠ reservedTarget.length)
    if knownTargets.contains target then return
    Scan.warn
  if target.contains ':' then Scan.err

def instructionText? : List Char → Option (List Char × List Char)
  | '?' :: '>' :: rest => some ([], rest)
  | c :: rest => (instructionText? rest).map fun (text, rest) => (c :: text, rest)
  | [] => none

def instruction (cs : List Char) : Scan (List Char × List Char) := do
  let (target, rest) ← name? cs
  checkTarget target
  match word? "?>".toList rest with
  | some rest => return ([], rest)
  | none =>
    let (text, rest) ← instructionText? (← space? rest)
    return (unifyLines text, rest)

def pseudoAttribute? (cs : List Char) : Option ((List Char × List Char) × List Char) := do
  let name := cs.takeWhile Text.isWordChar
  guard !name.isEmpty
  let rest ← word? ['='] (Text.trimLeft (cs.dropWhile Text.isWordChar))
  let (value, rest) ← quoted? (Text.trimLeft rest)
  return ((name, value), rest)

def pseudoAttributes : Nat → List Char → List (List Char × List Char)
  | 0, _ => []
  | _ + 1, [] => []
  | steps + 1, c :: rest =>
    if Text.isBlank c then
      match pseudoAttribute? (Text.trimLeft rest) with
      | some (setting, rest) => setting :: pseudoAttributes steps rest
      | none => pseudoAttributes steps (Text.trimLeft rest)
    else pseudoAttributes steps rest

/-- The settings of an instruction; the last of several of one name counts. -/
def settingsOf (text : List Char) : List (List Char × List Char) :=
  (pseudoAttributes (text.length + 2) (' ' :: text)).reverse

/-- Space, comments and instructions; every round takes at least one character. -/
def skipMisc : Nat → List Char → Scan (List Char)
  | 0, cs => return cs
  | rounds + 1, cs =>
    match skipSpace cs with
    | '<' :: '!' :: '-' :: '-' :: rest => do skipMisc rounds (← afterComment? rest)
    | '<' :: '?' :: rest => do
      let (_, rest) ← instruction rest
      skipMisc rounds rest
    | rest => return rest

def skipMiscAll (cs : List Char) : Scan (List Char) := skipMisc (cs.length + 1) cs

end EntityScaffold.Xml
