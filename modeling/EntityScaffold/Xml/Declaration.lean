import EntityScaffold.Xml.Name

/-!
The declaration that may open a document: its version, then its encoding, then whether it stands
alone, each with space before it.
-/
namespace EntityScaffold.Xml

structure Declaration where
  version : List Char := "1.0".toList
  encoding : Option (List Char) := none
  standalone : Bool := false

def declarationStart : List Char := "<?xml".toList

def Declaration.hasKnownVersion (d : Declaration) : Bool := d.version == "1.0".toList

/-- Versions of one are read, though just one of them is known. -/
def isVersion : List Char → Bool
  | '1' :: '.' :: rest => rest.all Char.isDigit
  | _ => false

def isEncodingName : List Char → Bool
  | c :: rest =>
    c.isAlpha && rest.all fun c => c.isAlphanum || c == '.' || c == '_' || c == '-'
  | [] => false

def setting? (name : String) (cs : List Char) : Option (List Char × List Char) := do
  quoted? (← equals? (← word? name.toList cs))

def optional? (name : String) (cs : List Char) : Option (Option (List Char) × List Char) :=
  match space? cs with
  | none => some (none, cs)
  | some rest =>
    match word? name.toList rest with
    | none => some (none, cs)
    | some _ => (setting? name rest).map fun (value, rest) => (some value, rest)

def declaration? (cs : List Char) : Option (Declaration × List Char) := do
  let cs ← space? cs
  let (version, cs) ← setting? "version" cs
  guard (isVersion version)
  let (encoding, cs) ← optional? "encoding" cs
  guard (encoding.all isEncodingName)
  let (alone, cs) ← optional? "standalone" cs
  guard (alone.all fun a => a == "yes".toList || a == "no".toList)
  let rest ← word? "?>".toList (skipSpace cs)
  return (⟨version, encoding, alone == some "yes".toList⟩, rest)

def opening? (cs : List Char) : Option (Declaration × List Char) :=
  match word? declarationStart cs with
  | some (c :: rest) => if isSpace c then declaration? (c :: rest) else some ({}, cs)
  | _ => some ({}, cs)

end EntityScaffold.Xml
