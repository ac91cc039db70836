import EntityScaffold.Text.ClassTable

/-!
Identifiers, words and whole numbers over all scripts. An identifier starts with a letter or an
underscore; a word character is any letter, any character with a numeric value, or an underscore.
-/
namespace EntityScaffold.Text

def isIdentifierStart (c : Char) : Bool := c == '_' || inSpans identifierStartSpans c

def isIdentifierContinue (c : Char) : Bool := inSpans identifierContinueSpans c

def isIdentifier (cs : List Char) : Bool :=
  match cs with
  | [] => false
  | c :: rest => isIdentifierStart c && rest.all isIdentifierContinue

def isWordChar (c : Char) : Bool := c == '_' || inSpans alphanumericSpans c

def digitValue? (c : Char) : Option Nat :=
  (decimalSpans.find? (·.contains c.toNat)).map fun s => (c.toNat - s.first) % 10

end EntityScaffold.Text
