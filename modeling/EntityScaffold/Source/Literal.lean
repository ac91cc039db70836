/-!
String literals and the small expressions that generated code is built from. In a literal the
quotation mark and the backslash stand behind a backslash and every other character for itself.
-/
namespace EntityScaffold.Source

def literalMark : Char := '\x22'

def literalChar (c : Char) : List Char :=
  if c = '\\' ∨ c = literalMark then ['\\', c] else [c]

def literalChars (cs : List Char) : List Char :=
  literalMark :: cs.flatMap literalChar ++ [literalMark]

def literal (s : String) : String := String.ofList (literalChars s.toList)

def chain (separator : String) (calls : List String) : String :=
  String.join (calls.map fun call => separator ++ call)

def member (name : String) : String := "x." ++ name

def keyLambda : List String → String
  | [name] => "x => " ++ member name
  | names => "x => new \x7b " ++ ", ".intercalate (names.map member) ++ " \x7d"

end EntityScaffold.Source
