import EntityScaffold.Json.Value

/-!
Writing values: one item a line with two blanks for each level, and on one line. Characters outside
ASCII are written as they are.
-/
namespace EntityScaffold.Json

def escapedChar (c : Char) : List Char :=
  if c = '\x22' then ['\\', '\x22']
  else if c = '\\' then ['\\', '\\']
  else if c = '\n' then ['\\', 'n']
  else if c = '\r' then ['\\', 'r']
  else if c = '\t' then ['\\', 't']
  else if c = '\x08' then ['\\', 'b']
  else if c = '\x0c' then ['\\', 'f']
  else if c.toNat < 32 then ['\\', 'u'] ++ Text.hexDigits 4 c.toNat
  else [c]

def stringText (s : String) : String :=
  String.ofList ('\x22' :: s.toList.flatMap escapedChar ++ ['\x22'])

def indent (level : Nat) : String := "\n" ++ String.ofList (List.replicate (2 * level) ' ')

def scalarText : Json → String
  | .null => "null"
  | .bool true => "true"
  | .bool false => "false"
  | .int n => toString n
  | .decimal t => t
  | .str s => stringText s
  | .arr _ => "[]"
  | .obj _ => "\x7b\x7d"

mutual

def pretty (level : Nat) : Json → String
  | .arr (j :: rest) =>
    "[" ++ indent (level + 1) ++ pretty (level + 1) j ++ prettyItems (level + 1) rest ++
      indent level ++ "]"
  | .obj ((name, j) :: rest) =>
    "\x7b" ++ indent (level + 1) ++ stringText name ++ ": " ++ pretty (level + 1) j ++
      prettyFields (level + 1) rest ++ indent level ++ "\x7d"
  | j => scalarText j

def prettyItems (level : Nat) : List Json → String
  | [] => ""
  | j :: rest => "," ++ indent level ++ pretty level j ++ prettyItems level rest

def prettyFields (level : Nat) : List (String × Json) → String
  | [] => ""
  | (name, j) :: rest =>
    "," ++ indent level ++ stringText name ++ ": " ++ pretty level j ++ prettyFields level rest

end

mutual

def compact : Json → String
  | .arr items => "[" ++ ",".intercalate (compactItems items) ++ "]"
  | .obj fs => "\x7b" ++ ",".intercalate (compactFields fs) ++ "\x7d"
  | j => scalarText j

def compactItems : List Json → List String
  | [] => []
  | j :: rest => compact j :: compactItems rest

def compactFields : List (String × Json) → List String
  | [] => []
  | (name, j) :: rest => (stringText name ++ ":" ++ compact j) :: compactFields rest

end

end EntityScaffold.Json
