import EntityScaffold.Text.Blank

/-!
The layout of a source file: no line ends in blanks, blank lines stand alone and only between
others, and the text ends in one line feed. The lines that are not blank are kept in their order.
-/
namespace EntityScaffold.Source
open Text

/-- The lines of a text; there is always one, which may be empty. -/
def linesOf : List Char → List (List Char)
  | [] => [[]]
  | c :: rest =>
    if c = '\n' then [] :: linesOf rest
    else
      match linesOf rest with
      | [] => [[c]]
      | line :: lines => (c :: line) :: lines

def joinLines : List (List Char) → List Char
  | [] => []
  | [line] => line
  | line :: lines => line ++ '\n' :: joinLines lines

def singleBlanks (afterBlank : Bool) : List (List Char) → List (List Char)
  | [] => []
  | line :: rest =>
    if line.isEmpty then
      if afterBlank then singleBlanks true rest else line :: singleBlanks true rest
    else line :: singleBlanks false rest

def dropEmptyEnds (lines : List (List Char)) : List (List Char) :=
  ((lines.dropWhile (·.isEmpty)).reverse.dropWhile (·.isEmpty)).reverse

def tidyLines (lines : List (List Char)) : List (List Char) :=
  dropEmptyEnds (singleBlanks false (lines.map trimRight))

def tidyChars (cs : List Char) : List Char := joinLines (tidyLines (linesOf cs)) ++ ['\n']

def tidy (text : String) : String := String.ofList (tidyChars text.toList)

def indented (line : String) : String := "    " ++ line

def block (header : String) (body : List String) : List String :=
  header :: "\x7b" :: body.map indented ++ ["\x7d"]

def codeText (lines : List String) : String := tidy ("\n".intercalate lines)

end EntityScaffold.Source
