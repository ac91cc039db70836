import EntityScaffold.Text.Blank
import EntityScaffold.Text.Case

/-!
Marked-up text. A tag in brackets turns a style on, or off if it begins with a slash; a backslash in
front of a bracket takes its meaning away. What no style has turned on cannot be turned off.
-/
namespace EntityScaffold.CommandLine.Markup

inductive Piece where
  | char (c : Char)
  | tag (text : List Char)
  deriving DecidableEq, Repr

def opensTag (c : Char) : Bool := ('a' ≤ c && c ≤ 'z') || c == '#' || c == '/' || c == '@'

def tagText? (behind : List Char) : Option (List Char) :=
  let text := behind.takeWhile fun c => c != '[' && c != ']'
  if text.head?.any opensTag && (behind.drop text.length).head? = some ']' then some text else none

/-- Tags and characters, behind some characters that are passed over. -/
def split : Nat → List Char → List Piece
  | _, [] => []
  | skipped + 1, _ :: rest => split skipped rest
  | 0, c :: rest =>
    match if c = '[' then tagText? rest else none with
    | some text => .tag text :: split (text.length + 1) rest
    | none => .char c :: split 0 rest

def slashes (n : Nat) : List Piece := List.replicate n (.char '\\')

/-- Reads backslashes, of which some stand before what is next. Two make one before a tag, and one is
dropped before any other bracket. -/
def unescape : Nat → List Piece → List Piece
  | n, [] => slashes n
  | n, .tag text :: rest =>
    let whole := if n % 2 = 0 then [.tag text] else ('[' :: text ++ [']']).map .char
    slashes (n / 2) ++ whole ++ unescape 0 rest
  | n, .char c :: rest =>
    if c = '\\' then unescape (n + 1) rest
    else slashes (if c = '[' then n - 1 else n) ++ .char c :: unescape 0 rest

def pieces (markup : String) : List Piece := unescape 0 (split 0 markup.toList)

def plainText (markup : String) : String :=
  String.ofList <| (pieces markup).filterMap fun p =>
    match p with
    | .char c => some c
    | .tag _ => none

def styleName (text : List Char) : List Char :=
  Text.lowerChars (Text.trim (text.takeWhile (· != '=')))

/-- The styles that are on after a tag, the latest first; a slash alone turns off the latest. -/
def turn (on : List (List Char)) (text : List Char) : Option (List (List Char)) :=
  match text, on with
  | '/' :: rest, style :: older =>
    if styleName rest = [] then some older
    else if styleName rest ∈ style :: older then some ((style :: older).erase (styleName rest))
    else none
  | '/' :: _, [] => none
  | _, _ => some (styleName text :: on)

/-- Whether every tag that turns a style off finds it on. -/
def isWellFormed (markup : String) : Bool :=
  let tags := (pieces markup).filterMap fun p =>
    match p with
    | .char _ => none
    | .tag text => some text
  (tags.foldlM turn []).isSome

end EntityScaffold.CommandLine.Markup
