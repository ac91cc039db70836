import EntityScaffold.Model.Label
import EntityScaffold.Source.Literal
import EntityScaffold.Text.Blank
import EntityScaffold.Text.Identifier

/-!
Templates: literal text with holes in double braces. A hole names a value and may pass it through
`quote`, which makes a string literal, or `chain`, which joins calls. Filled-in text is not read
again. A line break of two characters counts as one line feed.
-/
namespace EntityScaffold.Source
open Text

inductive HoleFilter where
  | plain
  | quoted
  | chained
  deriving DecidableEq, Repr

inductive TemplatePiece where
  | text (cs : List Char)
  | hole (name : String) (filter : HoleFilter)
  deriving DecidableEq, Repr

def singleBreaks : List Char → List Char
  | '\r' :: '\n' :: rest => '\n' :: singleBreaks rest
  | c :: rest => (if c = '\r' then '\n' else c) :: singleBreaks rest
  | [] => []

def holeOf (cs : List Char) : TemplatePiece :=
  let name := trim (cs.takeWhile (· != '|'))
  let filter := trim ((cs.dropWhile (· != '|')).drop 1)
  .hole (String.ofList name)
    (if filter = "quote".toList then .quoted
    else if filter = "chain".toList then .chained
    else .plain)

def closeHole? (read : List Char) : List Char → Option (List Char × List Char)
  | '}' :: '}' :: rest => some (read.reverse, rest)
  | c :: rest => closeHole? (c :: read) rest
  | [] => none

theorem length_closeHole {read cs inside rest : List Char}
    (h : closeHole? read cs = some (inside, rest)) : rest.length < cs.length := by
  induction cs generalizing read with
  | nil => simp [closeHole?] at h
  | cons c cs ih =>
    unfold closeHole? at h
    split at h
    · rename_i same
      cases h
      cases same
      simp only [List.length_cons]
      omega
    · rename_i same
      cases same
      have shorter := ih h
      simp only [List.length_cons]
      omega
    · rename_i same
      cases same

/-- The pieces of a template; braces that are never closed are text. -/
def pieces (cs : List Char) : List TemplatePiece :=
  match cs with
  | '{' :: '{' :: rest =>
    match _h : closeHole? [] rest with
    | some (inside, after) => holeOf inside :: pieces after
    | none => [.text cs]
  | c :: rest => .text [c] :: pieces rest
  | [] => []
termination_by cs.length
decreasing_by
  · have shorter := length_closeHole _h
    simp only [List.length_cons]
    omega
  · simp only [List.length_cons]
    omega

def HoleFilter.apply (value : Json) : HoleFilter → Except Fault String
  | .plain => .ok value.display
  | .quoted => .ok (literal value.display)
  | .chained => (Label.parts value).map fun calls => chain "." (calls.map (·.display))

def TemplatePiece.render (template : String) (context : Json) : TemplatePiece → Except Fault String
  | .text cs => .ok (String.ofList cs)
  | .hole name filter =>
    match context.field? name with
    | some value => filter.apply value
    | none => .error (.layout template (.undefined name))

/-- The name by which a template goes within itself; no context may give it another meaning. -/
def ownName : String := "self"

def contextOf (context : Json) : Except Fault Json :=
  match context with
  | .obj fields =>
    if (fields.lookup ownName).isSome then .error (.wrongForm ownName) else .ok (.obj fields)
  | other => .error (.wrongForm other.display)

def renderTemplate (template source : String) (context : Json) : Except Fault String := do
  let context ← contextOf context
  let texts ← (pieces (singleBreaks source.toList)).mapM (·.render template context)
  return String.join texts

def unnamedTemplate : String := "string"

/-- Templates by name. What is no text is found there, but it is no template. -/
abbrev TemplateShelf := List (String × Label)

namespace TemplateShelf

def contains (shelf : TemplateShelf) (name : String) : Except Fault Bool :=
  match shelf.lookup name with
  | none => .ok false
  | some source => source.text.map fun _ => true

def render (shelf : TemplateShelf) (name : String) (context : Json) : Except Fault String :=
  match shelf.lookup name with
  | none => .error (.layout name (.missing name))
  | some source => do renderTemplate name (← source.text) context

end TemplateShelf

def renderText (source : Label) (context : Json) : Except Fault String := do
  renderTemplate unnamedTemplate (← source.text) context

end EntityScaffold.Source
