import EntityScaffold.Xml.Instruction
import EntityScaffold.Xml.Tag

/-!
Content. The elements still open stand on a stack, the innermost first, so that one step over the
text is one piece of markup. Instructions and references to entities are kept as nodes without a
name. The text of an entity must be content in itself and is read once, at its first reference; what
it holds does not become part of the document.
-/
namespace EntityScaffold.Xml

/-- An open element: what its end tag must repeat, and the nodes read so far, last first. -/
structure Frame where
  key : QName
  scope : Scope
  element : Element
  done : List Element

namespace Frame

def close (f : Frame) : Element :=
  .mk f.element.space f.element.name f.element.attributes f.done.reverse

def add (f : Frame) (node : Element) : Frame := { f with done := node :: f.done }

def around : Frame := ⟨⟨none, []⟩, [], .nameless [], []⟩

def isAround (f : Frame) : Bool := f.key.name.isEmpty

end Frame

def nestingLimit : Nat := 256

/-- The rest after text, which may not close a section that is not open. -/
def afterText? : List Char → Option (List Char)
  | ']' :: ']' :: '>' :: _ => none
  | '<' :: rest => some ('<' :: rest)
  | '&' :: rest => some ('&' :: rest)
  | _ :: rest => afterText? rest
  | [] => some []

/-- The node of an instruction: its settings are asked for as attributes are. -/
def instructionNode (text : List Char) : Element :=
  .nameless ((settingsOf text).map fun s => ⟨none, String.ofList s.1, String.ofList s.2⟩)

/-- Content up to the end tag of the outermost frame, or to the end of the text when that frame
stands for no element. `enter` reads the text of an entity, given how many elements are open and
what follows. -/
def content (enter : Nat → List Char → List Char → Scan Unit) :
    Nat → Frame → List Frame → List Char → Scan (Element × List Char)
  | 0, _, _, _ => failure
  | steps + 1, top, outer, cs => do
    let opened := (← read).nesting + outer.length + 1
    match ← afterText? cs with
    | [] =>
      guard (outer.isEmpty && top.isAround)
      return (top.close, [])
    | '<' :: '/' :: rest =>
      guard !top.isAround
      let rest ← word? ['>'] (skipSpace (← word? top.key.text rest))
      match outer with
      | [] => return (top.close, rest)
      | parent :: more => content enter steps (parent.add top.close) more rest
    | '<' :: '!' :: '-' :: '-' :: rest => content enter steps top outer (← afterComment? rest)
    | '<' :: '?' :: rest =>
      let (text, rest) ← instruction rest
      content enter steps (top.add (instructionNode text)) outer rest
    | '<' :: '!' :: rest =>
      content enter steps top outer (← afterData? (← word? "[CDATA[".toList rest))
    | '<' :: rest =>
      let (tag, rest) ← tag (steps + 1) rest
      let (element, scope) ← openElement top.scope tag
      guard (opened + 1 ≤ nestingLimit)
      if tag.isEmpty then content enter steps (top.add element) outer rest
      else content enter steps ⟨tag.key, scope, element, []⟩ (top :: outer) rest
    | '&' :: rest =>
      let (reference, rest) ← reference? rest
      match reference with
      | .character _ | .predefined _ => content enter steps top outer rest
      | .entity name =>
        enter opened name rest
        content enter steps (top.add (.nameless [])) outer rest
    | _ :: rest => content enter steps top outer rest

def enterEntity : Nat → Nat → List Char → List Char → Scan Unit
  | depth, opened, name, rest => do
    let key := generalKey name
    match ← referent name false with
    | .elsewhere | .nothing => return
    | .text text =>
      match depth, (← Scan.entity? key).bind (·.firstUse) with
      | _, some _ => Scan.charge (((← Scan.entity? key).map (·.size)).getD 0) rest
      | 0, none => failure
      | depth + 1, none =>
        guard (opened + 1 ≤ nestingLimit)
        let _ ← Scan.inEntity key text opened
          (content (enterEntity depth) (text.length + 1) Frame.around [] text)
        Scan.use key .content
        Scan.settle key text rest

def outermost (cs : List Char) : Scan (Element × List Char) := do
  let steps := cs.length + 1
  let (tag, rest) ← tag steps cs
  let (element, scope) ← openElement [] tag
  if tag.isEmpty then return (element, rest)
  else content (enterEntity (← Scan.depthLeft)) steps ⟨tag.key, scope, element, []⟩ [] rest

end EntityScaffold.Xml
