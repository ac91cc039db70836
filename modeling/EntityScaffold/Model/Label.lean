import EntityScaffold.Fault
import EntityScaffold.Json.Equality
import EntityScaffold.Text.Case

/-!
Labels: names that settings may give. A label is a text as a rule, but a settings file may put any
value in its place. Such a value is shown wherever a label is shown, and refused wherever only a
text will do; null and everything empty count as no label.
-/
namespace EntityScaffold

abbrev Label := Json

namespace Label

def text (l : Label) : Except Fault String :=
  match l with
  | .str s => .ok s
  | other => .error (.wrongForm other.display)

def letters (l : Label) : Except Fault String :=
  match l with
  | .str s => .ok s
  | other => .error (.notText other.display)

/-- Lists and objects cannot be looked up among others. -/
def isAtom (l : Label) : Bool :=
  match l with
  | .arr _ | .obj _ => false
  | _ => true

def atom (l : Label) : Except Fault Label :=
  if l.isAtom then .ok l else .error (.wrongForm l.display)

/-- The parts of a label that has parts: items, names of fields, or characters. -/
def parts (l : Label) : Except Fault (List Label) :=
  match l with
  | .arr _ | .obj _ | .str _ => .ok l.items
  | other => .error (.wrongForm other.display)

def isGiven (l : Label) : Bool := Json.truthy l

@[simp] theorem text_str (s : String) : Label.text (.str s) = .ok s := rfl

@[simp] theorem letters_str (s : String) : Label.letters (.str s) = .ok s := rfl

@[simp] theorem atom_str (s : String) : Label.atom (.str s) = .ok (.str s) := rfl

@[simp] theorem isGiven_str (s : String) : Label.isGiven (.str s) = (s != "") := rfl

end Label

end EntityScaffold
