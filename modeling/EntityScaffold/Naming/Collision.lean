import EntityScaffold.Model.Label
import Std.Data.HashSet

/-!
Free names. A name that is taken gets the least decimal suffix that makes it free; the number of
suffixes tried is limited.
-/
namespace EntityScaffold.Naming

def suffixed (base : String) (k : Nat) : String := base ++ toString k

def firstFree? (base : String) (taken : String → Bool) : Nat → Nat → Option String
  | 0, _ => none
  | tries + 1, k =>
    if taken (suffixed base k) then firstFree? base taken tries (k + 1) else some (suffixed base k)

def freeSuffixed (base : String) (taken : String → Bool) : Except Fault String :=
  match firstFree? base taken Fault.suffixLimit 1 with
  | some name => .ok name
  | none => .error (.noFreeName base)

def freeName (base : String) (taken : String → Bool) : Except Fault String :=
  if taken base then freeSuffixed base taken else .ok base

/-- A free label: one that is no text is taken as it is, or as it is shown with a suffix. -/
def freeLabel (base : Label) (taken : Label → Bool) : Except Fault Label := do
  let base ← base.atom
  if taken base then
    return .str (← freeSuffixed base.display fun s => taken (.str s))
  else return base

theorem freeLabel_str (base : String) (taken : Label → Bool) :
    freeLabel (.str base) taken = (freeName base fun s => taken (.str s)).map .str := by
  unfold freeLabel freeName
  by_cases h : taken (.str base) <;> simp [h, Json.display, bind, Except.bind, pure, Except.pure] <;>
    cases freeSuffixed base (fun s => taken (.str s)) <;> rfl

structure TakenLabels where
  texts : Std.HashSet String
  others : List Label

namespace TakenLabels

def contains (taken : TakenLabels) : Label → Bool
  | .str s => taken.texts.contains s
  | other => taken.others.contains other

def insert (taken : TakenLabels) : Label → TakenLabels
  | .str s => { taken with texts := taken.texts.insert s }
  | other => { taken with others := other :: taken.others }

def ofLabels (labels : List Label) : TakenLabels := labels.foldl insert ⟨∅, []⟩

end TakenLabels

/-- Frees the bases one after the other, each free label being taken for those that follow. -/
def freeLabels (taken : TakenLabels) : List Label → List (Except Fault Label)
  | [] => []
  | base :: rest =>
    let result := freeLabel base taken.contains
    let taken := match result with
      | .ok label => taken.insert label
      | .error _ => taken
    result :: freeLabels taken rest

end EntityScaffold.Naming
