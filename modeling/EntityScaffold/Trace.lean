import EntityScaffold.Noted

/-!
Traces: what a long step makes, one item after the other, with the notices left in between and the
fault that stopped it, if one did. Nothing follows a fault.
-/
namespace EntityScaffold

inductive Step (α : Type) where
  | notice (n : Notice)
  | item (a : α)

structure Trace (α : Type) where
  steps : List (Step α)
  stopped : Option Fault

namespace Trace

variable {α β : Type}

def empty : Trace α := ⟨[], none⟩

def one (a : α) : Trace α := ⟨[.item a], none⟩

def ofNotice (n : Notice) : Trace α := ⟨[.notice n], none⟩

def fault (f : Fault) : Trace α := ⟨[], some f⟩

def ofNoted (x : Noted α) : Trace α :=
  match x.outcome with
  | .ok a => ⟨x.notices.map .notice ++ [.item a], none⟩
  | .error f => ⟨x.notices.map .notice, some f⟩

def ofExcept (x : Except Fault α) : Trace α :=
  match x with
  | .ok a => one a
  | .error f => fault f

def append (x y : Trace α) : Trace α :=
  match x.stopped with
  | some _ => x
  | none => ⟨x.steps ++ y.steps, y.stopped⟩

instance : Append (Trace α) := ⟨append⟩

def after (x : Noted β) (next : β → Trace α) : Trace α :=
  match x.outcome with
  | .ok b => ⟨x.notices.map .notice, none⟩ ++ next b
  | .error f => ⟨x.notices.map .notice, some f⟩

def forEach (bs : List β) (f : β → Trace α) : Trace α :=
  match bs with
  | [] => empty
  | b :: rest => f b ++ forEach rest f

def Step.map (f : α → β) : Step α → Step β
  | .notice n => .notice n
  | .item a => .item (f a)

def map (f : α → β) (x : Trace α) : Trace β := ⟨x.steps.map (Step.map f), x.stopped⟩

def tryMapSteps (f : α → Except Fault β) (stopped : Option Fault) : List (Step α) → Trace β
  | [] => ⟨[], stopped⟩
  | .notice n :: rest => ofNotice n ++ tryMapSteps f stopped rest
  | .item a :: rest =>
    match f a with
    | .ok b => one b ++ tryMapSteps f stopped rest
    | .error e => fault e

def tryMap (f : α → Except Fault β) (x : Trace α) : Trace β := tryMapSteps f x.stopped x.steps

def items (x : Trace α) : List α :=
  x.steps.filterMap fun s =>
    match s with
    | .item a => some a
    | .notice _ => none

def notices (x : Trace α) : List Notice :=
  x.steps.filterMap fun s =>
    match s with
    | .notice n => some n
    | .item _ => none

theorem append_of_stopped {x : Trace α} (y : Trace α) {f : Fault} (h : x.stopped = some f) :
    x ++ y = x := by
  show append x y = x
  simp [append, h]

theorem append_of_done {x : Trace α} (y : Trace α) (h : x.stopped = none) :
    x ++ y = ⟨x.steps ++ y.steps, y.stopped⟩ := by
  show append x y = _
  simp [append, h]

theorem items_append_of_done {x : Trace α} (y : Trace α) (h : x.stopped = none) :
    (x ++ y).items = x.items ++ y.items := by
  rw [append_of_done y h]
  simp [items]

theorem stopped_append (x y : Trace α) : (x ++ y).stopped = x.stopped.or y.stopped := by
  cases h : x.stopped with
  | none => rw [append_of_done y h]; rfl
  | some f => rw [append_of_stopped y h, h]; rfl

end Trace

end EntityScaffold
