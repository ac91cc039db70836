import EntityScaffold.Fault
import EntityScaffold.Notice

/-!
Steps that leave notices and may fail. Notices are kept in the order they were left, those before a
fault included; a step after a fault leaves none.
-/
namespace EntityScaffold

structure Noted (α : Type) where
  notices : List Notice
  outcome : Except Fault α

namespace Noted

def of (a : α) : Noted α := ⟨[], .ok a⟩

def fail (f : Fault) : Noted α := ⟨[], .error f⟩

def note (n : Notice) : Noted Unit := ⟨[n], .ok ()⟩

def lift (e : Except Fault α) : Noted α := ⟨[], e⟩

def andThen (x : Noted α) (f : α → Noted β) : Noted β :=
  match x.outcome with
  | .error e => ⟨x.notices, .error e⟩
  | .ok a => ⟨x.notices ++ (f a).notices, (f a).outcome⟩

instance : Monad Noted where
  pure := of
  bind := andThen

instance : MonadLift (Except Fault) Noted := ⟨lift⟩

@[simp] theorem outcome_pure (a : α) : (pure a : Noted α).outcome = .ok a := rfl

@[simp] theorem notices_pure (a : α) : (pure a : Noted α).notices = [] := rfl

theorem outcome_bind (x : Noted α) (f : α → Noted β) :
    (x >>= f).outcome = x.outcome >>= fun a => (f a).outcome := by
  show (andThen x f).outcome = _
  unfold andThen
  cases x.outcome <;> rfl

theorem outcome_bind_eq_ok {x : Noted α} {f : α → Noted β} {b : β} :
    (x >>= f).outcome = .ok b ↔ ∃ a, x.outcome = .ok a ∧ (f a).outcome = .ok b := by
  rw [outcome_bind]
  cases x.outcome <;> simp [bind, Except.bind]

@[simp] theorem outcome_lift (e : Except Fault α) : (lift e).outcome = e := rfl

@[simp] theorem outcome_liftM (e : Except Fault α) : (liftM e : Noted α).outcome = e := rfl

theorem bind_of_error {x : Noted α} {e : Fault} (f : α → Noted β) (failed : x.outcome = .error e) :
    x >>= f = ⟨x.notices, .error e⟩ := by
  show andThen x f = _
  simp [andThen, failed]

theorem bind_of_ok {x : Noted α} {a : α} (f : α → Noted β) (found : x.outcome = .ok a) :
    x >>= f = ⟨x.notices ++ (f a).notices, (f a).outcome⟩ := by
  show andThen x f = _
  simp [andThen, found]

theorem map_id_self (x : Noted α) : id <$> x = x := by
  show andThen x (fun a => of (id a)) = x
  obtain ⟨notices, outcome⟩ := x
  cases outcome <;> simp [andThen, of]

theorem bind_pure_left (a : α) (f : α → Noted β) : (pure a : Noted α) >>= f = f a := by
  show andThen (of a) f = f a
  simp [andThen, of]

theorem bind_assoc_steps (x : Noted α) (f : α → Noted β) (g : β → Noted γ) :
    x >>= f >>= g = x >>= fun a => f a >>= g := by
  cases found : x.outcome with
  | error e =>
    rw [bind_of_error f found, bind_of_error _ found]
    exact bind_of_error g rfl
  | ok a =>
    rw [bind_of_ok f found, bind_of_ok _ found]
    cases next : (f a).outcome with
    | error e => rw [bind_of_error g next, bind_of_error g rfl]
    | ok b =>
      rw [bind_of_ok g next, bind_of_ok g rfl]
      simp

instance : LawfulMonad Noted := .mk' Noted map_id_self bind_pure_left bind_assoc_steps

end Noted

end EntityScaffold
