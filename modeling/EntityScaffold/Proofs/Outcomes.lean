import EntityScaffold.Noted
import EntityScaffold.Proofs.Lists
import Mathlib.Data.List.Perm.Basic

/-!
What a step that succeeded says about its parts. A chain succeeds when each of its steps does, and a
walk over a list when it does so at every member.
-/
namespace EntityScaffold

variable {ε α β σ : Type}

theorem bind_ok {x : Except ε α} {f : α → Except ε β} {b : β} :
    (x >>= f) = .ok b ↔ ∃ a, x = .ok a ∧ f a = .ok b := by
  cases x <;> simp [bind, Except.bind]

theorem map_ok {x : Except ε α} {f : α → β} {b : β} :
    x.map f = .ok b ↔ ∃ a, x = .ok a ∧ f a = b := by
  cases x <;> simp [Except.map]

theorem pure_ok {a b : α} : (pure a : Except ε α) = .ok b ↔ a = b := by
  simp [pure, Except.pure]

theorem ok_of_toOption {x : Except ε α} {a : α} (found : x.toOption = some a) : x = .ok a := by
  cases x with
  | error e => cases found
  | ok b => exact congrArg Except.ok (Option.some.inj found)

theorem ok_of_any {x : Except ε α} {P : α → Prop} [DecidablePred P]
    (held : x.toOption.any (fun a => decide (P a)) = true) : ∃ a, x = .ok a ∧ P a := by
  cases x with
  | error e => cases held
  | ok a => exact ⟨a, rfl, of_decide_eq_true held⟩

theorem mapM_ok {f : α → Except ε β} {as : List α} {bs : List β} :
    as.mapM f = .ok bs ↔ List.Forall₂ (fun a b => f a = .ok b) as bs := by
  induction as generalizing bs with
  | nil => cases bs <;> simp [pure, Except.pure]
  | cons a rest ih =>
    rw [List.mapM_cons, List.forall₂_cons_left_iff]
    simp only [bind_ok, pure_ok, ih]
    constructor
    · rintro ⟨b, first, others, walked, rfl⟩
      exact ⟨b, others, first, walked, rfl⟩
    · rintro ⟨b, others, first, walked, rfl⟩
      exact ⟨b, first, others, walked, rfl⟩

theorem source_of_mapM {f : α → Except ε β} {as : List α} {bs : List β}
    (walked : as.mapM f = .ok bs) {b : β} (member : b ∈ bs) : ∃ a ∈ as, f a = .ok b :=
  related_of_mem_right (mapM_ok.1 walked) member

theorem result_of_mapM {f : α → Except ε β} {as : List α} {bs : List β}
    (walked : as.mapM f = .ok bs) {a : α} (member : a ∈ as) : ∃ b ∈ bs, f a = .ok b :=
  related_of_mem_left (mapM_ok.1 walked) member

/-- A walk that fails has failed at a member, after its steps at all earlier ones have succeeded. -/
theorem first_failure {f : α → Except ε β} {as : List α} {e : ε} (failed : as.mapM f = .error e) :
    ∃ before a after, as = before ++ a :: after ∧ (∀ x ∈ before, ∃ b, f x = .ok b) ∧
      f a = .error e := by
  induction as with
  | nil => cases failed
  | cons first rest ih =>
    rw [List.mapM_cons] at failed
    cases own : f first with
    | error g =>
      rw [own] at failed
      cases failed
      exact ⟨[], first, rest, rfl, nofun, own⟩
    | ok b =>
      cases others : rest.mapM f with
      | ok bs =>
        rw [own, others] at failed
        cases failed
      | error g =>
        rw [own, others] at failed
        cases failed
        obtain ⟨before, a, after, rfl, passed, stopped⟩ := ih others
        exact ⟨first :: before, a, after, rfl, List.forall_mem_cons.2 ⟨⟨b, own⟩, passed⟩, stopped⟩

theorem mapM_succeeds {f : α → Except ε β} {as : List α} :
    (∃ bs, as.mapM f = .ok bs) ↔ ∀ a ∈ as, ∃ b, f a = .ok b := by
  constructor
  · rintro ⟨bs, walked⟩ a member
    obtain ⟨b, _, own⟩ := result_of_mapM walked member
    exact ⟨b, own⟩
  · intro each
    cases walked : as.mapM f with
    | ok bs => exact ⟨bs, rfl⟩
    | error e =>
      obtain ⟨before, a, after, rfl, _, failed⟩ := first_failure walked
      obtain ⟨b, own⟩ := each a (by simp)
      cases failed.symm.trans own

theorem mapM_perm {f : α → Except ε β} {as cs : List α} {bs : List β} (perm : as.Perm cs)
    (walked : as.mapM f = .ok bs) : ∃ ds, cs.mapM f = .ok ds ∧ bs.Perm ds := by
  obtain ⟨ds, related, reordered⟩ := List.perm_comp_forall₂ perm.symm (mapM_ok.1 walked)
  exact ⟨ds, mapM_ok.2 related, reordered.symm⟩

theorem mapM_map_ok {γ : Type} {f : α → Except ε β} {g : β → γ} {as : List α} {cs : List γ}
    (walked : as.mapM (fun a => (f a).map g) = .ok cs) :
    ∃ bs, as.mapM f = .ok bs ∧ cs = bs.map g := by
  induction as generalizing cs with
  | nil =>
    cases walked
    exact ⟨[], rfl, rfl⟩
  | cons a rest ih =>
    obtain ⟨c, cs, own, others, rfl⟩ := List.forall₂_cons_left_iff.1 (mapM_ok.1 walked)
    obtain ⟨b, found, rfl⟩ := map_ok.1 own
    obtain ⟨bs, made, rfl⟩ := ih (mapM_ok.2 others)
    exact ⟨b :: bs, mapM_ok.2 (.cons found (mapM_ok.1 made)), rfl⟩

theorem mapM_flatMap_ok {γ : Type} {bring : β → List α} {g : α → Except ε γ} {bs : List β}
    {parts : List (List γ)}
    (each : List.Forall₂ (fun b part => (bring b).mapM g = .ok part) bs parts) :
    (bs.flatMap bring).mapM g = .ok parts.flatten := by
  induction each with
  | nil => rfl
  | cons own _ ih =>
    rw [List.flatMap_cons, List.flatten_cons, List.mapM_append, own, ih]
    rfl

theorem foldlM_ok_invariant {f : σ → α → Except ε σ} {as : List α} {s t : σ} (keep : σ → Prop)
    (start : keep s) (step : ∀ s a t, a ∈ as → keep s → f s a = .ok t → keep t)
    (walked : as.foldlM f s = .ok t) : keep t := by
  induction as generalizing s with
  | nil =>
    cases walked
    exact start
  | cons a rest ih =>
    rw [List.foldlM_cons] at walked
    obtain ⟨u, first, others⟩ := bind_ok.1 walked
    exact ih (step s a u (by simp) start first)
      (fun s b t member => step s b t (List.mem_cons_of_mem a member)) others

theorem step_of_foldlM {f : σ → α → Except ε σ} {as : List α} {s t : σ}
    (walked : as.foldlM f s = .ok t) {a : α} (member : a ∈ as) : ∃ u v, f u a = .ok v := by
  induction as generalizing s with
  | nil => cases member
  | cons b rest ih =>
    rw [List.foldlM_cons] at walked
    obtain ⟨u, first, others⟩ := bind_ok.1 walked
    rcases List.mem_cons.1 member with rfl | later
    · exact ⟨s, u, first⟩
    · exact ih others later

section failing

/-- A step that fails, if it does, with a fault of one kind. -/
def FailsWith (P : ε → Prop) (x : Except ε α) : Prop := ∀ f, x = .error f → P f

variable {P Q : ε → Prop} {x : Except ε α}

theorem failsWith_ok (a : α) : FailsWith P (.ok a : Except ε α) := by
  intro f failed
  cases failed

theorem failsWith_error {f : ε} : FailsWith P (.error f : Except ε α) ↔ P f := by
  constructor
  · intro fails
    exact fails f rfl
  · rintro held _ ⟨⟩
    exact held

theorem FailsWith.imp (fails : FailsWith P x) (step : ∀ f, P f → Q f) : FailsWith Q x :=
  fun f failed => step f (fails f failed)

theorem FailsWith.bind {f : α → Except ε β} (first : FailsWith P x)
    (next : ∀ a, x = .ok a → FailsWith P (f a)) : FailsWith P (x >>= f) := by
  cases found : x with
  | error e => exact failsWith_error.2 (first e found)
  | ok a => exact next a found

theorem FailsWith.map {f : α → β} (fails : FailsWith P x) : FailsWith P (x.map f) := by
  cases found : x with
  | error e => exact failsWith_error.2 (fails e found)
  | ok a => exact failsWith_ok (f a)

theorem FailsWith.mapM {f : α → Except ε β} {as : List α}
    (each : ∀ a ∈ as, FailsWith P (f a)) : FailsWith P (as.mapM f) := by
  induction as with
  | nil => exact failsWith_ok []
  | cons a rest ih =>
    rw [List.mapM_cons]
    refine (each a (by simp)).bind fun b _ => ?_
    refine (ih fun c later => each c (List.mem_cons_of_mem a later)).bind fun bs _ => ?_
    exact failsWith_ok (b :: bs)

theorem FailsWith.forM {f : α → Except ε Unit} {as : List α}
    (each : ∀ a ∈ as, FailsWith P (f a)) : FailsWith P (as.forM f) := by
  induction as with
  | nil => exact failsWith_ok _
  | cons a rest ih =>
    show FailsWith P (f a >>= fun _ => rest.forM f)
    exact (each a (by simp)).bind fun _ _ => ih fun c later => each c (List.mem_cons_of_mem a later)

theorem FailsWith.foldlM {f : σ → α → Except ε σ} {as : List α}
    (each : ∀ a ∈ as, ∀ s, FailsWith P (f s a)) (s : σ) : FailsWith P (as.foldlM f s) := by
  induction as generalizing s with
  | nil => exact failsWith_ok s
  | cons a rest ih =>
    rw [List.foldlM_cons]
    exact (each a (by simp) s).bind fun t _ =>
      ih (fun b later => each b (List.mem_cons_of_mem a later)) t

theorem succeeds_iff : (∃ a, x = .ok a) ↔ FailsWith (fun _ => False) x := by
  cases x with
  | error e => simp [failsWith_error]
  | ok a => simp [failsWith_ok]

theorem failsWith_of_ok {a : α} (found : x = .ok a) : FailsWith P x := found ▸ failsWith_ok a

theorem forM_ok {f : α → Except ε Unit} {as : List α} {u : Unit} :
    as.forM f = .ok u ↔ ∀ a ∈ as, f a = .ok () := by
  induction as with
  | nil => simp [pure, Except.pure]
  | cons a rest ih =>
    show (f a >>= fun _ => rest.forM f) = .ok u ↔ _
    simp only [bind_ok, ih, List.forall_mem_cons]
    constructor
    · rintro ⟨_, first, others⟩
      exact ⟨first, others⟩
    · rintro ⟨first, others⟩
      exact ⟨_, first, others⟩

end failing

namespace Noted

theorem outcome_forM (f : α → Noted Unit) (as : List α) :
    (as.forM f).outcome = as.forM fun a => (f a).outcome := by
  induction as with
  | nil => rfl
  | cons a rest ih =>
    show (f a >>= fun _ => rest.forM f).outcome = _
    rw [outcome_bind, ih]
    rfl

theorem outcome_pure_ok {a b : α} : (pure a : Noted α).outcome = .ok b ↔ a = b := by
  rw [outcome_pure, Except.ok.injEq]

theorem outcome_mapM (f : α → Noted β) (as : List α) :
    (as.mapM f).outcome = as.mapM fun a => (f a).outcome := by
  induction as with
  | nil => simp [pure, Except.pure, of]
  | cons a rest ih =>
    simp only [List.mapM_cons, outcome_bind, ih]
    rfl

theorem outcome_foldlM (f : σ → α → Noted σ) (as : List α) (s : σ) :
    (as.foldlM f s).outcome = as.foldlM (fun s a => (f s a).outcome) s := by
  induction as generalizing s with
  | nil => rfl
  | cons a rest ih =>
    simp only [List.foldlM_cons, outcome_bind, ih]

/-- Two walks of which every step of the second answers as that of the first does, and leaves the
same notices. -/
theorem mapM_again {γ : Type} {R : β → γ → Prop} {f : α → Noted β} {g : α → Noted γ} {as : List α}
    {bs : List β}
    (each : ∀ a, ∀ b ∈ bs, (f a).outcome = .ok b →
      ∃ c, g a = ⟨(f a).notices, .ok c⟩ ∧ R b c)
    (walked : (as.mapM f).outcome = .ok bs) :
    ∃ cs, as.mapM g = ⟨(as.mapM f).notices, .ok cs⟩ ∧ List.Forall₂ R bs cs := by
  induction as generalizing bs with
  | nil =>
    cases walked
    exact ⟨[], rfl, .nil⟩
  | cons a rest ih =>
    rw [List.mapM_cons, outcome_bind_eq_ok] at walked
    obtain ⟨b, first, walked⟩ := walked
    obtain ⟨others, later, made⟩ := outcome_bind_eq_ok.1 walked
    cases outcome_pure_ok.1 made
    obtain ⟨c, again, own⟩ := each a b (by simp) first
    obtain ⟨cs, walkedAgain, related⟩ :=
      ih (fun d e member => each d e (List.mem_cons_of_mem b member)) later
    refine ⟨c :: cs, ?_, .cons own related⟩
    rw [List.mapM_cons, List.mapM_cons, again, walkedAgain, bind_of_ok _ first, bind_of_ok _ rfl,
      bind_of_ok _ later, bind_of_ok _ rfl]
    rfl

end Noted

end EntityScaffold
