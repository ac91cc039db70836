import EntityScaffold.CommandLine.Session

/-!
Sessions on consoles. A console has no part in what a session does up to the first line that it
refuses; there it stops the session with a fault of its own, and nothing more is told.
-/
namespace EntityScaffold.CommandLine
open Source

namespace Console

variable {k : Console} {told lines : List ConsoleLine}

theorem hear_append (k : Console) (told first second : List ConsoleLine) :
    k.hear told (first ++ second) =
      match k.hear told first with
      | (heard, none) => k.hear heard second
      | (heard, some f) => (heard, some f) := by
  induction first generalizing told with
  | nil => rfl
  | cons line rest ih =>
    rw [List.cons_append, hear, hear]
    cases k.refusal? told line with
    | none => exact ih _
    | some f => rfl

theorem hear_taken (taken : (k.hear told lines).2 = none) :
    k.hear told lines = (told ++ lines, none) := by
  induction lines generalizing told with
  | nil => rw [hear, List.append_nil]
  | cons line rest ih =>
    rw [hear] at taken ⊢
    cases own : k.refusal? told line with
    | some f =>
      rw [own] at taken
      cases taken
    | none =>
      rw [own] at taken
      exact (ih taken).trans (by rw [List.append_assoc]; rfl)

theorem hear_unreported {f : Fault} (refused : (k.hear told lines).2 = some f) :
    f.isReported = false := by
  induction lines generalizing told with
  | nil => cases refused
  | cons line rest ih =>
    rw [hear] at refused
    cases own : k.refusal? told line with
    | some g =>
      rw [own] at refused
      cases refused
      exact k.unreported told line f own
    | none =>
      rw [own] at refused
      exact ih refused

theorem mem_hear {line : ConsoleLine} (heard : line ∈ (k.hear told lines).1) :
    line ∈ told ++ lines := by
  induction lines generalizing told with
  | nil => exact List.mem_append_left _ heard
  | cons next rest ih =>
    rw [hear] at heard
    cases own : k.refusal? told next with
    | some f =>
      rw [own] at heard
      exact List.mem_append_left _ heard
    | none =>
      rw [own] at heard
      have among := ih heard
      rwa [List.append_assoc] at among

@[simp] theorem hear_willing (told lines : List ConsoleLine) :
    willing.hear told lines = (told ++ lines, none) := by
  refine hear_taken ?_
  induction lines generalizing told with
  | nil => rfl
  | cons line rest ih => exact ih _

end Console

namespace Session

theorem next_keeps {P : Session → Prop} {x : Progress} {step : Session → Progress} (first : P x.1)
    (next : ∀ s, P s → P (step s).1) : P (x.next step).1 := by
  obtain ⟨s, _ | f⟩ := x
  · exact next s first
  · exact first

/-- What every step of following a run keeps is kept by following it. -/
theorem follow_keeps {P : Session → Prop} {flags : RunFlags} {clock : String}
    {root : Except Fault Path} {s : Session} (first : P s)
    (note : ∀ s n, P s → P (s.note n))
    (tell : ∀ s e, P s → P (s.tell [.text (eventLine clock e)]).1)
    (take : ∀ s a, P s → P (s.take flags root a).1) (steps : List (Step RunItem)) :
    P (s.follow flags clock root steps).1 := by
  induction steps generalizing s with
  | nil => exact first
  | cons step rest ih =>
    match step with
    | .notice n => exact ih (note s n first)
    | .item (.event e) => exact next_keeps (tell s e first) fun _ => ih
    | .item (.artifact a) => exact next_keeps (take s a first) fun _ => ih

def on (s : Session) (k : Console) : Session := { s with console := k }

theorem on_console (s : Session) : s.on s.console = s := rfl

variable {γ δ : Type} {k : Console} {before told : List ConsoleLine}

/-- What some steps of a session, which tell these lines behind those before, come to where all of
them are heard, and on a console that may refuse one. -/
structure Mirrored (fail : Fault → γ) (k : Console) (before told : List ConsoleLine)
    (whole cut : Session × γ) : Prop where
  lines : whole.1.lines = before ++ told
  willing : whole.1.console = .willing
  taken : (k.hear before told).2 = none → cut = (whole.1.on k, whole.2)
  refused : ∀ f, (k.hear before told).2 = some f →
    cut.1.lines = (k.hear before told).1 ∧ cut.2 = fail f

/-- Further steps are mirrored too, if they pass over a fault that is not reported. -/
theorem Mirrored.andThen {fail : Fault → γ} {raise : Fault → δ} {x y : Session × γ}
    {g : Session × γ → Session × δ} (mirrored : Mirrored fail k before told x y)
    (passes : ∀ s f, f.isReported = false → g (s, fail f) = (s, raise f))
    (next : ∀ (s : Session) v, ∃ more,
      Mirrored raise k s.lines more (g (s.on .willing, v)) (g (s.on k, v))) :
    ∃ more, Mirrored raise k before more (g x) (g y) := by
  obtain ⟨s, v⟩ := x
  have own : s.on .willing = s := mirrored.willing ▸ s.on_console
  obtain ⟨more, goesOn⟩ := next s v
  rw [own, show s.lines = before ++ told from mirrored.lines] at goesOn
  have lines := goesOn.lines.trans (List.append_assoc ..)
  cases stopped : (k.hear before told).2 with
  | none =>
    have behind : k.hear before (told ++ more) = k.hear (before ++ told) more := by
      rw [Console.hear_append, Console.hear_taken stopped]
    rw [mirrored.taken stopped]
    exact ⟨told ++ more, lines, goesOn.willing, behind ▸ goesOn.taken, behind ▸ goesOn.refused⟩
  | some f =>
    have heard : k.hear before told = ((k.hear before told).1, some f) := Prod.ext rfl stopped
    have behind : k.hear before (told ++ more) = k.hear before told := by
      rw [Console.hear_append, heard]
    obtain ⟨kept, failed⟩ := mirrored.refused f stopped
    have ended : g y = (y.1, raise f) := by
      rw [show y = (y.1, fail f) from Prod.ext rfl failed]
      exact passes y.1 f (Console.hear_unreported stopped)
    refine ⟨told ++ more, lines, goesOn.willing, fun taken => ?_, fun other refused => ?_⟩
    · rw [behind, stopped] at taken
      cases taken
    · rw [behind, stopped] at refused
      cases refused
      rw [ended, behind]
      exact ⟨kept, rfl⟩

theorem mirrored_self (fail : Fault → γ) (k : Console) (s : Session) (v : γ) :
    Mirrored fail k s.lines [] (s.on .willing, v) (s.on k, v) :=
  ⟨(List.append_nil _).symm, rfl, fun _ => rfl, fun _ absurdly => by cases absurdly⟩

/-- A step on which a console has no part but for the lines that it refuses. -/
def Mirrors (step : Session → Progress) : Prop :=
  ∀ (s : Session) k, ∃ told, Mirrored some k s.lines told (step (s.on .willing)) (step (s.on k))

theorem Mirrored.next {step : Session → Progress} (mirrors : Mirrors step) {x y : Progress}
    (mirrored : Mirrored some k before told x y) :
    ∃ more, Mirrored some k before more (x.next step) (y.next step) := by
  refine mirrored.andThen (g := (Progress.next · step)) (fun _ _ _ => rfl) fun s v => ?_
  cases v with
  | none => exact mirrors s k
  | some f => exact ⟨[], mirrored_self some k s (some f)⟩

theorem Mirrors.next {first second : Session → Progress} (mirrors : Mirrors first)
    (others : Mirrors second) : Mirrors fun s => (first s).next second := by
  intro s k
  obtain ⟨told, mirrored⟩ := mirrors s k
  exact mirrored.next others

theorem Mirrors.silent {step : Session → Progress}
    (same : ∀ s k, step (s.on k) = ((step s).1.on k, (step s).2))
    (quiet : ∀ s, (step s).1.lines = s.lines) : Mirrors step := by
  intro s k
  rw [same s .willing, same s k, ← quiet s]
  exact ⟨[], mirrored_self some k (step s).1 (step s).2⟩

theorem mirrored_tell (s : Session) (k : Console) (lines : List ConsoleLine) :
    Mirrored some k s.lines lines ((s.on .willing).tell lines) ((s.on k).tell lines) := by
  have whole : (s.on .willing).tell lines =
      ({ s.on .willing with lines := s.lines ++ lines }, none) := by
    simp only [tell, on, Console.hear_willing]
  rw [whole]
  refine ⟨rfl, rfl, fun taken => ?_, fun f refused => ⟨rfl, refused⟩⟩
  simp only [tell, on, Console.hear_taken taken]

theorem tell_mirrors (lines : List ConsoleLine) : Mirrors (·.tell lines) :=
  fun s k => ⟨lines, mirrored_tell s k lines⟩

theorem keep_mirrors (flags : RunFlags) (a : Artifact) : Mirrors (·.keep flags a) :=
  (tell_mirrors _).next <| .silent (fun _ _ => rfl) fun _ => rfl

theorem store_mirrors (root : Path) (a : Artifact) : Mirrors (·.store root a) := by
  refine .silent (fun s k => ?_) fun s => ?_
  · rcases own : (writeArtifact root a.path (.str a.content)).run.run s.tree with ⟨f | _, u⟩
    · simp only [store, on, own, noteWrite]
      split <;> rfl
    · simp only [store, on, own]
  · unfold store
    split
    · rfl
    · dsimp only [noteWrite]
      split <;> rfl

theorem take_mirrors (flags : RunFlags) (root : Except Fault Path) (a : Artifact) :
    Mirrors (·.take flags root a) := by
  intro s k
  simp only [take]
  cases flags.dryRun with
  | true => exact keep_mirrors flags a s k
  | false =>
    cases root with
    | error f => exact ⟨[], mirrored_self some k s (some f)⟩
    | ok root => exact (store_mirrors root a).next (keep_mirrors flags a) s k

theorem follow_mirrors (flags : RunFlags) (clock : String) (root : Except Fault Path)
    (steps : List (Step RunItem)) : Mirrors (·.follow flags clock root steps) := by
  induction steps with
  | nil => exact .silent (fun _ _ => rfl) fun _ => rfl
  | cons step rest ih =>
    match step with
    | .notice n => exact fun s k => ih (s.note n) k
    | .item (.event e) => exact (tell_mirrors _).next ih
    | .item (.artifact a) => exact (take_mirrors flags root a).next ih

theorem prepare_mirrors (flags : RunFlags) (c : Config) : Mirrors (·.prepare flags c) := by
  refine .silent (fun s k => ?_) fun s => ?_
  · unfold prepare
    split
    · rfl
    · rcases own : (prepareDestination c).run.run s.tree with ⟨_ | _, u⟩ <;>
        simp only [on, own]
  · unfold prepare
    split
    · rfl
    · split <;> rfl

theorem perform_mirrors (flags : RunFlags) (clock : String) (c : Config) :
    Mirrors (·.perform flags clock c) := by
  refine (prepare_mirrors flags c).next fun s k => ?_
  have ends : Mirrors fun after => (after, (runSource c s.tree).stopped) :=
    .silent (fun _ _ => rfl) fun _ => rfl
  exact (follow_mirrors flags clock (destinationPath c) (runSource c s.tree).steps).next ends s k

theorem close_mirrored (s : Session) (k : Console) (report : List ConsoleLine) (code : Nat) :
    ∃ told, Mirrored Except.error k s.lines told (((s.on .willing).tell report).close code)
      (((s.on k).tell report).close code) := by
  refine (mirrored_tell s k report).andThen (fun _ _ _ => rfl) fun s v => ?_
  cases v with
  | none => exact ⟨[], mirrored_self Except.error k s (.ok code)⟩
  | some f => exact ⟨[], mirrored_self Except.error k s (.error f)⟩

theorem finish_mirrored (flags : RunFlags) {x y : Progress}
    (mirrored : Mirrored some k before told x y) :
    ∃ more, Mirrored Except.error k before more (finish flags x) (finish flags y) := by
  refine mirrored.andThen (fun s f untold => if_neg (by simp [untold])) fun s v => ?_
  cases v with
  | none => exact close_mirrored s k (s.successReport flags) 0
  | some f =>
    simp only [finish]
    split
    · exact close_mirrored s k (s.failureReport flags f) 1
    · exact ⟨[], mirrored_self Except.error k s (.error f)⟩

/-- A run on a console is the run that is heard whole, up to the first line that is refused. -/
theorem run_mirrored (settings : Settings) (flags : RunFlags) (clock : String) (s : Session)
    (k : Console) : ∃ told, Mirrored Except.error k s.lines told
      ((s.on .willing).run settings flags clock) ((s.on k).run settings flags clock) := by
  obtain ⟨told, mirrored⟩ := (tell_mirrors (headerLines settings)).next
    (perform_mirrors flags clock (.ofSettings settings)) s k
  exact finish_mirrored flags mirrored

end Session

end EntityScaffold.CommandLine
