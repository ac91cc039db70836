import EntityScaffold.Proofs.Consoles
import EntityScaffold.Proofs.Naming.FreeLabels

/-!
What a session reports. How many artifacts were written is told once, at the end of a run that failed
and was not dry; nothing else that a session tells reads like it.
-/
namespace EntityScaffold.CommandLine
open Source

namespace Session

theorem lines_ne {a b : String} (x y : String)
    (apart : ¬ (a.toList <+: b.toList ∨ b.toList <+: a.toList)) : a ++ x ≠ b ++ y := by
  intro same
  have chars := congrArg String.toList same
  rw [String.toList_append, String.toList_append] at chars
  exact apart (List.prefix_or_prefix_of_prefix ⟨_, chars⟩ (List.prefix_append _ _))

theorem writtenLine_inj {i j : Nat} : writtenLine i = writtenLine j ↔ i = j := by
  constructor
  · intro same
    exact Naming.suffixed_injective "[yellow]⚠️  " ((String.append_left_inj _).1 same)
  · rintro rfl
    rfl

/-- None of the lines tells how many artifacts were written. -/
def Quiet (lines : List ConsoleLine) : Prop := ∀ count, .text (writtenLine count) ∉ lines

variable {flags : RunFlags} {s : Session}

theorem quiet_nil : Quiet [] := fun _ told => by cases told

theorem Quiet.append {lines others : List ConsoleLine} (quiet : Quiet lines)
    (silent : Quiet others) : Quiet (lines ++ others) :=
  fun count told => (List.mem_append.1 told).elim (quiet count) (silent count)

theorem quiet_text {x : String} (opening : String)
    (apart : ¬ (opening.toList <+: "[yellow]⚠️  ".toList ∨
      "[yellow]⚠️  ".toList <+: opening.toList)) : Quiet [.text (opening ++ x)] := by
  intro count told
  have same := ConsoleLine.text.inj (List.mem_singleton.1 told)
  have opens : writtenLine count = "[yellow]⚠️  " ++
      (toString count ++ " artifacts were written before the failure[/yellow]") :=
    String.append_assoc
  exact lines_ne _ _ apart (same.symm.trans opens)

theorem Quiet.tell (quiet : Quiet s.lines) {lines : List ConsoleLine} (silent : Quiet lines) :
    Quiet (s.tell lines).1.lines :=
  fun count told => quiet.append silent count (Console.mem_hear told)

theorem Quiet.keep (quiet : Quiet s.lines) (flags : RunFlags) (a : Artifact) :
    Quiet (s.keep flags a).1.lines := by
  refine next_keeps (P := fun t => Quiet t.lines) (quiet.tell ?_) fun _ kept => kept
  split
  · exact quiet_text "  [green]✓[/green] " (by decide)
  · exact quiet_nil

theorem Quiet.noteWrite (quiet : Quiet s.lines) (f : Fault) : Quiet (s.noteWrite f).lines := by
  unfold Session.noteWrite
  split <;> exact quiet

theorem Quiet.store (quiet : Quiet s.lines) (root : Path) (a : Artifact) :
    Quiet (s.store root a).1.lines := by
  unfold Session.store
  split
  · exact quiet
  · rename_i f u _
    exact Quiet.noteWrite (s := { s with tree := u }) quiet f

theorem Quiet.take (quiet : Quiet s.lines) (flags : RunFlags) (root : Except Fault Path)
    (a : Artifact) : Quiet (s.take flags root a).1.lines := by
  unfold Session.take
  split
  · exact quiet.keep flags a
  · split
    · exact quiet
    · exact next_keeps (P := fun t => Quiet t.lines) (quiet.store _ a) fun _ kept =>
        kept.keep flags a

theorem Quiet.follow (quiet : Quiet s.lines) (flags : RunFlags) (clock : String)
    (root : Except Fault Path) (steps : List (Step RunItem)) :
    Quiet (s.follow flags clock root steps).1.lines := by
  refine follow_keeps (P := fun t => Quiet t.lines) quiet (fun _ _ kept => kept) ?_
    (fun _ a kept => kept.take flags root a) steps
  intro t e kept
  refine kept.tell ?_
  rw [eventLine, String.append_assoc, String.append_assoc]
  exact quiet_text "[dim]" (by decide)

theorem Quiet.prepare (quiet : Quiet s.lines) (flags : RunFlags) (c : Config) :
    Quiet (s.prepare flags c).1.lines := by
  unfold Session.prepare
  split
  · exact quiet
  · split <;> exact quiet

theorem Quiet.perform (quiet : Quiet s.lines) (flags : RunFlags) (clock : String) (c : Config) :
    Quiet (s.perform flags clock c).1.lines := by
  refine next_keeps (P := fun t => Quiet t.lines) (quiet.prepare flags c) fun t begun => ?_
  exact next_keeps (x := t.follow ..) (P := fun t => Quiet t.lines)
    (begun.follow flags clock (destinationPath c) _) fun _ kept => kept

theorem quiet_header (settings : Settings) : Quiet (headerLines settings) := by
  rw [headerLines, String.append_assoc, String.append_assoc]
  exact (quiet_text "📄 Source: [cyan]" (by decide)).append
    (quiet_text "📁 Destination: [cyan]" (by decide))

theorem quiet_success (flags : RunFlags) (s : Session) : Quiet (s.successReport flags) := by
  intro count told
  rcases List.mem_cons.1 told with blank | table
  · have same : writtenLine count = "" := ConsoleLine.text.inj blank
    exact absurd (String.append_eq_empty_iff.1 same).2 (by decide)
  · cases List.mem_singleton.1 table

/-- A failure tells how many artifacts were written, where there are any and the run is not dry. -/
theorem told_of_failure (quiet : Quiet s.lines) (flags : RunFlags) (f : Fault) (count : Nat) :
    .text (writtenLine count) ∈ s.lines ++ s.failureReport flags f ↔
      flags.dryRun = false ∧ count = s.written.length ∧ count ≠ 0 := by
  have message : .text (writtenLine count) ≠ ConsoleLine.text (failureLine f) := fun same =>
    quiet_text "[red]✗ Error:[/red] " (by decide) count (List.mem_singleton.2 same)
  rw [List.mem_append, or_iff_right (quiet count), failureReport, List.mem_cons,
    or_iff_right message]
  split
  · rename_i silent
    refine iff_of_false List.not_mem_nil ?_
    rintro ⟨wet, rfl, some⟩
    have none : s.written = [] := by simpa [wet] using silent
    exact some (by rw [none]; rfl)
  · rename_i loud
    obtain ⟨some, wet⟩ : s.written ≠ [] ∧ flags.dryRun = false := by simpa using loud
    rw [List.mem_singleton, ConsoleLine.text.injEq, writtenLine_inj]
    constructor
    · rintro rfl
      exact ⟨wet, rfl, by simpa using some⟩
    · exact fun ⟨_, same, _⟩ => same

end Session

end EntityScaffold.CommandLine
