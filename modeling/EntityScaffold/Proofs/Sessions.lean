import EntityScaffold.Proofs.Files.Writing
import EntityScaffold.Proofs.Outcomes
import EntityScaffold.Proofs.Reports

/-!
What a session leaves behind. It follows a run, prepares its destination and writes the artifacts in
their order; what it counts as written, what is on the tree and what it reports agree wherever it
ends. A dry run leaves the tree alone.
-/
namespace EntityScaffold.CommandLine
open Source

/-- Artifacts are written below a root, in their order, until one is refused: the fault, if there is
one, what was written before, and the tree that is left. -/
inductive Persists (root : Path) :
    FileTree → List Artifact → Option Fault → List Artifact → FileTree → Prop
  | done (t : FileTree) : Persists root t [] none [] t
  | refused {t u : FileTree} {a : Artifact} {rest : List Artifact} {f : Fault}
      (own : (writeArtifact root a.path (.str a.content)).on t = (.error f, u)) :
      Persists root t (a :: rest) (some f) [] u
  | written {t u v : FileTree} {a : Artifact} {rest written : List Artifact} {f : Option Fault}
      (own : (writeArtifact root a.path (.str a.content)).on t = (.ok (), u))
      (others : Persists root u rest f written v) : Persists root t (a :: rest) f (a :: written) v

/-- How a run over a tree ends in a session: the fault that ends it, if there is one, the artifacts
that were kept, and the tree that is left. A dry run keeps whatever the run makes. Otherwise the
destination is prepared, and what the run makes on the prepared tree is written; a fault of writing
comes before that of the run, which makes nothing after it. -/
inductive RunEnds (flags : RunFlags) (c : Config) (t : FileTree) :
    Option Fault → List Artifact → FileTree → Prop
  | listed (dry : flags.dryRun = true) :
      RunEnds flags c t (runSource c t).stopped (artifactsOf (runSource c t)) t
  | unprepared (wet : flags.dryRun = false) {f : Fault} {u : FileTree}
      (refused : (prepareDestination c).on t = (.error f, u)) : RunEnds flags c t (some f) [] u
  | persisted (wet : flags.dryRun = false) {folders : List Path} {root : Path} {u v : FileTree}
      {f : Option Fault} {written : List Artifact}
      (prepared : (prepareDestination c).on t = (.ok folders, u))
      (located : destinationPath c = .ok root)
      (persists : Persists root u (artifactsOf (runSource c u)) f written v) :
      RunEnds flags c t (f.or (runSource c u).stopped) written v

namespace Session

section steps

variable {flags : RunFlags} {s : Session} {a : Artifact}

theorem tell_willing (willing : s.console = .willing) (lines : List ConsoleLine) :
    s.tell lines = ({ s with lines := s.lines ++ lines }, none) := by
  simp only [tell, willing, Console.hear_willing]

theorem keep_willing (willing : s.console = .willing) (flags : RunFlags) (a : Artifact) :
    ∃ lines, s.keep flags a = ({ s with lines, written := s.written ++ [a] }, none) := by
  rw [keep, tell_willing willing]
  exact ⟨_, rfl⟩

theorem take_dry (dry : flags.dryRun = true) (root : Except Fault Path) (s : Session)
    (a : Artifact) : s.take flags root a = s.keep flags a := if_pos dry

theorem take_written (wet : flags.dryRun = false) {root : Path} {u : FileTree}
    (own : (writeArtifact root a.path (.str a.content)).on s.tree = (.ok (), u)) :
    s.take flags (.ok root) a = ({ s with tree := u } : Session).keep flags a := by
  have run : (writeArtifact root a.path (.str a.content)).run.run s.tree = (.ok (), u) := own
  simp only [take, wet, Bool.false_eq_true, ↓reduceIte, store, run, Progress.next]

theorem take_refused (wet : flags.dryRun = false) {root : Path} {u : FileTree} {f : Fault}
    (own : (writeArtifact root a.path (.str a.content)).on s.tree = (.error f, u)) :
    s.take flags (.ok root) a = (({ s with tree := u } : Session).noteWrite f, some f) := by
  have run : (writeArtifact root a.path (.str a.content)).run.run s.tree = (.error f, u) := own
  simp only [take, wet, Bool.false_eq_true, ↓reduceIte, store, run, Progress.next]

@[simp] theorem tree_noteWrite (f : Fault) (s : Session) : (s.noteWrite f).tree = s.tree := by
  unfold noteWrite
  split <;> rfl

@[simp] theorem written_noteWrite (f : Fault) (s : Session) :
    (s.noteWrite f).written = s.written := by
  unfold noteWrite
  split <;> rfl

def artifactsAmong (steps : List (Step RunItem)) : List Artifact := artifactsOf ⟨steps, none⟩

theorem follow_dry (dry : flags.dryRun = true) (clock : String) (root : Except Fault Path)
    (willing : s.console = .willing) (steps : List (Step RunItem)) :
    (s.follow flags clock root steps).2 = none ∧
      (s.follow flags clock root steps).1.tree = s.tree ∧
      (s.follow flags clock root steps).1.written = s.written ++ artifactsAmong steps := by
  induction steps generalizing s with
  | nil => exact ⟨rfl, rfl, (List.append_nil _).symm⟩
  | cons step rest ih =>
    match step with
    | .notice n => exact ih (s := s.note n) willing
    | .item (.event e) =>
      rw [follow, tell_willing willing]
      exact ih (s := { s with lines := s.lines ++ [.text (eventLine clock e)] }) willing
    | .item (.artifact a) =>
      obtain ⟨lines, kept⟩ := keep_willing willing flags a
      obtain ⟨ended, tree, written⟩ :=
        ih (s := { s with lines, written := s.written ++ [a] }) willing
      rw [follow, take_dry dry, kept]
      refine ⟨ended, tree, written.trans ?_⟩
      rw [List.append_assoc]
      rfl

theorem follow_wet (wet : flags.dryRun = false) (clock : String) (root : Path)
    (willing : s.console = .willing) (steps : List (Step RunItem)) :
    ∃ written, Persists root s.tree (artifactsAmong steps)
        (s.follow flags clock (.ok root) steps).2 written
        (s.follow flags clock (.ok root) steps).1.tree ∧
      (s.follow flags clock (.ok root) steps).1.written = s.written ++ written := by
  induction steps generalizing s with
  | nil => exact ⟨[], .done s.tree, (List.append_nil _).symm⟩
  | cons step rest ih =>
    match step with
    | .notice n => exact ih (s := s.note n) willing
    | .item (.event e) =>
      rw [follow, tell_willing willing]
      exact ih (s := { s with lines := s.lines ++ [.text (eventLine clock e)] }) willing
    | .item (.artifact a) =>
      rcases own : (writeArtifact root a.path (.str a.content)).on s.tree with ⟨f | _, u⟩
      · refine ⟨[], ?_, ?_⟩
        · rw [follow, take_refused wet own, Progress.next, tree_noteWrite]
          exact .refused own
        · rw [follow, take_refused wet own, Progress.next, written_noteWrite, List.append_nil]
      · obtain ⟨lines, kept⟩ := keep_willing (s := { s with tree := u }) willing flags a
        obtain ⟨written, persists, counted⟩ :=
          ih (s := { s with tree := u, lines, written := s.written ++ [a] }) willing
        rw [List.append_assoc] at counted
        rw [follow, take_written wet own, kept]
        exact ⟨a :: written, .written own persists, counted⟩

theorem destination_of_prepared {c : Config} {t u : FileTree} {folders : List Path}
    (prepared : (prepareDestination c).on t = (.ok folders, u)) :
    ∃ root, destinationPath c = .ok root := by
  cases located : destinationPath c with
  | ok root => exact ⟨root, rfl⟩
  | error f =>
    have unlocated : destinationFolders c = .error f := by
      rw [destinationFolders, located]
      rfl
    rw [prepareDestination, unlocated] at prepared
    cases prepared

theorem perform_ends (flags : RunFlags) (clock : String) (c : Config)
    (willing : s.console = .willing) :
    ∃ written, RunEnds flags c s.tree (s.perform flags clock c).2 written
        (s.perform flags clock c).1.tree ∧
      (s.perform flags clock c).1.written = s.written ++ written := by
  cases wet : flags.dryRun with
  | true =>
    obtain ⟨ended, tree, written⟩ :=
      follow_dry wet clock (destinationPath c) willing (runSource c s.tree).steps
    have whole : s.perform flags clock c =
        ((s.follow flags clock (destinationPath c) (runSource c s.tree).steps).1,
          (runSource c s.tree).stopped) := by
      rw [perform, prepare, if_pos wet]
      rcases followed : s.follow flags clock (destinationPath c) (runSource c s.tree).steps
        with ⟨after, _ | f⟩ <;> rw [followed] at ended
      · simp only [Progress.next, followed]
      · cases ended
    rw [whole]
    exact ⟨_, by rw [tree]; exact .listed wet, written⟩
  | false =>
    rcases prepared : (prepareDestination c).on s.tree with ⟨f | folders, u⟩
    · have run : (prepareDestination c).run.run s.tree = (.error f, u) := prepared
      have whole : s.perform flags clock c = ({ s with tree := u }, some f) := by
        simp only [perform, prepare, wet, Bool.false_eq_true, ↓reduceIte, run, Progress.next]
      rw [whole]
      exact ⟨[], .unprepared wet prepared, (List.append_nil _).symm⟩
    · have run : (prepareDestination c).run.run s.tree = (.ok folders, u) := prepared
      obtain ⟨root, located⟩ := destination_of_prepared prepared
      obtain ⟨written, persists, counted⟩ :=
        follow_wet (s := { s with tree := u }) wet clock root willing (runSource c u).steps
      have whole : s.perform flags clock c =
          ((({ s with tree := u } : Session).follow flags clock (.ok root)
              (runSource c u).steps).1,
            (({ s with tree := u } : Session).follow flags clock (.ok root)
              (runSource c u).steps).2.or (runSource c u).stopped) := by
        simp only [perform, prepare, wet, Bool.false_eq_true, ↓reduceIte, run, located,
          Progress.next]
        rcases ({ s with tree := u } : Session).follow flags clock (.ok root)
          (runSource c u).steps with ⟨after, _ | f⟩ <;> rfl
      rw [whole]
      exact ⟨written, .persisted wet prepared located persists, counted⟩

end steps

section dry

variable {flags : RunFlags}

theorem tree_keep (flags : RunFlags) (s : Session) (a : Artifact) :
    (s.keep flags a).1.tree = s.tree :=
  next_keeps (P := fun t => t.tree = s.tree) rfl fun _ same => same

theorem tree_follow (dry : flags.dryRun = true) (clock : String) (root : Except Fault Path)
    (s : Session) (steps : List (Step RunItem)) :
    (s.follow flags clock root steps).1.tree = s.tree := by
  refine follow_keeps (P := fun t => t.tree = s.tree) rfl (fun _ _ same => same)
    (fun _ _ same => same) (fun t a same => ?_) steps
  rw [take_dry dry, tree_keep, same]

theorem fst_close (code : Nat) (x : Progress) : (x.close code).1 = x.1 := by
  obtain ⟨s, _ | f⟩ := x <;> rfl

theorem tree_finish (flags : RunFlags) (x : Progress) : (finish flags x).1.tree = x.1.tree := by
  obtain ⟨s, _ | f⟩ := x
  · rw [finish, fst_close]
    rfl
  · rw [finish]
    split
    · rw [fst_close]
      rfl
    · rfl

/-- Whatever the console refuses, a dry run leaves the tree alone. -/
theorem tree_run (dry : flags.dryRun = true) (settings : Settings) (clock : String) (s : Session) :
    (s.run settings flags clock).1.tree = s.tree := by
  rw [run, tree_finish]
  refine next_keeps (P := fun t => t.tree = s.tree) rfl fun t same => ?_
  have prepared : t.prepare flags (.ofSettings settings) = (t, none) := if_pos dry
  rw [perform, prepared]
  refine next_keeps (x := t.follow ..) (P := fun t => t.tree = s.tree) ?_ fun _ kept => kept
  exact (tree_follow dry clock _ t _).trans same

end dry

end Session

section files

variable {root : Path} {t u : FileTree} {as written : List Artifact} {f : Option Fault}

theorem Persists.prefix (persists : Persists root t as f written u) :
    written <+: as ∧ (f = none → written = as) := by
  induction persists with
  | done t => exact ⟨List.nil_prefix, fun _ => rfl⟩
  | refused own => exact ⟨List.nil_prefix, fun absurdly => by cases absurdly⟩
  | written own others ih =>
    exact ⟨List.cons_prefix_cons.2 ⟨rfl, ih.1⟩, fun done => congrArg _ (ih.2 done)⟩

def placeIn (root : Path) (a : Artifact) : Place := (artifactPath root a.path).place

/-- What was refused, if anything was, is not at a place, or the device breaks no write off. -/
def Spares (root : Path) (d : Device) (as written : List Artifact) (place : Place) : Prop :=
  d.Roomy ∨ ∀ a, as[written.length]? = some a → placeIn root a ≠ place

theorem Persists.others (persists : Persists root t as f written u) {place : Place}
    (apart : ∀ a ∈ written, placeIn root a ≠ place) (spares : Spares root t.device as written place)
    (content : ByteArray) :
    u.node? place = some (.file content) ↔ t.node? place = some (.file content) := by
  induction persists with
  | done t => rfl
  | @refused t u a rest f own =>
    have writes := writeArtifact_writes root a.path a.content
    rcases spares with roomy | elsewhere
    · exact (writes.roomy _ _ _ roomy own).file place content
    · rcases writes.fails _ _ _ own with grows | ⟨_, stores⟩
      · exact grows.file place content
      · exact stores.others place (elsewhere a rfl).symm content
  | written own others ih =>
    have stores := (writeArtifact_writes root _ _).stores _ _ own
    have later := ih (fun a member => apart a (List.mem_cons_of_mem _ member))
      (stores.device ▸ spares)
    exact later.trans (stores.others place (apart _ (by simp)).symm content)

theorem Persists.holds (persists : Persists root t as f written u) {before after : List Artifact}
    {a : Artifact} (split : written = before ++ a :: after)
    (last : ∀ b ∈ after, placeIn root b ≠ placeIn root a)
    (spares : Spares root t.device as written (placeIn root a)) :
    u.node? (placeIn root a) = some (.file a.content.toUTF8) := by
  -- what comes after the artifact is written elsewhere, so its file stays as it was written
  induction persists generalizing before with
  | done t => simp at split
  | refused own => simp at split
  | @written t u v d rest written f own others ih =>
    have stores := (writeArtifact_writes root _ _).stores _ _ own
    have spared : Spares root u.device rest written (placeIn root a) := stores.device ▸ spares
    cases before with
    | nil =>
      obtain ⟨rfl, rfl⟩ := List.cons.inj split
      exact (others.others last spared _).2 stores.here
    | cons b earlier => exact ih (List.cons.inj split).2 spared

theorem Persists.unique (persists : Persists root t as f written u) {g : Option Fault}
    {kept : List Artifact} {v : FileTree} (again : Persists root t as g kept v) :
    f = g ∧ written = kept ∧ u = v := by
  induction persists generalizing g kept v with
  | done t =>
    cases again
    exact ⟨rfl, rfl, rfl⟩
  | refused own =>
    cases again with
    | refused other =>
      cases own.symm.trans other
      exact ⟨rfl, rfl, rfl⟩
    | written other _ => cases own.symm.trans other
  | written own others ih =>
    cases again with
    | refused other => cases own.symm.trans other
    | written other rest =>
      cases own.symm.trans other
      obtain ⟨rfl, rfl, rfl⟩ := ih rest
      exact ⟨rfl, rfl, rfl⟩

end files

section ending

variable {flags : RunFlags} {c : Config} {t : FileTree}

theorem RunEnds.unique {f g : Option Fault} {written kept : List Artifact} {u v : FileTree}
    (ends : RunEnds flags c t f written u) (again : RunEnds flags c t g kept v) :
    f = g ∧ written = kept ∧ u = v := by
  cases ends with
  | listed dry =>
    cases again with
    | listed _ => exact ⟨rfl, rfl, rfl⟩
    | unprepared wet _ => cases dry.symm.trans wet
    | persisted wet _ _ _ => cases dry.symm.trans wet
  | unprepared wet refused =>
    cases again with
    | listed dry => cases wet.symm.trans dry
    | unprepared _ other =>
      cases refused.symm.trans other
      exact ⟨rfl, rfl, rfl⟩
    | persisted _ prepared _ _ => cases refused.symm.trans prepared
  | persisted wet prepared located persists =>
    cases again with
    | listed dry => cases wet.symm.trans dry
    | unprepared _ refused => cases prepared.symm.trans refused
    | persisted _ other locatedToo persistsToo =>
      cases prepared.symm.trans other
      cases located.symm.trans locatedToo
      obtain ⟨rfl, rfl, rfl⟩ := persists.unique persistsToo
      exact ⟨rfl, rfl, rfl⟩

/-- The run comes to its end and, unless it is dry, every folder of the destination is made and every
artifact is written. -/
def Completes (flags : RunFlags) (c : Config) (t : FileTree) : Prop :=
  if flags.dryRun then (runSource c t).stopped = none
  else
    ∃ folders root u v, (prepareDestination c).on t = (.ok folders, u) ∧
      destinationPath c = .ok root ∧ (runSource c u).stopped = none ∧
      Persists root u (artifactsOf (runSource c u)) none (artifactsOf (runSource c u)) v

theorem completes_iff : Completes flags c t ↔ ∃ written u, RunEnds flags c t none written u := by
  constructor
  · intro completes
    cases wet : flags.dryRun with
    | true =>
      have done : (runSource c t).stopped = none := by simpa [Completes, wet] using completes
      have ends := RunEnds.listed (c := c) (t := t) wet
      rw [done] at ends
      exact ⟨_, t, ends⟩
    | false =>
      simp only [Completes, wet, Bool.false_eq_true, ↓reduceIte] at completes
      obtain ⟨folders, root, u, v, prepared, located, done, persists⟩ := completes
      have ends := RunEnds.persisted wet prepared located persists
      rw [Option.none_or, done] at ends
      exact ⟨_, v, ends⟩
  · rintro ⟨written, u, ends⟩
    generalize stopped : (none : Option Fault) = f at ends
    cases ends with
    | listed dry => simp only [Completes, dry, ↓reduceIte, stopped]
    | unprepared wet refused => cases stopped
    | @persisted _ folders root v _ g _ prepared located persists =>
      rename_i wet
      obtain ⟨rfl, done⟩ := Option.or_eq_none_iff.1 stopped.symm
      have all := persists.prefix.2 rfl
      simp only [Completes, wet, Bool.false_eq_true, ↓reduceIte]
      exact ⟨folders, root, v, u, prepared, located, done, all ▸ persists⟩

/-- Whatever may end the run is a fault that a session reports. -/
def FailuresReported (flags : RunFlags) (c : Config) (t : FileTree) : Prop :=
  ∀ f written u, RunEnds flags c t (some f) written u → f.isReported = true

end ending

section accounts

variable {flags : RunFlags} {c : Config} {t : FileTree} {s : Session} {ending : Ending}

/-- What a run that writes has kept agrees with the tree that it leaves. -/
structure Persisted (c : Config) (t : FileTree) (s : Session) : Prop where
  /-- Where the destination is refused, nothing is kept. -/
  unprepared : ∀ f u, (prepareDestination c).on t = (.error f, u) → s.written = []
  /-- What is kept are the artifacts that the run makes, from the first up to the one that is refused,
  and all that it makes where none is. -/
  prepared : ∀ folders u root, (prepareDestination c).on t = (.ok folders, u) →
    destinationPath c = .ok root →
    ∃ f, Persists root u (artifactsOf (runSource c u)) f s.written s.tree ∧
      s.written <+: artifactsOf (runSource c u) ∧
      (f = none → s.written = artifactsOf (runSource c u))
  /-- The last artifact of a place is what the file there holds, unless the device has broken another
  write to it off. -/
  last : ∀ folders u root, (prepareDestination c).on t = (.ok folders, u) →
    destinationPath c = .ok root → ∀ before a after, s.written = before ++ a :: after →
    (∀ b ∈ after, placeIn root b ≠ placeIn root a) →
    Spares root t.device (artifactsOf (runSource c u)) s.written (placeIn root a) →
    s.tree.node? (placeIn root a) = some (.file a.content.toUTF8)
  /-- At every other place the same files are, again unless a write to it has been broken off. -/
  others : ∀ place, (∀ folders u root, (prepareDestination c).on t = (.ok folders, u) →
      destinationPath c = .ok root → (∀ a ∈ s.written, placeIn root a ≠ place) ∧
        Spares root t.device (artifactsOf (runSource c u)) s.written place) →
    ∀ content, s.tree.node? place = some (.file content) ↔ t.node? place = some (.file content)

/-- What the first run of a session answers, keeps and tells where it is heard. -/
structure Accounted (flags : RunFlags) (c : Config) (t : FileTree) (s : Session)
    (ending : Ending) : Prop where
  succeeds : ending = .ok 0 ↔ Completes flags c t
  fails : ending = .ok 1 ↔ ¬ Completes flags c t ∧ FailuresReported flags c t
  persisted : flags.dryRun = false → Persisted c t s
  whole : ending = .ok 0 → flags.dryRun = false → ∀ folders u,
    (prepareDestination c).on t = (.ok folders, u) → s.written = artifactsOf (runSource c u)
  counted : ∀ count, .text (Session.writtenLine count) ∈ s.lines ↔
    ending = .ok 1 ∧ flags.dryRun = false ∧ count = s.written.length ∧ count ≠ 0

/-- What the first run of a session comes to on a console, by what there is to tell. -/
structure AccountedOn (k : Console) (told : List ConsoleLine) (flags : RunFlags) (c : Config)
    (t : FileTree) (s : Session) (ending : Ending) : Prop where
  heard : (k.hear [] told).2 = none → Accounted flags c t s ending
  /-- A line that the console refuses ends the run with the fault of the console. -/
  refused : ∀ f, (k.hear [] told).2 = some f →
    s.lines = (k.hear [] told).1 ∧ ending = .error f ∧ f.isReported = false
  untouched : flags.dryRun = true → s.tree = t

theorem Accounted.on (accounted : Accounted flags c t s ending) (k : Console) :
    Accounted flags c t (s.on k) ending where
  succeeds := accounted.succeeds
  fails := accounted.fails
  persisted := fun wet =>
    have kept := accounted.persisted wet
    ⟨kept.unprepared, kept.prepared, kept.last, kept.others⟩
  whole := accounted.whole
  counted := accounted.counted

/-- A run that comes to its end has written all that it makes. -/
theorem RunEnds.whole {written : List Artifact} {u v : FileTree} {folders : List Path}
    (ends : RunEnds flags c t none written v) (wet : flags.dryRun = false)
    (prepared : (prepareDestination c).on t = (.ok folders, u)) :
    written = artifactsOf (runSource c u) := by
  generalize ended : (none : Option Fault) = f at ends
  cases ends with
  | listed dry => cases dry.symm.trans wet
  | unprepared _ refused => cases ended
  | persisted _ other _ persists =>
    cases prepared.symm.trans other
    exact persists.prefix.2 (Option.or_eq_none_iff.1 ended.symm).1

theorem RunEnds.kept {f : Option Fault} (ends : RunEnds flags c t f s.written s.tree)
    (wet : flags.dryRun = false) : Persisted c t s := by
  have grows : t.Grows ((prepareDestination c).on t).2 := prepareDestination_grows c t
  generalize counted : s.written = written at ends
  generalize left : s.tree = v at ends
  cases ends with
  | listed dry => cases dry.symm.trans wet
  | unprepared _ refused =>
    rw [refused] at grows
    constructor
    · exact fun _ _ _ => counted
    · intro folders u root prepared
      cases refused.symm.trans prepared
    · intro folders u root prepared
      cases refused.symm.trans prepared
    · intro place _ content
      rw [left]
      exact grows.file place content
  | @persisted _ folders root u _ g _ prepared located persists =>
    rw [prepared] at grows
    have same {others : List Path} {other : Path} {elsewhere : FileTree}
        (again : (prepareDestination c).on t = (.ok others, elsewhere))
        (found : destinationPath c = .ok other) : elsewhere = u ∧ other = root := by
      cases prepared.symm.trans again
      exact ⟨rfl, Except.ok.inj (found.symm.trans located)⟩
    constructor
    · intro f other refused
      cases prepared.symm.trans refused
    · intro others elsewhere other again found
      obtain ⟨rfl, rfl⟩ := same again found
      rw [counted, left]
      exact ⟨g, persists, persists.prefix⟩
    · intro others elsewhere other again found before a after split last spares
      obtain ⟨rfl, rfl⟩ := same again found
      rw [counted] at split spares
      rw [← grows.device] at spares
      rw [left]
      exact persists.holds split last spares
    · intro place apart content
      obtain ⟨elsewhere, spares⟩ := apart folders u root prepared located
      rw [counted] at elsewhere spares
      rw [← grows.device] at spares
      rw [left]
      exact (persists.others elsewhere spares content).trans (grows.file place content)

namespace Session

theorem finish_none (willing : s.console = .willing) (flags : RunFlags) :
    finish flags (s, none) = ({ s with lines := s.lines ++ s.successReport flags }, .ok 0) := by
  rw [finish, tell_willing willing, Progress.close]

theorem finish_reported (willing : s.console = .willing) (flags : RunFlags) {f : Fault}
    (reported : f.isReported = true) : finish flags (s, some f) =
      ({ s with lines := s.lines ++ s.failureReport flags f }, .ok 1) := by
  rw [finish, if_pos reported, tell_willing willing, Progress.close]

theorem finish_unreported (flags : RunFlags) {f : Fault} (untold : f.isReported = false) :
    finish flags (s, some f) = (s, .error f) := if_neg (by simp [untold])

theorem finish_accounted (willing : s.console = .willing) {stopped : Option Fault}
    (ends : RunEnds flags c t stopped s.written s.tree) (quiet : Quiet s.lines) :
    Accounted flags c t (finish flags (s, stopped)).1 (finish flags (s, stopped)).2 := by
  cases stopped with
  | none =>
    have completes : Completes flags c t := completes_iff.2 ⟨_, _, ends⟩
    have told := quiet.append (quiet_success flags s)
    rw [finish_none willing]
    exact {
      succeeds := iff_of_true rfl completes
      fails := iff_of_false (by simp) fun failed => failed.1 completes
      persisted := RunEnds.kept (s := { s with lines := s.lines ++ s.successReport flags }) ends
      whole := fun _ wet _ _ => ends.whole wet
      counted := fun count => iff_of_false (told count) fun failed => by cases failed.1 }
  | some f =>
    have incomplete : ¬ Completes flags c t := by
      intro completes
      obtain ⟨_, _, other⟩ := completes_iff.1 completes
      cases (ends.unique other).1
    cases reported : f.isReported with
    | true =>
      have failures : FailuresReported flags c t := by
        intro g _ _ other
        cases (ends.unique other).1
        exact reported
      rw [finish_reported willing flags reported]
      exact {
        succeeds := iff_of_false (by simp) incomplete
        fails := iff_of_true rfl ⟨incomplete, failures⟩
        persisted := RunEnds.kept (s := { s with lines := s.lines ++ s.failureReport flags f }) ends
        whole := fun succeeded => by cases succeeded
        counted := fun count =>
          (told_of_failure quiet flags f count).trans (and_iff_right rfl).symm }
    | false =>
      rw [finish_unreported flags reported]
      exact {
        succeeds := iff_of_false (by simp) incomplete
        fails := iff_of_false (by simp) fun failed => by simp [failed.2 f _ _ ends] at reported
        persisted := ends.kept
        whole := fun succeeded => by cases succeeded
        counted := fun count => iff_of_false (quiet count) fun failed => by cases failed.1 }

theorem run_heard (settings : Settings) (flags : RunFlags) (clock : String) (t : FileTree) :
    Accounted flags (.ofSettings settings) t (run settings flags clock { tree := t }).1
      (run settings flags clock { tree := t }).2 := by
  let told : Session := { tree := t, lines := headerLines settings }
  have begun : run settings flags clock { tree := t } =
      finish flags (told.perform flags clock (.ofSettings settings)) := by
    rw [run, tell_willing rfl]
    rfl
  obtain ⟨written, ends, counted⟩ := perform_ends (s := told) flags clock (.ofSettings settings) rfl
  obtain ⟨_, mirrored⟩ := perform_mirrors flags clock (.ofSettings settings) told .willing
  rw [← show _ = written from counted] at ends
  rw [begun]
  exact finish_accounted mirrored.willing ends
    (Quiet.perform (s := told) (quiet_header settings) flags clock _)

-- What a dry run without its document has to tell is heard on a console that reads markup.
set_option maxRecDepth 100000 in
example : (Console.marked.hear []
    (run .defaults { dryRun := true } "12:00:00" { tree := .empty }).1.lines).2 = none := by
  decide +kernel

end Session

end accounts

end EntityScaffold.CommandLine
