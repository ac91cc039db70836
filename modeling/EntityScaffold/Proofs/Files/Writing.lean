import EntityScaffold.Proofs.Files.Places

/-!
What steps on a disk leave behind. Folders are only added, where nothing was; a file is written at
the place of its path and nowhere else. A step that fails leaves every file as it was, unless the
device breaks a write off: then the one file that was being written begins as it should.
-/
namespace EntityScaffold

/-- Every write that the device lets begin comes to its end. -/
def Device.Roomy (d : Device) : Prop :=
  ∀ changes place content length reason,
    d.writeEnd changes place content ≠ .brokenOff length reason

namespace FileTree

variable {t u v : FileTree}

/-- Everything is where it was, and what is new are folders. -/
structure Grows (t u : FileTree) : Prop where
  nodes : ∀ place,
    u.node? place = t.node? place ∨ t.node? place = none ∧ u.node? place = some .folder
  device : u.device = t.device

theorem Grows.refl (t : FileTree) : t.Grows t := ⟨fun _ => .inl rfl, rfl⟩

theorem Grows.trans (first : t.Grows u) (second : u.Grows v) : t.Grows v where
  nodes := by
    intro place
    rcases second.nodes place with same | ⟨empty, folder⟩
    · rw [same]
      exact first.nodes place
    · rcases first.nodes place with same | ⟨_, other⟩
      · exact .inr ⟨same ▸ empty, folder⟩
      · cases empty.symm.trans other
  device := second.device.trans first.device

theorem Grows.file (grows : t.Grows u) (place : Place) (content : ByteArray) :
    u.node? place = some (.file content) ↔ t.node? place = some (.file content) := by
  rcases grows.nodes place with same | ⟨empty, folder⟩
  · rw [same]
  · simp [empty, folder]

/-- One file is as it was written, and all others are as they were. -/
structure Stores (place : Place) (content : ByteArray) (t u : FileTree) : Prop where
  here : u.node? place = some (.file content)
  others : ∀ other, other ≠ place → ∀ kept,
    u.node? other = some (.file kept) ↔ t.node? other = some (.file kept)
  device : u.device = t.device

theorem Stores.after_grows {place : Place} {content : ByteArray} (grows : t.Grows u)
    (stores : Stores place content u v) : Stores place content t v where
  here := stores.here
  others := fun other apart kept =>
    (stores.others other apart kept).trans (grows.file other kept)
  device := stores.device.trans grows.device

theorem makeFolder_grows {p : Path} (made : t.makeFolder p = .ok u) : t.Grows u := by
  rw [makeFolder] at made
  split at made
  · cases made
  · rename_i place found
    split at made
    · cases made
    · rename_i empty
      split at made
      · cases made
      · cases made
        have free : t.node? place ≠ some .folder := by simp [empty]
        refine ⟨fun other => ?_, rfl⟩
        by_cases here : other = place
        · rw [here]
          exact .inr ⟨empty, node?_put_self _ (not_standing free)⟩
        · exact .inl (node?_put_of_ne _ here)

theorem put_stores {place : Place} (free : t.node? place ≠ some .folder) (content : ByteArray) :
    Stores place content t (t.put place (.file content)) where
  here := node?_put_self _ (not_standing free)
  others := fun other apart kept => by rw [node?_put_of_ne _ apart]
  device := rfl

theorem filePlace_ok {p : Path} {place : Place} (found : t.filePlace? p = .ok place) :
    t.place? p = .ok place ∧ t.node? place ≠ some .folder := by
  rw [filePlace?] at found
  split at found
  · cases found
  · rename_i here leads
    split at found
    · cases found
    · rename_i free
      cases found
      exact ⟨leads, free⟩

/-- What comes of a write: all of it, nothing, or the first bytes of it. -/
inductive WriteResult (t : FileTree) (place : Place) (content : ByteArray) :
    Except FileError Unit × FileTree → Prop where
  | done {u : FileTree} (stores : Stores place content t u) :
      WriteResult t place content (.ok (), u)
  | refused (e : FileError) : WriteResult t place content (.error e, t)
  | brokenOff (e : FileError) {u : FileTree} {length : Nat} {reason : String}
      (own : t.device.writeEnd t.changes place content = .brokenOff length reason)
      (stores : Stores place (content.extract 0 length) t u) :
      WriteResult t place content (.error e, u)

theorem write_result (t : FileTree) (p : Path) (content : ByteArray) :
    WriteResult t p.place content (t.write p content) := by
  rw [write]
  split
  · exact .refused _
  · rename_i place found
    obtain ⟨leads, free⟩ := filePlace_ok found
    rw [← place_of_found leads]
    split
    · exact .done (put_stores free content)
    · exact .refused _
    · rename_i own
      exact .brokenOff _ own (put_stores free _)

-- A full device has emptied the file that was to be written anew.
example :
    let t : FileTree := {
      entries := [(["kept.cs"], .file "class A;".toUTF8)]
      device := { Device.sound with
        writeEnd := fun _ _ _ => .brokenOff 0 "[Errno 28] No space left on device" } }
    (t.write (.ofString "kept.cs") "class B;".toUTF8).2.node? ["kept.cs"] = some (.file ⟨#[]⟩) := by
  cbv

end FileTree

namespace Disk

variable {ε δ α β : Type}

def on (x : Disk ε α) (t : FileTree) : Except ε α × FileTree := x.run.run t

theorem on_bind_ok {x : Disk ε α} {t u : FileTree} {a : α} (done : x.on t = (.ok a, u))
    (f : α → Disk ε β) : (x >>= f).on t = (f a).on u := by
  show (match x.on t with | (answer, u) => (ExceptT.bindCont f answer).run u) = _
  rw [done]
  rfl

theorem on_bind_error {x : Disk ε α} {t u : FileTree} {e : ε} (refused : x.on t = (.error e, u))
    (f : α → Disk ε β) : (x >>= f).on t = (.error e, u) := by
  show (match x.on t with | (answer, u) => (ExceptT.bindCont f answer).run u) = _
  rw [refused]
  rfl

theorem on_get_bind (f : FileTree → Disk ε α) (t : FileTree) :
    (get >>= f : Disk ε α).on t = (f t).on t := rfl

theorem on_adapt (g : ε → δ) (x : Disk ε α) (t : FileTree) :
    on (ExceptT.adapt g x) t = ((x.on t).1.mapError g, (x.on t).2) := rfl

def Grows (x : Disk ε α) : Prop := ∀ t : FileTree, t.Grows (x.on t).2

theorem grows_pure (a : α) : (pure a : Disk ε α).Grows := FileTree.Grows.refl

theorem grows_throw (e : ε) : (throw e : Disk ε α).Grows := FileTree.Grows.refl

theorem Grows.bind {x : Disk ε α} {f : α → Disk ε β} (first : x.Grows)
    (next : ∀ a, (f a).Grows) : (x >>= f).Grows := by
  intro t
  have grown := first t
  rcases ran : x.on t with ⟨_ | a, u⟩ <;> rw [ran] at grown
  · rw [on_bind_error ran]
    exact grown
  · rw [on_bind_ok ran]
    exact grown.trans (next a u)

theorem Grows.adapt {x : Disk ε α} (grows : x.Grows) (g : ε → δ) :
    Grows (ExceptT.adapt g x : Disk δ α) := grows

theorem Grows.forM {f : α → Disk ε Unit} (each : ∀ a, (f a).Grows) (as : List α) :
    (as.forM f).Grows := by
  induction as with
  | nil => exact grows_pure _
  | cons a rest ih =>
    show (f a >>= fun _ => rest.forM f).Grows
    exact (each a).bind fun _ => ih

theorem ensureOne_grows (p : Path) : (ensureOne p).Grows := by
  intro t
  rw [ensureOne, on_get_bind]
  cases made : t.makeFolder p with
  | ok u => exact FileTree.makeFolder_grows made
  | error problem =>
    dsimp only
    split
    · exact grows_pure _ t
    · exact grows_throw _ t

theorem ensureFolder_grows (p : Path) : (ensureFolder p).Grows := by
  induction length : p.parts.length using Nat.strongRecOn generalizing p with
  | ind n ih =>
    intro t
    rw [ensureFolder, on_get_bind]
    split
    · split
      · exact grows_throw _ t
      · rename_i filled
        have above : (ensureFolder p.parent).Grows :=
          ih _ (length ▸ Path.length_parent_lt filled) p.parent rfl
        exact above.bind (fun _ => ensureOne_grows p) t
    · exact ensureOne_grows p t

/-- What a step that writes a file leaves: the file where it succeeds, and where it fails no more
than folders, or a file that begins as that one does. -/
structure Writes (place : Place) (content : ByteArray) (x : Disk ε Unit) : Prop where
  stores : ∀ t u, x.on t = (.ok (), u) → FileTree.Stores place content t u
  fails : ∀ t e u, x.on t = (.error e, u) →
    t.Grows u ∨ ∃ length, FileTree.Stores place (content.extract 0 length) t u
  roomy : ∀ t e u, t.device.Roomy → x.on t = (.error e, u) → t.Grows u

theorem on_writeFile (p : Path) (content : ByteArray) (t : FileTree) :
    (writeFile p content).on t = t.write p content := rfl

theorem writeFile_writes (p : Path) (content : ByteArray) :
    (writeFile p content).Writes p.place content := by
  constructor
  · intro t u done
    have result := t.write_result p content
    rw [← on_writeFile, done] at result
    cases result with
    | done stores => exact stores
  · intro t e u failed
    have result := t.write_result p content
    rw [← on_writeFile, failed] at result
    cases result with
    | refused => exact .inl (.refl t)
    | brokenOff _ _ stores => exact .inr ⟨_, stores⟩
  · intro t e u roomy failed
    have result := t.write_result p content
    rw [← on_writeFile, failed] at result
    cases result with
    | refused => exact .refl t
    | brokenOff _ own _ => exact absurd own (roomy _ _ _ _ _)

theorem Writes.after {x : Disk ε Unit} {place : Place} {content : ByteArray} {y : Disk ε α}
    (writes : x.Writes place content) (first : y.Grows) :
    Writes place content (y >>= fun _ => x) := by
  constructor
  · intro t u done
    have grown := first t
    rcases ran : y.on t with ⟨_ | a, v⟩ <;> rw [ran] at grown
    · rw [on_bind_error ran] at done
      cases done
    · rw [on_bind_ok ran] at done
      exact (writes.stores v u done).after_grows grown
  · intro t e u failed
    have grown := first t
    rcases ran : y.on t with ⟨_ | a, v⟩ <;> rw [ran] at grown
    · rw [on_bind_error ran] at failed
      cases failed
      exact .inl grown
    · rw [on_bind_ok ran] at failed
      rcases writes.fails v e u failed with grows | ⟨length, stores⟩
      · exact .inl (grown.trans grows)
      · exact .inr ⟨length, stores.after_grows grown⟩
  · intro t e u roomy failed
    have grown := first t
    rcases ran : y.on t with ⟨_ | a, v⟩ <;> rw [ran] at grown
    · rw [on_bind_error ran] at failed
      cases failed
      exact grown
    · rw [on_bind_ok ran] at failed
      exact grown.trans (writes.roomy v e u (grown.device ▸ roomy) failed)

theorem writeBelow_writes (p : Path) (content : ByteArray) :
    (writeBelow p content).Writes p.place content :=
  (writeFile_writes p content).after (ensureFolder_grows p.parent)

theorem on_adapt_ok {g : ε → δ} {x : Disk ε Unit} {t u : FileTree}
    (done : on (ExceptT.adapt g x) t = (.ok (), u)) : x.on t = (.ok (), u) := by
  rw [on_adapt] at done
  rcases ran : x.on t with ⟨_ | _, v⟩ <;> rw [ran] at done <;> cases done
  rfl

theorem on_adapt_error {g : ε → δ} {x : Disk ε Unit} {t u : FileTree} {d : δ}
    (failed : on (ExceptT.adapt g x) t = (.error d, u)) : ∃ e, x.on t = (.error e, u) := by
  rw [on_adapt] at failed
  rcases ran : x.on t with ⟨e | _, v⟩ <;> rw [ran] at failed <;> cases failed
  exact ⟨e, rfl⟩

theorem Writes.adapt {place : Place} {content : ByteArray} {x : Disk ε Unit}
    (writes : x.Writes place content) (g : ε → δ) :
    Writes place content (ExceptT.adapt g x : Disk δ Unit) where
  stores := fun t u done => writes.stores t u (on_adapt_ok done)
  fails := fun t _ u failed =>
    have ⟨e, own⟩ := on_adapt_error failed
    writes.fails t e u own
  roomy := fun t _ u roomy failed =>
    have ⟨e, own⟩ := on_adapt_error failed
    writes.roomy t e u roomy own

end Disk

theorem writeArtifact_writes (root : Path) (path content : String) :
    (writeArtifact root path (.str content)).Writes (artifactPath root path).place
      content.toUTF8 :=
  (Disk.writeBelow_writes (artifactPath root path) content.toUTF8).adapt _

theorem prepareDestination_grows (c : Config) : (prepareDestination c).Grows := by
  rw [prepareDestination]
  split
  · exact Disk.grows_throw _
  · refine (Disk.Grows.forM (fun p => ?_) _).bind fun _ => Disk.grows_pure _
    exact (Disk.ensureFolder_grows p).adapt _

end EntityScaffold
