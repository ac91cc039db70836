import EntityScaffold.Proofs.Outcomes
import EntityScaffold.Trace

/-!
Traces that came to their end, and traces that stopped. What a compound trace has made when it comes
to its end is put together from what its parts have made; what may stop it is what may stop one of
them.
-/
namespace EntityScaffold.Trace

variable {α β : Type}

structure Yields (x : Trace α) (as : List α) : Prop where
  done : x.stopped = none
  items : x.items = as

theorem yields_of_done {x : Trace α} (done : x.stopped = none) : x.Yields x.items := ⟨done, rfl⟩

theorem yields_one {a : α} {as : List α} : (one a).Yields as ↔ as = [a] := by
  constructor
  · rintro ⟨_, made⟩
    exact made.symm
  · rintro rfl
    exact ⟨rfl, rfl⟩

theorem yields_fault {f : Fault} {as : List α} : ¬ (fault f).Yields as := by
  rintro ⟨stopped, _⟩
  cases stopped

theorem yields_append {x y : Trace α} {as : List α} :
    (x ++ y).Yields as ↔ ∃ bs cs, x.Yields bs ∧ y.Yields cs ∧ as = bs ++ cs := by
  constructor
  · rintro ⟨done, made⟩
    rw [stopped_append, Option.or_eq_none_iff] at done
    rw [items_append_of_done y done.1] at made
    exact ⟨x.items, y.items, yields_of_done done.1, yields_of_done done.2, made.symm⟩
  · rintro ⟨_, _, ⟨done, rfl⟩, ⟨doneToo, rfl⟩, rfl⟩
    refine ⟨?_, items_append_of_done y done⟩
    rw [stopped_append, done, doneToo]
    rfl

theorem yields_ofNotice_append {n : Notice} {x : Trace α} {as : List α} :
    (ofNotice n ++ x).Yields as ↔ x.Yields as := by
  rw [yields_append]
  constructor
  · rintro ⟨_, cs, ⟨_, rfl⟩, made, rfl⟩
    exact made
  · intro made
    exact ⟨[], as, ⟨rfl, rfl⟩, made, rfl⟩

theorem yields_one_append {a : α} {x : Trace α} {as : List α} :
    (one a ++ x).Yields as ↔ ∃ rest, x.Yields rest ∧ as = a :: rest := by
  rw [yields_append]
  constructor
  · rintro ⟨_, rest, first, made, rfl⟩
    exact ⟨rest, made, by rw [yields_one.1 first]; rfl⟩
  · rintro ⟨rest, made, rfl⟩
    exact ⟨[a], rest, yields_one.2 rfl, made, rfl⟩

theorem yields_ofExcept {x : Except Fault α} {as : List α} :
    (ofExcept x).Yields as ↔ ∃ a, x = .ok a ∧ as = [a] := by
  cases x with
  | error f => simpa [ofExcept] using yields_fault
  | ok a => simpa [ofExcept] using yields_one

theorem yields_ofNoted {x : Noted α} {as : List α} (made : (ofNoted x).Yields as) :
    ∃ a, x.outcome = .ok a ∧ as = [a] := by
  obtain ⟨done, rfl⟩ := made
  unfold ofNoted at *
  cases found : x.outcome with
  | error f => simp [found] at done
  | ok a => exact ⟨a, rfl, by simp [items, List.filterMap_map]⟩

theorem yields_after {x : Noted β} {next : β → Trace α} {as : List α}
    (made : (after x next).Yields as) : ∃ b, x.outcome = .ok b ∧ (next b).Yields as := by
  unfold after at made
  cases found : x.outcome with
  | error f =>
    rw [found] at made
    cases made.done
  | ok b =>
    rw [found] at made
    obtain ⟨bs, cs, ⟨_, notices⟩, rest, rfl⟩ := yields_append.1 made
    have nothing : bs = [] := by
      rw [← notices]
      simp [items, List.filterMap_map]
    exact ⟨b, rfl, by rw [nothing]; exact rest⟩

theorem yields_forEach {bs : List β} {f : β → Trace α} {as : List α}
    (made : (forEach bs f).Yields as) :
    ∃ parts, List.Forall₂ (fun b part => (f b).Yields part) bs parts ∧ as = parts.flatten := by
  induction bs generalizing as with
  | nil =>
    obtain ⟨_, rfl⟩ := made
    exact ⟨[], .nil, rfl⟩
  | cons b rest ih =>
    obtain ⟨first, others, own, walked, rfl⟩ := yields_append.1 made
    obtain ⟨parts, each, rfl⟩ := ih walked
    exact ⟨first :: parts, .cons own each, rfl⟩

theorem forEach_done {bs : List β} {f : β → Trace α} :
    (forEach bs f).stopped = none ↔ ∀ b ∈ bs, (f b).stopped = none := by
  induction bs with
  | nil => simp [forEach, empty]
  | cons b rest ih =>
    rw [forEach, stopped_append, Option.or_eq_none_iff, ih, List.forall_mem_cons]

theorem items_forEach {bs : List β} {f : β → Trace α} (done : (forEach bs f).stopped = none) :
    (forEach bs f).items = bs.flatMap fun b => (f b).items := by
  induction bs with
  | nil => rfl
  | cons b rest ih =>
    rw [forEach, stopped_append, Option.or_eq_none_iff] at done
    rw [forEach, items_append_of_done _ done.1, ih done.2, List.flatMap_cons]

theorem yields_forEach_ofExcept {bs : List β} {f : β → Except Fault α} {as : List α}
    (made : (forEach bs fun b => ofExcept (f b)).Yields as) : bs.mapM f = .ok as := by
  obtain ⟨parts, each, rfl⟩ := yields_forEach made
  rw [mapM_ok]
  clear made
  induction each with
  | nil => exact .nil
  | cons own _ ih =>
    obtain ⟨a, found, rfl⟩ := yields_ofExcept.1 own
    exact .cons found ih

theorem yields_forEach_one {bs : List β} {f : β → α} {as : List α}
    (made : (forEach bs fun b => one (f b)).Yields as) : as = bs.map f := by
  obtain ⟨parts, each, rfl⟩ := yields_forEach made
  clear made
  induction each with
  | nil => rfl
  | cons own _ ih => rw [List.flatten_cons, ih, yields_one.1 own]; rfl

theorem yields_map {f : α → β} {x : Trace α} {bs : List β} (made : (x.map f).Yields bs) :
    ∃ as, x.Yields as ∧ bs = as.map f := by
  obtain ⟨done, rfl⟩ := made
  refine ⟨x.items, ⟨done, rfl⟩, ?_⟩
  simp only [items, map, List.filterMap_map, List.map_filterMap]
  congr 1
  funext s
  cases s <;> rfl

theorem yields_tryMapSteps {f : α → Except Fault β} {stopped : Option Fault}
    {steps : List (Step α)} {bs : List β} (made : (tryMapSteps f stopped steps).Yields bs) :
    stopped = none ∧ (items ⟨steps, stopped⟩).mapM f = .ok bs := by
  induction steps generalizing bs with
  | nil =>
    obtain ⟨done, rfl⟩ := made
    exact ⟨done, rfl⟩
  | cons s rest ih =>
    cases s with
    | notice n => exact ih (yields_ofNotice_append.1 made)
    | item a =>
      rw [tryMapSteps] at made
      cases found : f a with
      | error e =>
        rw [found] at made
        exact absurd made yields_fault
      | ok b =>
        rw [found] at made
        obtain ⟨others, walked, rfl⟩ := yields_one_append.1 made
        obtain ⟨done, changed⟩ := ih walked
        refine ⟨done, mapM_ok.2 (.cons found (mapM_ok.1 changed))⟩

theorem yields_tryMap {f : α → Except Fault β} {x : Trace α} {bs : List β}
    (made : (x.tryMap f).Yields bs) : ∃ as, x.Yields as ∧ as.mapM f = .ok bs := by
  obtain ⟨done, changed⟩ := yields_tryMapSteps made
  exact ⟨x.items, ⟨done, rfl⟩, changed⟩

section items

/-! What any trace has made, whether it came to its end or stopped. -/

theorem mem_items_append {x y : Trace α} {a : α} (made : a ∈ (x ++ y).items) :
    a ∈ x.items ∨ a ∈ y.items := by
  cases stopped : x.stopped with
  | some f => exact .inl (append_of_stopped y stopped ▸ made)
  | none =>
    rw [items_append_of_done y stopped] at made
    exact List.mem_append.1 made

theorem mem_items_one {a b : α} (made : a ∈ (one b).items) : a = b := by
  simpa [one, items] using made

theorem mem_items_forEach {bs : List β} {f : β → Trace α} {a : α}
    (made : a ∈ (forEach bs f).items) : ∃ b ∈ bs, a ∈ (f b).items := by
  induction bs with
  | nil => cases made
  | cons b rest ih =>
    rcases mem_items_append made with first | others
    · exact ⟨b, by simp, first⟩
    · obtain ⟨c, member, found⟩ := ih others
      exact ⟨c, List.mem_cons_of_mem b member, found⟩

theorem mem_items_after {x : Noted β} {next : β → Trace α} {a : α}
    (made : a ∈ (after x next).items) : ∃ b, x.outcome = .ok b ∧ a ∈ (next b).items := by
  unfold after at made
  cases found : x.outcome with
  | error f => simp [found, items, List.filterMap_map] at made
  | ok b =>
    rw [found] at made
    refine ⟨b, rfl, (mem_items_append made).resolve_left ?_⟩
    simp [items, List.filterMap_map]

theorem mem_items_ofExcept {x : Except Fault α} {a : α} (made : a ∈ (ofExcept x).items) :
    x = .ok a := by
  cases x with
  | error f => cases made
  | ok b => rw [mem_items_one made]

theorem mem_items_ofNoted {x : Noted α} {a : α} (made : a ∈ (ofNoted x).items) :
    x.outcome = .ok a := by
  unfold ofNoted at made
  cases found : x.outcome with
  | error f => simp [found, items, List.filterMap_map] at made
  | ok b =>
    have same : a = b := by simpa [found, items, List.filterMap_map] using made
    rw [same]

theorem items_ofNoted {x : Noted α} {a : α} (found : x.outcome = .ok a) :
    (ofNoted x).items = [a] := by
  simp [ofNoted, found, items, List.filterMap_map]

theorem mem_items_map {f : α → β} {x : Trace α} {b : β} (made : b ∈ (x.map f).items) :
    ∃ a ∈ x.items, f a = b := by
  obtain ⟨s, changed, own⟩ := List.mem_filterMap.1 made
  obtain ⟨step, member, rfl⟩ := List.mem_map.1 changed
  cases step with
  | notice n => cases own
  | item a =>
    cases own
    exact ⟨a, List.mem_filterMap.2 ⟨_, member, rfl⟩, rfl⟩

theorem mem_items_tryMap {f : α → Except Fault β} {x : Trace α} {b : β}
    (made : b ∈ (x.tryMap f).items) : ∃ a ∈ x.items, f a = .ok b := by
  obtain ⟨steps, stopped⟩ := x
  unfold tryMap at made
  induction steps with
  | nil => cases made
  | cons s rest ih =>
    cases s with
    | notice n =>
      have silent : b ∉ (ofNotice n : Trace β).items := by simp [ofNotice, items]
      exact ih ((mem_items_append made).resolve_left silent)
    | item a =>
      rw [tryMapSteps] at made
      cases found : f a with
      | error e =>
        rw [found] at made
        cases made
      | ok c =>
        rw [found] at made
        rcases mem_items_append made with own | others
        · exact ⟨a, by simp [items], mem_items_one own ▸ found⟩
        · obtain ⟨d, member, changed⟩ := ih others
          exact ⟨d, List.mem_cons_of_mem a member, changed⟩

end items

section stopping

/-- A trace that stops, if it does, with a fault of one kind. -/
def StopsWith (P : Fault → Prop) (x : Trace α) : Prop := ∀ f, x.stopped = some f → P f

variable {P : Fault → Prop}

theorem stopsWith_of_done {x : Trace α} (done : x.stopped = none) : StopsWith P x := by
  intro f stopped
  cases done.symm.trans stopped

theorem stopsWith_one (a : α) : StopsWith P (one a) := stopsWith_of_done rfl

theorem StopsWith.append {x y : Trace α} (first : StopsWith P x) (second : StopsWith P y) :
    StopsWith P (x ++ y) := by
  intro f stopped
  rw [stopped_append, Option.or_eq_some_iff] at stopped
  rcases stopped with own | ⟨_, other⟩
  · exact first f own
  · exact second f other

theorem StopsWith.forEach {bs : List β} {f : β → Trace α}
    (each : ∀ b ∈ bs, StopsWith P (f b)) : StopsWith P (forEach bs f) := by
  induction bs with
  | nil => exact stopsWith_of_done rfl
  | cons b rest ih =>
    exact (each b (by simp)).append (ih fun c later => each c (List.mem_cons_of_mem b later))

theorem StopsWith.ofExcept {x : Except Fault α} (fails : FailsWith P x) :
    StopsWith P (ofExcept x) := by
  cases x with
  | error f =>
    intro g stopped
    cases stopped
    exact failsWith_error.1 fails
  | ok a => exact stopsWith_one a

theorem StopsWith.ofNoted {x : Noted α} (fails : FailsWith P x.outcome) :
    StopsWith P (ofNoted x) := by
  unfold Trace.ofNoted
  cases found : x.outcome with
  | error f =>
    intro g stopped
    cases stopped
    exact fails f found
  | ok a => exact stopsWith_of_done rfl

theorem StopsWith.after {x : Noted β} {next : β → Trace α} (fails : FailsWith P x.outcome)
    (others : ∀ b, x.outcome = .ok b → StopsWith P (next b)) : StopsWith P (after x next) := by
  unfold Trace.after
  cases found : x.outcome with
  | error f =>
    intro g stopped
    cases stopped
    exact fails f found
  | ok b => exact (stopsWith_of_done rfl).append (others b found)

theorem StopsWith.map {f : α → β} {x : Trace α} (stops : StopsWith P x) : StopsWith P (x.map f) :=
  stops

theorem stopsWith_tryMapSteps {f : α → Except Fault β} {stopped : Option Fault}
    {steps : List (Step α)} (stops : ∀ g, stopped = some g → P g)
    (changed : ∀ a ∈ items ⟨steps, stopped⟩, FailsWith P (f a)) :
    StopsWith P (tryMapSteps f stopped steps) := by
  induction steps with
  | nil => exact stops
  | cons s rest ih =>
    cases s with
    | notice n => exact (stopsWith_of_done rfl).append (ih changed)
    | item a =>
      have own : FailsWith P (f a) := changed a (by simp [items])
      rw [tryMapSteps]
      cases found : f a with
      | error e =>
        intro g given
        cases given
        exact own _ found
      | ok b =>
        refine (stopsWith_one b).append (ih fun c later => changed c ?_)
        exact List.mem_cons_of_mem a later

theorem StopsWith.tryMap {f : α → Except Fault β} {x : Trace α} (stops : StopsWith P x)
    (changed : ∀ a ∈ x.items, FailsWith P (f a)) : StopsWith P (x.tryMap f) :=
  stopsWith_tryMapSteps stops changed

end stopping

end EntityScaffold.Trace
