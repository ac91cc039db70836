import EntityScaffold.Files.Output

/-!
Places that paths lead to. A path leads to one place whatever is on the tree, if it leads anywhere;
without parts that lead up it stays below where it starts. What is at a place changes only when
something is put there.
-/
namespace EntityScaffold

namespace Path

theorem splitParts_ne_nil (cs : List Char) : splitParts cs ≠ [] := by
  cases cs with
  | nil => simp [splitParts]
  | cons c rest =>
    rw [splitParts]
    split
    · simp
    · split <;> simp

theorem splitParts_cons_of_ne {c : Char} (other : c ≠ '/') {cs part : List Char}
    {parts : List (List Char)} (split : splitParts cs = part :: parts) :
    splitParts (c :: cs) = (c :: part) :: parts := by
  rw [splitParts, if_neg other, split]

theorem splitParts_slash (as bs : List Char) :
    splitParts (as ++ '/' :: bs) = splitParts as ++ splitParts bs := by
  induction as with
  | nil => simp [splitParts]
  | cons c rest ih =>
    by_cases slash : c = '/'
    · simp [splitParts, slash, ih]
    · obtain ⟨part, parts, found⟩ := List.exists_cons_of_ne_nil (splitParts_ne_nil rest)
      rw [List.cons_append, splitParts_cons_of_ne slash found]
      rw [found, List.cons_append] at ih
      rw [splitParts_cons_of_ne slash ih, List.cons_append]

theorem splitParts_of_not_mem {cs : List Char} (whole : '/' ∉ cs) : splitParts cs = [cs] := by
  induction cs with
  | nil => rfl
  | cons c rest ih =>
    simp only [List.mem_cons, not_or] at whole
    exact splitParts_cons_of_ne (Ne.symm whole.1) (ih whole.2)

theorem splitParts_ending (as : List Char) {bs : List Char} (whole : '/' ∉ bs) :
    ∃ last, splitParts (as ++ bs) = (splitParts as).dropLast ++ [last ++ bs] := by
  induction as with
  | nil => exact ⟨[], by rw [List.nil_append, splitParts_of_not_mem whole]; rfl⟩
  | cons c rest ih =>
    obtain ⟨last, found⟩ := ih
    by_cases slash : c = '/'
    · refine ⟨last, ?_⟩
      rw [List.cons_append, splitParts, if_pos slash, splitParts, if_pos slash, found,
        List.dropLast_cons_of_ne_nil (splitParts_ne_nil rest), List.cons_append]
    · obtain ⟨part, parts, split⟩ := List.exists_cons_of_ne_nil (splitParts_ne_nil rest)
      rw [splitParts_cons_of_ne slash split]
      rw [split] at found
      cases parts with
      | nil => exact ⟨c :: last, splitParts_cons_of_ne slash found⟩
      | cons next others => exact ⟨last, splitParts_cons_of_ne slash found⟩

/-- A part that names something in the folder where it stands. -/
def NamesEntry (part : List Char) : Prop := part ≠ [] ∧ part ≠ ['.'] ∧ part ≠ ['.', '.']

def StaysBelow (text : String) : Prop := ∀ part ∈ splitParts text.toList, NamesEntry part

instance (part : List Char) : Decidable (NamesEntry part) := inferInstanceAs (Decidable (_ ∧ _))

instance (text : String) : Decidable (StaysBelow text) :=
  inferInstanceAs (Decidable (∀ _ ∈ _, _))

def entryNames (text : String) : List String := (splitParts text.toList).map String.ofList

def place (p : Path) : Place := p.parts.foldl Place.next p.start

theorem ofString_of_staysBelow {text : String} (below : StaysBelow text) :
    ofString text = ⟨"", entryNames text⟩ := by
  have top : topOf text.toList = "" := by
    cases chars : text.toList with
    | nil => rfl
    | cons c rest =>
      have relative : c ≠ '/' := by
        rintro rfl
        refine (below [] ?_).1 rfl
        simp [chars, splitParts]
      simp [topOf, relative]
  have kept : (splitParts text.toList).filter isPart = splitParts text.toList := by
    refine List.filter_eq_self.2 fun part member => ?_
    simp [isPart, (below part member).1, (below part member).2.1]
  rw [ofString, top, kept, entryNames]

theorem next_of_ne_up {place : Place} {name : String} (named : name ≠ up) :
    place.next name = place ++ [name] := if_neg named

theorem foldl_next_of_names {names : List String} (named : ∀ n ∈ names, n ≠ up) (place : Place) :
    names.foldl Place.next place = place ++ names := by
  induction names generalizing place with
  | nil => simp
  | cons n rest ih =>
    have others : ∀ m ∈ rest, m ≠ up := fun m member => named m (List.mem_cons_of_mem n member)
    rw [List.foldl_cons, next_of_ne_up (named n (by simp)), ih others, List.append_assoc]
    rfl

/-- A path that stays below a root leads to the place of its names there. -/
theorem place_of_staysBelow (root : Path) {text : String} (below : StaysBelow text) :
    (artifactPath root text).place = root.place ++ entryNames text := by
  have names : ∀ n ∈ entryNames text, n ≠ up := by
    rintro n listed rfl
    obtain ⟨part, member, same⟩ := List.mem_map.1 listed
    refine (below part member).2.2 ?_
    rw [← String.toList_ofList (l := part), same]
    rfl
  have joined : artifactPath root text = { root with parts := root.parts ++ entryNames text } := by
    rw [artifactPath, ofString_of_staysBelow below]
    rfl
  rw [joined, place, List.foldl_append]
  exact foldl_next_of_names names root.place

end Path

namespace FileTree

variable {t u : FileTree}

theorem walk_ok {names : List String} {place final : Place} (walked : t.walk place names = .ok final) :
    final = names.foldl Place.next place := by
  induction names generalizing place with
  | nil =>
    cases walked
    rfl
  | cons n rest ih =>
    rw [walk] at walked
    split at walked
    · cases walked
    · cases walked
    · split at walked
      · exact ih walked
      · cases walked

/-- Where a path leads does not depend on the tree, only whether it does. -/
theorem place_of_found {p : Path} {place : Place} (found : t.place? p = .ok place) :
    place = p.place := by
  rw [place?] at found
  split at found
  · cases found
  · split at found
    · exact walk_ok found
    · cases found

theorem walk_again (kept : ∀ q, t.node? q = some .folder → u.node? q = some .folder)
    {names : List String} {place final : Place} (walked : t.walk place names = .ok final) :
    u.walk place names = .ok final := by
  induction names generalizing place with
  | nil => exact walked
  | cons n rest ih =>
    rw [walk] at walked ⊢
    split at walked
    · cases walked
    · cases walked
    · rename_i folder
      rw [kept place folder]
      split at walked
      · rename_i short
        simp only [short, ↓reduceIte]
        exact ih walked
      · cases walked

theorem place?_again (kept : ∀ q, t.node? q = some .folder → u.node? q = some .folder) {p : Path}
    {place : Place} (found : t.place? p = .ok place) : u.place? p = .ok place := by
  rw [place?] at found ⊢
  split at found
  · cases found
  · rename_i whole
    rw [if_neg whole]
    split at found
    · rename_i short
      rw [if_pos short]
      exact walk_again kept found
    · cases found

theorem lookup_filter_ne {entries : List (Place × Node)} {place other : Place}
    (different : other ≠ place) :
    (entries.filter fun e => e.1 != place).lookup other = entries.lookup other := by
  induction entries with
  | nil => rfl
  | cons e rest ih =>
    obtain ⟨name, node⟩ := e
    rw [List.filter_cons]
    by_cases own : name = place
    · have apart : (other == place) = false := by simp [different]
      simp [own, ih, List.lookup_cons, apart]
    · simp [own, List.lookup_cons, ih]

theorem node?_put_self {place : Place} (node : Node) (free : place.isStanding = false) :
    (t.put place node).node? place = some node := by
  simp [node?, free, put]

theorem node?_put_of_ne {place other : Place} (node : Node) (different : other ≠ place) :
    (t.put place node).node? other = t.node? other := by
  have apart : (other == place) = false := by simp [different]
  simp [node?, put, List.lookup_cons, apart, lookup_filter_ne different]

theorem not_standing {place : Place} (other : t.node? place ≠ some .folder) :
    place.isStanding = false := by
  cases standing : place.isStanding with
  | false => rfl
  | true => exact absurd (if_pos standing) other

end FileTree

end EntityScaffold
