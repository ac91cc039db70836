/-!
Catalogs: entries in the order they came, each under a name of its own. An entry under a name that
is there already takes the place of the older one. The operations are described by what they do to
the list of entries and to `find?`.
-/
namespace EntityScaffold

class Keyed (α : Type) where
  key : α → String

structure Catalog (α : Type) [Keyed α] where
  entries : List α
  nodup : (entries.map Keyed.key).Nodup

namespace Catalog
open Keyed

variable {α : Type} [Keyed α]

def empty : Catalog α := ⟨[], by simp⟩

instance : Inhabited (Catalog α) := ⟨empty⟩

def find? (c : Catalog α) (name : String) : Option α := c.entries.find? fun a => key a == name

def contains (c : Catalog α) (name : String) : Bool := (c.find? name).isSome

def keys (c : Catalog α) : List String := c.entries.map key

def replaceIn (a : α) (entries : List α) : List α :=
  entries.map fun b => if key b = key a then a else b

theorem map_key_replaceIn (a : α) (entries : List α) :
    (replaceIn a entries).map key = entries.map key := by
  simp only [replaceIn, List.map_map]
  apply List.map_congr_left
  intro b _
  by_cases h : key b = key a
  · simp [h]
  · simp [h]

def insert (c : Catalog α) (a : α) : Catalog α :=
  if h : key a ∈ c.entries.map key then
    ⟨replaceIn a c.entries, by rw [map_key_replaceIn]; exact c.nodup⟩
  else
    ⟨c.entries ++ [a], by
      simp only [List.map_append, List.map_cons, List.map_nil]
      exact List.nodup_append.2 ⟨c.nodup, by simp, by
        intro x hx y hy
        simp only [List.mem_singleton] at hy
        subst hy
        exact fun same => h (same ▸ hx)⟩⟩

def insertAll (c : Catalog α) (entries : List α) : Catalog α := entries.foldl insert c

def ofList (entries : List α) : Catalog α := empty.insertAll entries

def filter (c : Catalog α) (p : α → Bool) : Catalog α :=
  ⟨c.entries.filter p, (List.filter_sublist.map key).nodup c.nodup⟩

def mapEntries (c : Catalog α) (f : α → α) (keeps : ∀ a, key (f a) = key a) : Catalog α :=
  ⟨c.entries.map f, by
    have same : (c.entries.map f).map key = c.entries.map key := by simp [keeps]
    rw [same]
    exact c.nodup⟩

theorem map_key_of_mapM {ε : Type} {f : α → Except ε α}
    (keeps : ∀ a b, f a = .ok b → key b = key a) :
    ∀ {entries changed : List α}, entries.mapM f = .ok changed →
      changed.map key = entries.map key
  | [], changed, h => by cases h; rfl
  | a :: rest, changed, h => by
    simp only [List.mapM_cons] at h
    cases first : f a with
    | error e => rw [first] at h; cases h
    | ok b =>
      rw [first] at h
      cases others : rest.mapM f with
      | error e => rw [others] at h; cases h
      | ok bs =>
        rw [others] at h
        cases h
        simp [keeps a b first, map_key_of_mapM keeps others]

def tryMap {ε : Type} (c : Catalog α) (f : α → Except ε α)
    (keeps : ∀ a b, f a = .ok b → key b = key a) : Except ε (Catalog α) :=
  match h : c.entries.mapM f with
  | .error e => .error e
  | .ok entries => .ok ⟨entries, by rw [map_key_of_mapM keeps h]; exact c.nodup⟩

def modify (c : Catalog α) (name : String) (f : α → α) (keeps : ∀ a, key (f a) = key a) :
    Catalog α :=
  c.mapEntries (fun a => if key a = name then f a else a) (by
    intro a
    by_cases h : key a = name
    · simp [h, keeps]
    · simp [h])

theorem ext {c d : Catalog α} (h : c.entries = d.entries) : c = d := by
  cases c
  cases d
  cases h
  rfl

@[simp] theorem entries_empty : (empty : Catalog α).entries = [] := rfl

theorem entries_insert_of_mem {c : Catalog α} {a : α} (h : key a ∈ c.keys) :
    (c.insert a).entries = replaceIn a c.entries := by
  have member : key a ∈ c.entries.map key := h
  rw [insert, dif_pos member]

theorem entries_insert_of_not_mem {c : Catalog α} {a : α} (h : key a ∉ c.keys) :
    (c.insert a).entries = c.entries ++ [a] := by
  have absent : ¬ key a ∈ c.entries.map key := h
  rw [insert, dif_neg absent]

theorem key_of_find? {c : Catalog α} {name : String} {a : α} (h : c.find? name = some a) :
    key a = name := by
  have found := List.find?_some h
  simpa using found

theorem mem_of_find? {c : Catalog α} {name : String} {a : α} (h : c.find? name = some a) :
    a ∈ c.entries := List.mem_of_find?_eq_some h

theorem find?_isSome_iff (c : Catalog α) (name : String) :
    (c.find? name).isSome = true ↔ name ∈ c.keys := by
  simp [find?, keys, List.find?_isSome]

theorem find?_eq_none_iff (c : Catalog α) (name : String) :
    c.find? name = none ↔ name ∉ c.keys := by
  simp [find?, keys, List.find?_eq_none]

theorem eq_of_nodup_keys {entries : List α} (distinct : (entries.map key).Nodup) {a b : α}
    (ha : a ∈ entries) (hb : b ∈ entries) (h : key a = key b) : a = b := by
  induction entries with
  | nil => cases ha
  | cons c rest ih =>
    simp only [List.map_cons, List.nodup_cons] at distinct
    rcases List.mem_cons.1 ha with first | inRest
    · rcases List.mem_cons.1 hb with same | later
      · rw [first, same]
      · exact absurd (List.mem_map.2 ⟨b, later, by rw [← h, first]⟩) distinct.1
    · rcases List.mem_cons.1 hb with same | later
      · exact absurd (List.mem_map.2 ⟨a, inRest, by rw [h, same]⟩) distinct.1
      · exact ih distinct.2 inRest later

theorem eq_of_key_eq {c : Catalog α} {a b : α} (ha : a ∈ c.entries) (hb : b ∈ c.entries)
    (h : key a = key b) : a = b := eq_of_nodup_keys c.nodup ha hb h

theorem find?_of_mem {c : Catalog α} {a : α} (h : a ∈ c.entries) :
    c.find? (key a) = some a := by
  cases found : c.find? (key a) with
  | none =>
    have absent := (find?_eq_none_iff c (key a)).1 found
    exact absurd (List.mem_map.2 ⟨a, h, rfl⟩) absent
  | some b => rw [eq_of_key_eq h (mem_of_find? found) (key_of_find? found).symm]

@[simp] theorem entries_mapEntries (c : Catalog α) (f : α → α) (keeps) :
    (c.mapEntries f keeps).entries = c.entries.map f := rfl

@[simp] theorem keys_mapEntries (c : Catalog α) (f : α → α) (keeps) :
    (c.mapEntries f keeps).keys = c.keys := by
  simp [keys, keeps]

@[simp] theorem keys_modify (c : Catalog α) (name : String) (f : α → α) (keeps) :
    (c.modify name f keeps).keys = c.keys := keys_mapEntries c _ _

theorem entries_of_tryMap {ε : Type} {c d : Catalog α} {f : α → Except ε α} {keeps}
    (h : c.tryMap f keeps = .ok d) : c.entries.mapM f = .ok d.entries := by
  unfold tryMap at h
  split at h
  · cases h
  · rename_i entries found
    cases h
    exact found

theorem find?_mapEntries (c : Catalog α) (f : α → α) (keeps : ∀ a, key (f a) = key a)
    (name : String) : (c.mapEntries f keeps).find? name = (c.find? name).map f := by
  simp only [find?, entries_mapEntries, List.find?_map]
  congr 1
  apply congrArg (fun p => List.find? p c.entries)
  funext a
  simp [Function.comp, keeps]

theorem find?_modify (c : Catalog α) (name other : String) (f : α → α)
    (keeps : ∀ a, key (f a) = key a) :
    (c.modify name f keeps).find? other =
      (c.find? other).map fun a => if key a = name then f a else a :=
  find?_mapEntries c _ _ other

theorem find?_eq_some_iff {c : Catalog α} {name : String} {a : α} :
    c.find? name = some a ↔ a ∈ c.entries ∧ key a = name := by
  constructor
  · intro found
    exact ⟨mem_of_find? found, key_of_find? found⟩
  · rintro ⟨member, same⟩
    rw [← same]
    exact find?_of_mem member

theorem mem_insert {c : Catalog α} {a b : α} :
    b ∈ (c.insert a).entries ↔ b = a ∨ b ∈ c.entries ∧ key b ≠ key a := by
  by_cases present : key a ∈ c.keys
  · obtain ⟨old, member, same⟩ := List.mem_map.1 present
    rw [entries_insert_of_mem present]
    simp only [replaceIn, List.mem_map]
    constructor
    · rintro ⟨d, other, rfl⟩
      by_cases replaced : key d = key a
      · simp [replaced]
      · simp [replaced, other]
    · rintro (rfl | ⟨other, apart⟩)
      · exact ⟨old, member, by simp [same]⟩
      · exact ⟨b, other, by simp [apart]⟩
  · rw [entries_insert_of_not_mem present]
    simp only [List.mem_append, List.mem_singleton]
    constructor
    · rintro (member | same)
      · exact .inr ⟨member, fun same => present (same ▸ List.mem_map.2 ⟨b, member, rfl⟩)⟩
      · exact .inl same
    · rintro (same | ⟨member, _⟩)
      · exact .inr same
      · exact .inl member

theorem find?_insert (c : Catalog α) (a : α) (name : String) :
    (c.insert a).find? name = if key a = name then some a else c.find? name := by
  apply Option.ext
  intro b
  rw [find?_eq_some_iff, mem_insert]
  by_cases own : key a = name
  · simp only [own, ↓reduceIte, Option.some.injEq]
    constructor
    · rintro ⟨same | ⟨_, apart⟩, named⟩
      · exact same.symm
      · exact absurd named apart
    · rintro rfl
      exact ⟨.inl rfl, own⟩
  · simp only [own, ↓reduceIte, find?_eq_some_iff]
    constructor
    · rintro ⟨same | ⟨member, _⟩, named⟩
      · exact absurd (same ▸ named) own
      · exact ⟨member, named⟩
    · rintro ⟨member, named⟩
      exact ⟨.inr ⟨member, fun same => own (same ▸ named)⟩, named⟩

theorem find?_insertAll_of_not_mem {entries : List α} (c : Catalog α) {name : String}
    (absent : name ∉ entries.map key) : (c.insertAll entries).find? name = c.find? name := by
  induction entries generalizing c with
  | nil => rfl
  | cons a rest ih =>
    simp only [List.map_cons, List.mem_cons, not_or] at absent
    show ((c.insert a).insertAll rest).find? name = _
    rw [ih (c.insert a) absent.2, find?_insert, if_neg fun same => absent.1 same.symm]

theorem find?_insertAll_of_mem {entries : List α} (c : Catalog α)
    (distinct : (entries.map key).Nodup) {a : α} (member : a ∈ entries) :
    (c.insertAll entries).find? (key a) = some a := by
  induction entries generalizing c with
  | nil => cases member
  | cons b rest ih =>
    simp only [List.map_cons, List.nodup_cons] at distinct
    show ((c.insert b).insertAll rest).find? (key a) = _
    rcases List.mem_cons.1 member with same | later
    · rw [same, find?_insertAll_of_not_mem _ distinct.1, find?_insert, if_pos rfl]
    · exact ih (c.insert b) distinct.2 later

theorem mem_of_mem_insertAll {entries : List α} {c : Catalog α} {a : α}
    (member : a ∈ (c.insertAll entries).entries) : a ∈ entries ∨ a ∈ c.entries := by
  induction entries generalizing c with
  | nil => exact .inr member
  | cons b rest ih =>
    rcases ih member with later | inserted
    · exact .inl (List.mem_cons_of_mem b later)
    · rcases mem_insert.1 inserted with same | ⟨old, _⟩
      · exact .inl (same ▸ List.mem_cons_self ..)
      · exact .inr old

theorem mem_of_mem_ofList {entries : List α} {a : α} (member : a ∈ (ofList entries).entries) :
    a ∈ entries := by
  rcases mem_of_mem_insertAll member with listed | absurdly
  · exact listed
  · cases absurdly

theorem keys_insertAll_of_mem {entries : List α} {c : Catalog α}
    (present : ∀ a ∈ entries, key a ∈ c.keys) : (c.insertAll entries).keys = c.keys := by
  induction entries generalizing c with
  | nil => rfl
  | cons a rest ih =>
    have first : (c.insert a).keys = c.keys := by
      rw [keys, entries_insert_of_mem (present a (List.mem_cons_self ..)), map_key_replaceIn, keys]
    show ((c.insert a).insertAll rest).keys = _
    rw [ih fun b member => first ▸ present b (List.mem_cons_of_mem a member), first]

theorem contains_iff {c : Catalog α} {name : String} : c.contains name = true ↔ name ∈ c.keys :=
  find?_isSome_iff c name

end Catalog

end EntityScaffold
