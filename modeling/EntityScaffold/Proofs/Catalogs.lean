import EntityScaffold.Catalog
import EntityScaffold.Proofs.Lists
import Mathlib.Data.List.Nodup

/-!
Catalogs that answer alike. Two catalogs in which every name finds the same are reorderings of one
another; if their names stand in the same order too, they are one catalog.
-/
namespace EntityScaffold.Catalog
open Keyed

variable {α : Type} [Keyed α] {c d : Catalog α}

theorem mem_of_find?_eq (same : ∀ name, c.find? name = d.find? name) {a : α}
    (member : a ∈ c.entries) : a ∈ d.entries := by
  have found := find?_of_mem member
  rw [same] at found
  exact mem_of_find? found

theorem nodup_entries (c : Catalog α) : c.entries.Nodup := List.Nodup.of_map key c.nodup

theorem perm_iff_find? :
    c.entries.Perm d.entries ↔ ∀ name, c.find? name = d.find? name := by
  constructor
  · intro perm name
    refine Option.ext fun a => ?_
    rw [find?_eq_some_iff, find?_eq_some_iff, perm.mem_iff]
  · intro same
    refine (List.perm_ext_iff_of_nodup c.nodup_entries d.nodup_entries).2 fun a => ?_
    exact ⟨mem_of_find?_eq same, mem_of_find?_eq fun name => (same name).symm⟩

theorem eq_of_find? (keys : c.keys = d.keys) (same : ∀ name, c.find? name = d.find? name) :
    c = d := by
  have related : List.Forall₂ Eq c.entries d.entries := by
    refine related_of_keys keys fun a inC b inD equal => ?_
    have found := find?_of_mem inC
    rw [same, equal, find?_of_mem inD] at found
    exact (Option.some.inj found).symm
  exact ext (List.forall₂_eq_eq_eq ▸ related)

theorem key_find? (c : Catalog α) (name : String) :
    (c.find? name).map key = if name ∈ c.keys then some name else none := by
  cases found : c.find? name with
  | none => rw [if_neg ((find?_eq_none_iff c name).1 found), Option.map_none]
  | some a =>
    have known : name ∈ c.keys := (find?_isSome_iff c name).1 (by rw [found]; rfl)
    rw [if_pos known, Option.map_some, key_of_find? found]

theorem key_find?_congr (same : c.keys = d.keys) (name : String) :
    (c.find? name).map key = (d.find? name).map key := by
  rw [key_find?, key_find?, same]

theorem forall_ofList {P : α → Prop} {entries : List α} (each : ∀ a ∈ entries, P a) :
    ∀ a ∈ (ofList entries).entries, P a := fun a member => each a (mem_of_mem_ofList member)

theorem mapEntries_eq_self {f : α → α} {keeps : ∀ a, key (f a) = key a}
    (still : ∀ a ∈ c.entries, f a = a) : c.mapEntries f keeps = c := by
  refine ext ?_
  rw [entries_mapEntries, List.map_congr_left still, List.map_id']

theorem insert_of_mem {a : α} (member : a ∈ c.entries) : c.insert a = c := by
  refine ext ?_
  rw [entries_insert_of_mem (List.mem_map.2 ⟨a, member, rfl⟩), replaceIn]
  refine (List.map_congr_left fun b other => ?_).trans (List.map_id' _)
  split
  · rename_i same
    exact (eq_of_key_eq other member same).symm
  · rfl

theorem insertAll_of_mem {entries : List α} (present : ∀ a ∈ entries, a ∈ c.entries) :
    c.insertAll entries = c := by
  induction entries with
  | nil => rfl
  | cons a rest ih =>
    show (c.insert a).insertAll rest = c
    rw [insert_of_mem (present a (by simp))]
    exact ih fun b later => present b (List.mem_cons_of_mem a later)

theorem find?_insertAll_congr {entries : List α} (same : ∀ name, c.find? name = d.find? name)
    (name : String) : (c.insertAll entries).find? name = (d.insertAll entries).find? name := by
  induction entries generalizing c d with
  | nil => exact same name
  | cons a rest ih =>
    refine ih fun other => ?_
    rw [find?_insert, find?_insert, same]

theorem mem_keys_insert {a : α} {name : String} :
    name ∈ (c.insert a).keys ↔ name = key a ∨ name ∈ c.keys := by
  rw [← find?_isSome_iff, ← find?_isSome_iff, find?_insert]
  split
  · rename_i same
    simp [same]
  · rename_i other
    simp [Ne.symm other]

theorem mem_keys_filter_key (p : String → Bool) {name : String} :
    name ∈ (c.filter fun a => p (key a)).keys ↔ name ∈ c.keys ∧ p name = true := by
  simp only [keys, filter, List.mem_map, List.mem_filter]
  constructor
  · rintro ⟨a, ⟨member, kept⟩, rfl⟩
    exact ⟨⟨a, member, rfl⟩, kept⟩
  · rintro ⟨⟨a, member, rfl⟩, kept⟩
    exact ⟨a, ⟨member, kept⟩, rfl⟩

theorem insertAll_perm {entries others : List α} (perm : entries.Perm others)
    (distinct : (entries.map key).Nodup) (present : ∀ a ∈ entries, key a ∈ c.keys) :
    c.insertAll entries = c.insertAll others := by
  have distinctToo : (others.map key).Nodup := (perm.map key).nodup_iff.1 distinct
  refine eq_of_find? ?_ fun name => ?_
  · rw [keys_insertAll_of_mem present,
      keys_insertAll_of_mem fun a member => present a (perm.mem_iff.2 member)]
  · by_cases listed : name ∈ entries.map key
    · obtain ⟨a, member, rfl⟩ := List.mem_map.1 listed
      rw [find?_insertAll_of_mem c distinct member,
        find?_insertAll_of_mem c distinctToo (perm.mem_iff.1 member)]
    · have unlisted : name ∉ others.map key := fun other => listed ((perm.map key).mem_iff.2 other)
      rw [find?_insertAll_of_not_mem c listed, find?_insertAll_of_not_mem c unlisted]

theorem modify_comm {first second : String} (apart : first ≠ second) (f g : α → α)
    (keepsFirst : ∀ a, key (f a) = key a) (keepsSecond : ∀ a, key (g a) = key a) :
    (c.modify first f keepsFirst).modify second g keepsSecond =
      (c.modify second g keepsSecond).modify first f keepsFirst := by
  refine ext ?_
  simp only [modify, entries_mapEntries, List.map_map]
  refine List.map_congr_left fun a _ => ?_
  by_cases own : key a = first
  · have other : key a ≠ second := fun same => apart (own.symm.trans same)
    simp [own, apart, keepsFirst]
  · by_cases other : key a = second
    · simp [other, apart.symm, keepsSecond]
    · simp [own, other]

end EntityScaffold.Catalog
