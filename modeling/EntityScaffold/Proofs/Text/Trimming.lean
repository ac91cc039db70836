import EntityScaffold.Text.Blank
import Mathlib.Data.List.DropRight

/-!
Trimmed texts. What is trimmed neither begins nor ends with a blank, and only such a text stays as
it is when it is trimmed.
-/
namespace EntityScaffold.Text

variable {cs : List Char}

theorem trimRight_eq_nil_iff : trimRight cs = [] ↔ allBlank cs = true := by
  rw [allBlank, List.all_eq_true]
  exact List.rdropWhile_eq_nil_iff

theorem trimRight_isPrefix (cs : List Char) : trimRight cs <+: cs :=
  List.rdropWhile_prefix isBlank cs

theorem trimRight_trimRight (cs : List Char) : trimRight (trimRight cs) = trimRight cs :=
  List.rdropWhile_idempotent isBlank cs

theorem allBlank_eq_isEmpty (trimmed : trimRight cs = cs) : allBlank cs = cs.isEmpty := by
  rw [Bool.eq_iff_iff, ← trimRight_eq_nil_iff, trimmed, List.isEmpty_iff]

theorem last_of_trimmed (trimmed : trimRight cs = cs) :
    ∀ c ∈ cs.getLast?, isBlank c = false := by
  intro c last
  obtain ⟨init, rfl⟩ := List.getLast?_eq_some_iff.1 last
  have kept := List.rdropWhile_eq_self_iff.1 trimmed (by simp)
  simpa using kept

theorem trimLeft_trimRight (front : trimLeft cs = cs) :
    trimLeft (trimRight cs) = trimRight cs := by
  apply List.dropWhile_eq_self_iff.2
  intro filled
  have start := trimRight_isPrefix cs
  have longer : 0 < cs.length := Nat.lt_of_lt_of_le filled start.length_le
  rw [start.getElem filled]
  exact List.dropWhile_eq_self_iff.1 front longer

theorem trim_trim (cs : List Char) : trim (trim cs) = trim cs := by
  have front : trimLeft (trimLeft cs) = trimLeft cs := List.dropWhile_idempotent isBlank cs
  rw [trim, trim, trimLeft_trimRight front, trimRight_trimRight]

theorem length_trim_le (cs : List Char) : (trim cs).length ≤ cs.length := by
  have back := (trimRight_isPrefix (trimLeft cs)).length_le
  have front : (trimLeft cs).length ≤ cs.length := (List.dropWhile_suffix isBlank).length_le
  unfold trim
  omega

theorem trim_between {c d : Char} (first : isBlank c = false) (last : isBlank d = false)
    (cs : List Char) : trim (c :: cs ++ [d]) = c :: cs ++ [d] := by
  rw [trim, List.cons_append, trimLeft_eq_self_of_head first]
  apply List.rdropWhile_eq_self_iff.2
  intro filled
  simpa using last

end EntityScaffold.Text
