/-!
Lists in order. Members are put in place one at a time, from the last to the first, so of two that
each come before the other the earlier one stays first.
-/
namespace EntityScaffold

variable {α : Type}

def insertBy (before : α → α → Bool) (a : α) : List α → List α
  | [] => [a]
  | b :: rest => if before a b then a :: b :: rest else b :: insertBy before a rest

def sortBy (before : α → α → Bool) (as : List α) : List α := as.foldr (insertBy before) []

def sortTexts (texts : List String) : List String := sortBy (fun a b => decide (a ≤ b)) texts

theorem insertBy_perm (before : α → α → Bool) (a : α) (as : List α) :
    (insertBy before a as).Perm (a :: as) := by
  induction as with
  | nil => exact .refl _
  | cons b rest ih =>
    by_cases first : before a b
    · simp [insertBy, first]
    · simp only [insertBy, first, Bool.false_eq_true, ↓reduceIte]
      exact (ih.cons b).trans (.swap a b rest)

theorem sortBy_perm (before : α → α → Bool) (as : List α) : (sortBy before as).Perm as := by
  induction as with
  | nil => exact .refl _
  | cons a rest ih => exact (insertBy_perm before a _).trans (ih.cons a)

@[simp] theorem mem_sortBy {before : α → α → Bool} {as : List α} {a : α} :
    a ∈ sortBy before as ↔ a ∈ as := (sortBy_perm before as).mem_iff

theorem insertBy_ordered {before : α → α → Bool} {a : α} {as : List α}
    (total : ∀ a b, before a b = false → before b a)
    (trans : ∀ a b c, before a b → before b c → before a c)
    (ordered : as.Pairwise (before · ·)) : (insertBy before a as).Pairwise (before · ·) := by
  induction as with
  | nil => simp [insertBy]
  | cons b rest ih =>
    have tail := List.pairwise_cons.1 ordered
    by_cases first : before a b
    · simp only [insertBy, first, ↓reduceIte]
      refine List.pairwise_cons.2 ⟨?_, ordered⟩
      intro c member
      rcases List.mem_cons.1 member with same | later
      · rw [same]; exact first
      · exact trans a b c first (tail.1 c later)
    · simp only [insertBy, first, Bool.false_eq_true, ↓reduceIte]
      refine List.pairwise_cons.2 ⟨?_, ih tail.2⟩
      intro c member
      rcases List.mem_cons.1 ((insertBy_perm before a rest).mem_iff.1 member) with same | later
      · rw [same]; exact total a b (by simpa using first)
      · exact tail.1 c later

theorem sortBy_ordered {before : α → α → Bool} (as : List α)
    (total : ∀ a b, before a b = false → before b a)
    (trans : ∀ a b c, before a b → before b c → before a c) :
    (sortBy before as).Pairwise (before · ·) := by
  induction as with
  | nil => exact .nil
  | cons a rest ih => exact insertBy_ordered total trans ih

theorem sortTexts_ordered (texts : List String) : (sortTexts texts).Pairwise (· ≤ ·) := by
  have ordered := @sortBy_ordered String (fun a b => decide (a ≤ b)) texts
    (fun a b later => by
      simp only [decide_eq_false_iff_not, decide_eq_true_eq] at later ⊢
      exact (String.le_total a b).resolve_left later)
    (fun a b c first second => by
      simp only [decide_eq_true_eq] at first second ⊢
      exact String.le_trans first second)
  exact ordered.imp fun h => by simpa using h

end EntityScaffold
