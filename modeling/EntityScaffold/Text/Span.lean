/-!
Sets of characters and character mappings given as tables of spans of code points. A table is a
list read in order; a code point outside every span is in no set and is mapped nowhere.
-/
namespace EntityScaffold.Text

/-- The code points `first`, `first + step`, and so on up to `last`. -/
structure Span where
  first : Nat
  last : Nat
  step : Nat

def Span.contains (s : Span) (n : Nat) : Bool :=
  decide (s.first ≤ n) && decide (n ≤ s.last) && (n - s.first) % s.step == 0

def inSpans (table : List Span) (c : Char) : Bool :=
  table.any (·.contains c.toNat)

/-- A span moved as a whole, so that `span.first` goes to `target`. -/
structure Shift where
  span : Span
  target : Nat

def shifted? (table : List Shift) (n : Nat) : Option Nat :=
  (table.find? (·.span.contains n)).map fun s => s.target + (n - s.span.first)

theorem Span.contains_iff (s : Span) (n : Nat) :
    s.contains n = true ↔ s.first ≤ n ∧ n ≤ s.last ∧ (n - s.first) % s.step = 0 := by
  simp [Span.contains, and_assoc]

theorem inSpans_iff (table : List Span) (c : Char) :
    inSpans table c = true ↔ ∃ s ∈ table, s.contains c.toNat = true := by
  simp [inSpans]

end EntityScaffold.Text
