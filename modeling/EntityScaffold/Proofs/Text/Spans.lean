import EntityScaffold.Text.Span

/-!
Tables of spans that have no code point in common. The code points of a table are kept as the bits
of two numbers, the even ones in one and the odd ones in the other, so that a span of every code
point and a span of every second one are both a run of bits, and tables are compared at once.
-/
namespace EntityScaffold.Text

def Span.alternates (s : Span) : Bool := Nat.beq (s.step % 2) 0 || Nat.beq s.first s.last

/-- The halves of the code points of one parity, from the first on up to the second. -/
def Span.halves (s : Span) (parity : Nat) : Nat × Nat :=
  if s.alternates && !Nat.beq (s.first % 2) parity then (0, 0)
  else ((s.first + 1 - parity) / 2, (s.last + 2 - parity) / 2)

def bitRun (run : Nat × Nat) : Nat := ((1 <<< (run.2 - run.1)) - 1) <<< run.1

def bitsOf (parity : Nat) (table : List Span) : Nat :=
  table.foldr (fun s bits => bitRun (s.halves parity) ||| bits) 0

def Apart (a b : List Span) : Prop :=
  bitsOf 0 a &&& bitsOf 0 b = 0 ∧ bitsOf 1 a &&& bitsOf 1 b = 0

instance (a b : List Span) : Decidable (Apart a b) := inferInstanceAs (Decidable (_ ∧ _))

/-- Tables of which the second has every code point of the first; its spans skip none. -/
def Within (a b : List Span) : Prop :=
  (∀ s ∈ b, s.step = 1) ∧ bitsOf 0 a &&& bitsOf 0 b = bitsOf 0 a ∧
    bitsOf 1 a &&& bitsOf 1 b = bitsOf 1 a

instance (a b : List Span) : Decidable (Within a b) := inferInstanceAs (Decidable (_ ∧ _))

def Shift.image (s : Shift) : Span :=
  ⟨s.target, s.target + (s.span.last - s.span.first), s.span.step⟩

def Span.valid (s : Span) : Bool :=
  Nat.blt s.last 0xD800 || (Nat.blt 0xDFFF s.first && Nat.blt s.last 0x110000)

section spans

variable {s : Span} {table a b : List Span} {c : Char} {n m : Nat}

theorem parity_of_alternates (alternates : s.alternates) (held : s.contains n) :
    n % 2 = s.first % 2 := by
  obtain ⟨low, high, even⟩ := (s.contains_iff n).1 held
  rw [Span.alternates, Bool.or_eq_true, Nat.beq_eq, Nat.beq_eq] at alternates
  rcases alternates with step | single
  · have half : (n - s.first) % 2 = 0 := by
      rw [← Nat.mod_mod_of_dvd (n - s.first) (Nat.dvd_of_mod_eq_zero step), even]
    omega
  · omega

theorem halves_of_contains (held : s.contains n) :
    (s.halves (n % 2)).1 ≤ n / 2 ∧ n / 2 < (s.halves (n % 2)).2 := by
  obtain ⟨low, high, _⟩ := (s.contains_iff n).1 held
  have kept : (s.alternates && !Nat.beq (s.first % 2) (n % 2)) = false := by
    cases alternates : s.alternates with
    | false => rfl
    | true => simp [parity_of_alternates alternates held]
  rw [Span.halves, kept, if_neg Bool.false_ne_true]
  constructor
  · omega
  · omega

theorem testBit_bitRun {run : Nat × Nat} (low : run.1 ≤ n) (high : n < run.2) :
    (bitRun run).testBit n = true := by
  rw [bitRun, Nat.one_shiftLeft, Nat.testBit_shiftLeft, Nat.testBit_two_pow_sub_one,
    Bool.and_eq_true, decide_eq_true_eq, decide_eq_true_eq]
  omega

theorem testBit_bitsOf (member : s ∈ table) (held : s.contains n) :
    (bitsOf (n % 2) table).testBit (n / 2) = true := by
  induction table with
  | nil => cases member
  | cons t table ih =>
    rw [bitsOf, List.foldr_cons, Nat.testBit_or, Bool.or_eq_true]
    rcases List.mem_cons.1 member with same | later
    · left
      obtain ⟨low, high⟩ := halves_of_contains held
      exact same ▸ testBit_bitRun low high
    · right
      exact ih later

theorem outside_of_apart (apart : Apart a b) (held : inSpans a c = true) : inSpans b c = false := by
  rw [Bool.eq_false_iff]
  intro other
  obtain ⟨s, inA, own⟩ := (inSpans_iff ..).1 held
  obtain ⟨t, inB, its⟩ := (inSpans_iff ..).1 other
  have common :
      (bitsOf (c.toNat % 2) a &&& bitsOf (c.toNat % 2) b).testBit (c.toNat / 2) = true := by
    rw [Nat.testBit_and, testBit_bitsOf inA own, testBit_bitsOf inB its]
    rfl
  have none : bitsOf (c.toNat % 2) a &&& bitsOf (c.toNat % 2) b = 0 := by
    rcases Nat.mod_two_eq_zero_or_one c.toNat with even | odd
    · rw [even]
      exact apart.1
    · rw [odd]
      exact apart.2
  rw [none, Nat.zero_testBit] at common
  cases common

theorem bounds_of_testBit {run : Nat × Nat} (bit : (bitRun run).testBit n = true) :
    run.1 ≤ n ∧ n < run.2 := by
  rw [bitRun, Nat.one_shiftLeft, Nat.testBit_shiftLeft, Nat.testBit_two_pow_sub_one,
    Bool.and_eq_true, decide_eq_true_eq, decide_eq_true_eq] at bit
  omega

theorem contains_of_halves (step : s.step = 1) (low : (s.halves (n % 2)).1 ≤ n / 2)
    (high : n / 2 < (s.halves (n % 2)).2) : s.contains n = true := by
  have ends : s.first ≤ n ∧ n ≤ s.last := by
    rw [Span.halves] at low high
    split at low
    · rename_i other
      rw [if_pos other] at high
      omega
    · rename_i kept
      rw [if_neg kept] at high
      omega
  rw [Span.contains_iff, step, Nat.mod_one]
  exact ⟨ends.1, ends.2, rfl⟩

theorem contains_of_testBit (steps : ∀ s ∈ table, s.step = 1)
    (bit : (bitsOf (n % 2) table).testBit (n / 2) = true) : ∃ s ∈ table, s.contains n = true := by
  induction table with
  | nil => simp [bitsOf] at bit
  | cons s table ih =>
    obtain ⟨step, others⟩ := List.forall_mem_cons.1 steps
    rw [bitsOf, List.foldr_cons, Nat.testBit_or, Bool.or_eq_true] at bit
    rcases bit with own | later
    · obtain ⟨low, high⟩ := bounds_of_testBit own
      exact ⟨s, by simp, contains_of_halves step low high⟩
    · obtain ⟨t, member, held⟩ := ih others later
      exact ⟨t, List.mem_cons_of_mem s member, held⟩

theorem inside_of_within (within : Within a b) (held : inSpans a c = true) :
    inSpans b c = true := by
  obtain ⟨s, inA, own⟩ := (inSpans_iff ..).1 held
  obtain ⟨steps, evens, odds⟩ := within
  have both : bitsOf (c.toNat % 2) a &&& bitsOf (c.toNat % 2) b = bitsOf (c.toNat % 2) a := by
    rcases Nat.mod_two_eq_zero_or_one c.toNat with even | odd
    · rw [even]
      exact evens
    · rw [odd]
      exact odds
  have bit := testBit_bitsOf inA own
  rw [← both, Nat.testBit_and, Bool.and_eq_true] at bit
  exact (inSpans_iff ..).2 (contains_of_testBit steps bit.2)

theorem image_contains {s : Shift} (held : s.span.contains n) :
    s.image.contains (s.target + (n - s.span.first)) := by
  obtain ⟨low, high, even⟩ := (s.span.contains_iff n).1 held
  rw [Span.contains_iff, Shift.image]
  constructor
  · exact Nat.le_add_right ..
  constructor
  · exact Nat.add_le_add_left (Nat.sub_le_sub_right high _) _
  · rw [Nat.add_sub_cancel_left]
    exact even

theorem toNat_of_valid (valid : s.valid) (held : s.contains n) : (Char.ofNat n).toNat = n := by
  obtain ⟨low, high, _⟩ := (s.contains_iff n).1 held
  have isChar : n.isValidChar := by
    simp only [Span.valid, Bool.or_eq_true, Bool.and_eq_true, Nat.blt_eq] at valid
    rcases valid with below | ⟨above, bounded⟩
    · exact .inl (Nat.lt_of_le_of_lt high below)
    · exact .inr ⟨Nat.lt_of_lt_of_le above low, Nat.lt_of_le_of_lt high bounded⟩
  rw [Char.ofNat, dif_pos isChar]
  rfl

theorem image_of_shifted {shifts : List Shift} (valid : ∀ s ∈ shifts, s.image.valid)
    (found : shifted? shifts n = some m) :
    inSpans (shifts.map Shift.image) (Char.ofNat m) = true := by
  obtain ⟨s, first, rfl⟩ := Option.map_eq_some_iff.1 found
  have member := List.mem_of_find?_eq_some first
  have held : s.span.contains n :=
    @List.find?_some _ (fun s : Shift => s.span.contains n) _ _ first
  have image := image_contains held
  rw [← toNat_of_valid (valid s member) image] at image
  exact (inSpans_iff ..).2 ⟨s.image, List.mem_map_of_mem member, image⟩

theorem unshifted {shifts : List Shift} (outside : inSpans (shifts.map (·.span)) c = false) :
    shifted? shifts c.toNat = none := by
  have none : shifts.find? (·.span.contains c.toNat) = none := by
    apply List.find?_eq_none.2
    intro s member held
    have inside : inSpans (shifts.map (·.span)) c = true :=
      (inSpans_iff ..).2 ⟨s.span, List.mem_map_of_mem member, held⟩
    rw [outside] at inside
    cases inside
  rw [shifted?, none]
  rfl

end spans

end EntityScaffold.Text
