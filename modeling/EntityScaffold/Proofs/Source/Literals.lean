import EntityScaffold.Source.Literal

/-!
Reading string literals. A literal runs from its opening mark to the next mark that is not escaped;
a backslash makes the character behind it stand for itself. What is written as a literal reads back,
whatever follows it. What stands between two marks as it is reads back only where it has neither a
mark nor a backslash in it.
-/
namespace EntityScaffold.Source

/-- The value of a literal from behind its opening mark, and what follows the closing one. A
character behind a backslash is `escaped`. -/
def scanLiteral (escaped : Bool) : List Char → Option (List Char × List Char)
  | [] => none
  | c :: rest =>
    if escaped then (scanLiteral false rest).map fun read => (c :: read.1, read.2)
    else if c = literalMark then some ([], rest)
    else if c = '\\' then scanLiteral true rest
    else (scanLiteral false rest).map fun read => (c :: read.1, read.2)

def readLiteral : List Char → Option (List Char × List Char)
  | [] => none
  | c :: rest => if c = literalMark then scanLiteral false rest else none

def enclosed (cs : List Char) : List Char := literalMark :: cs ++ [literalMark]

section scan

variable {c : Char}

theorem scanLiteral_mark (rest : List Char) :
    scanLiteral false (literalMark :: rest) = some ([], rest) := rfl

theorem scanLiteral_escaped (c : Char) (rest : List Char) :
    scanLiteral false ('\\' :: c :: rest) =
      (scanLiteral false rest).map fun read => (c :: read.1, read.2) := rfl

theorem scanLiteral_plain (unmarked : c ≠ literalMark) (unescaped : c ≠ '\\')
    (rest : List Char) :
    scanLiteral false (c :: rest) =
      (scanLiteral false rest).map fun read => (c :: read.1, read.2) := by
  rw [scanLiteral, if_neg Bool.false_ne_true, if_neg unmarked, if_neg unescaped]

theorem scanLiteral_literalChar (c : Char) (rest : List Char) :
    scanLiteral false (literalChar c ++ rest) =
      (scanLiteral false rest).map fun read => (c :: read.1, read.2) := by
  unfold literalChar
  split
  · exact scanLiteral_escaped c rest
  · rename_i other
    obtain ⟨unescaped, unmarked⟩ := not_or.1 other
    exact scanLiteral_plain unmarked unescaped rest

end scan

/-- What is written as a literal reads back, and what follows it is left. -/
theorem readLiteral_literalChars (cs rest : List Char) :
    readLiteral (literalChars cs ++ rest) = some (cs, rest) := by
  have scanned :
      scanLiteral false (cs.flatMap literalChar ++ literalMark :: rest) = some (cs, rest) := by
    induction cs with
    | nil => exact scanLiteral_mark rest
    | cons c cs ih =>
      rw [List.flatMap_cons, List.append_assoc, scanLiteral_literalChar, ih]
      rfl
  simpa [readLiteral, literalChars] using scanned

section enclosed

variable {cs value rest after : List Char}

theorem readLiteral_enclosed (cs rest : List Char) :
    readLiteral (enclosed cs ++ rest) = scanLiteral false (cs ++ literalMark :: rest) := by
  simp [readLiteral, enclosed]

theorem literalChars_of_plain (unmarked : literalMark ∉ cs) (unescaped : '\\' ∉ cs) :
    literalChars cs = enclosed cs := by
  have each : cs.flatMap literalChar = cs := by
    induction cs with
    | nil => rfl
    | cons c cs ih =>
      have plain : ¬(c = '\\' ∨ c = literalMark) := by
        rintro (rfl | rfl)
        · exact unescaped (List.mem_cons_self ..)
        · exact unmarked (List.mem_cons_self ..)
      rw [List.flatMap_cons, literalChar, if_neg plain,
        ih (List.not_mem_of_not_mem_cons unmarked) (List.not_mem_of_not_mem_cons unescaped)]
      rfl
  rw [literalChars, each]
  rfl

variable {p : Char → Bool}

theorem filter_ne_replicate {c : Char} (shown : p c = true) (other : c ≠ '\\') (cs ds : List Char)
    {n : Nat} (lost : 0 < n) : (c :: cs).filter p ≠ List.replicate n '\\' ++ ds := by
  obtain ⟨n, rfl⟩ := Nat.exists_eq_add_of_lt lost
  rw [List.filter_cons_of_pos shown, Nat.zero_add, List.replicate_succ, List.cons_append]
  exact fun same => other (List.cons.inj same).1

theorem filter_cons_ne_of_lost {c : Char} {n : Nat} (lost : 0 < n)
    (later : value.filter p ≠ List.replicate n '\\' ++ cs.filter p) :
    (c :: value).filter p ≠ List.replicate n '\\' ++ (c :: cs).filter p := by
  by_cases shown : p c = true
  · by_cases escapes : c = '\\'
    · subst escapes
      have moved : List.replicate n '\\' ++ '\\' :: cs.filter p =
          '\\' :: (List.replicate n '\\' ++ cs.filter p) := by
        rw [← List.cons_append, ← List.replicate_succ, List.replicate_succ', List.append_assoc]
        rfl
      rw [List.filter_cons_of_pos shown, List.filter_cons_of_pos shown, moved]
      exact fun same => later (List.cons.inj same).2
    · exact filter_ne_replicate shown escapes _ _ lost
  · rwa [List.filter_cons_of_neg shown, List.filter_cons_of_neg shown]

theorem filter_ne_of_lost (mark : p literalMark = true) (escape : p '\\' = true) {escaped : Bool}
    {n : Nat} (lost : 0 < n)
    (read : scanLiteral escaped (cs ++ literalMark :: rest) = some (value, after)) :
    value.filter p ≠ List.replicate n '\\' ++ cs.filter p := by
  induction cs generalizing escaped n value with
  | nil =>
    cases escaped with
    | true =>
      obtain ⟨read, _, same⟩ := Option.map_eq_some_iff.1 read
      cases same
      exact filter_ne_replicate mark (by decide) _ _ lost
    | false =>
      cases read
      simp [Nat.ne_of_gt lost]
  | cons c cs ih =>
    cases escaped with
    | true =>
      obtain ⟨later, found, same⟩ := Option.map_eq_some_iff.1 read
      cases same
      exact filter_cons_ne_of_lost lost (ih lost found)
    | false =>
      by_cases opens : c = literalMark
      · subst opens
        cases read
        simp [Nat.ne_of_gt lost]
      by_cases escapes : c = '\\'
      · subst escapes
        have opened : scanLiteral true (cs ++ literalMark :: rest) = some (value, after) := read
        have more := ih (Nat.succ_pos n) opened
        rw [List.replicate_succ', List.append_assoc] at more
        rwa [List.filter_cons_of_pos escape]
      · rw [List.cons_append, scanLiteral_plain opens escapes] at read
        obtain ⟨later, found, same⟩ := Option.map_eq_some_iff.1 read
        cases same
        exact filter_cons_ne_of_lost lost (ih lost found)

/-- What has a mark or a backslash in it does not read back, not even as a text that differs from
it in characters of no account. -/
theorem plain_of_read (mark : p literalMark = true) (escape : p '\\' = true)
    (read : scanLiteral false (cs ++ literalMark :: rest) = some (value, after))
    (same : value.filter p = cs.filter p) : literalMark ∉ cs ∧ '\\' ∉ cs := by
  induction cs generalizing value with
  | nil => simp
  | cons c cs ih =>
    by_cases opens : c = literalMark
    · subst opens
      cases read
      rw [List.filter_nil, List.filter_cons_of_pos mark] at same
      cases same
    by_cases escapes : c = '\\'
    · subst escapes
      rw [List.filter_cons_of_pos escape] at same
      exact absurd same (filter_ne_of_lost mark escape Nat.one_pos read)
    · rw [List.cons_append, scanLiteral_plain opens escapes] at read
      obtain ⟨later, found, made⟩ := Option.map_eq_some_iff.1 read
      cases made
      have others : later.1.filter p = cs.filter p := by
        by_cases shown : p c = true
        · rw [List.filter_cons_of_pos shown, List.filter_cons_of_pos shown] at same
          exact (List.cons.inj same).2
        · rwa [List.filter_cons_of_neg shown, List.filter_cons_of_neg shown] at same
      obtain ⟨unmarked, unescaped⟩ := ih found others
      exact ⟨List.not_mem_cons_of_ne_of_not_mem (Ne.symm opens) unmarked,
        List.not_mem_cons_of_ne_of_not_mem (Ne.symm escapes) unescaped⟩

end enclosed

end EntityScaffold.Source
