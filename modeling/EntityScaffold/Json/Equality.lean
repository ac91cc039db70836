import EntityScaffold.Json.Value

/-!
Equality of values. Two values are equal when they have the same form and the same parts in the
same order; `same` decides it.
-/
namespace EntityScaffold.Json

mutual

def same : Json → Json → Bool
  | .null, .null => true
  | .bool a, .bool b => a == b
  | .int a, .int b => a == b
  | .decimal a, .decimal b => a == b
  | .str a, .str b => a == b
  | .arr as, .arr bs => sameItems as bs
  | .obj as, .obj bs => sameFields as bs
  | _, _ => false

def sameItems : List Json → List Json → Bool
  | [], [] => true
  | a :: as, b :: bs => same a b && sameItems as bs
  | _, _ => false

def sameFields : List (String × Json) → List (String × Json) → Bool
  | [], [] => true
  | (m, a) :: as, (n, b) :: bs => m == n && same a b && sameFields as bs
  | _, _ => false

end

mutual

theorem eq_of_same : ∀ {a b : Json}, same a b = true → a = b
  | .null, b, h => by cases b <;> simp_all [same]
  | .bool _, b, h => by cases b <;> simp_all [same]
  | .int _, b, h => by cases b <;> simp_all [same]
  | .decimal _, b, h => by cases b <;> simp_all [same]
  | .str _, b, h => by cases b <;> simp_all [same]
  | .arr as, b, h => by
    cases b with
    | arr bs => rw [same] at h; rw [eq_of_sameItems h]
    | _ => simp [same] at h
  | .obj as, b, h => by
    cases b with
    | obj bs => rw [same] at h; rw [eq_of_sameFields h]
    | _ => simp [same] at h

theorem eq_of_sameItems : ∀ {a b : List Json}, sameItems a b = true → a = b
  | [], b, h => by cases b <;> simp_all [sameItems]
  | x :: xs, b, h => by
    cases b with
    | nil => simp [sameItems] at h
    | cons y ys =>
      simp only [sameItems, Bool.and_eq_true] at h
      rw [eq_of_same h.1, eq_of_sameItems h.2]

theorem eq_of_sameFields : ∀ {a b : List (String × Json)}, sameFields a b = true → a = b
  | [], b, h => by cases b <;> simp_all [sameFields]
  | (m, x) :: xs, b, h => by
    cases b with
    | nil => simp [sameFields] at h
    | cons y ys =>
      simp only [sameFields, Bool.and_eq_true, beq_iff_eq] at h
      rw [show m = y.1 from h.1.1, eq_of_same h.1.2, eq_of_sameFields h.2]

end

mutual

theorem same_self : ∀ a : Json, same a a = true
  | .null => rfl
  | .bool _ => by simp [same]
  | .int _ => by simp [same]
  | .decimal _ => by simp [same]
  | .str _ => by simp [same]
  | .arr as => by rw [same]; exact sameItems_self as
  | .obj as => by rw [same]; exact sameFields_self as

theorem sameItems_self : ∀ a : List Json, sameItems a a = true
  | [] => rfl
  | x :: xs => by simp [sameItems, same_self x, sameItems_self xs]

theorem sameFields_self : ∀ a : List (String × Json), sameFields a a = true
  | [] => rfl
  | (m, x) :: xs => by simp [sameFields, same_self x, sameFields_self xs]

end

instance : DecidableEq Json := fun a b =>
  if h : same a b then .isTrue (eq_of_same h) else .isFalse fun e => h (e ▸ same_self a)

end EntityScaffold.Json
