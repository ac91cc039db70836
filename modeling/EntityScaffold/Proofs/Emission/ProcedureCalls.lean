import EntityScaffold.Emission.Procedures
import EntityScaffold.Proofs.Outcomes

/-!
Procedure calls, parameter by parameter. The method that calls a procedure is put together from what
each parameter comes to in it, in declaration order. A parameter whose value comes back is assigned
to an argument that can take it; only where it is the one such parameter, and there are no rows, is
it the answer of the method instead.
-/
namespace EntityScaffold.Emission
open Source

/-- What one parameter of an import comes to in the method that calls the procedure. -/
structure ParameterUse where
  setup : String
  placeholder : String
  sqlVariable : String
  argument : Option String
  assignment : Option String

/-- How an argument is passed in which a value can come back. -/
inductive Modifier where
  | out
  | ref
  deriving DecidableEq, Repr

def Modifier.text : Modifier → String
  | .out => "out "
  | .ref => "ref "

def Modifier.of? : Direction → Option Modifier
  | .in => none
  | .out => some .out
  | .inOut => some .ref

def modifierOf? (argument : String) : Option Modifier :=
  [Modifier.out, .ref].find? fun m => m.text.toList.isPrefixOf argument.toList

def valueOf (sqlVariable type : String) : String :=
  sqlVariable ++ ".Value is DBNull ? default : (" ++ type ++ ")" ++ sqlVariable ++ ".Value"

/-- The parameter at a place is the only one whose value comes back, and no rows do: the call
answers with it. -/
structure AnswersWith (f : FunctionImport) (i : Nat) : Prop where
  inside : i < f.parameters.length
  only : ∀ j p, f.parameters[j]? = some p → (p.direction ≠ .in ↔ j = i)
  noRows : f.returnsRows = false

structure Passes (modifier : Option Modifier) (p : Parameter) (argument : String) : Prop where
  named : ∃ head, argument = head ++ " " ++ p.name
  modified : modifierOf? argument = modifier

/-- What becomes of a parameter is what its direction asks for, and whether the call answers with
it. -/
structure Serves (answer : Prop) (p : Parameter) (u : ParameterUse) : Prop where
  sqlVariable : u.sqlVariable = p.name ++ "Param"
  setup : ("var " ++ u.sqlVariable ++ " = new SqlParameter").toList <+: u.setup.toList
  placeholder : u.placeholder =
    "@" ++ p.name ++ " = @" ++ p.name ++ if p.direction = .in then "" else " OUTPUT"
  omitted : answer → p.direction = .out → u.argument = none
  plain : answer → p.direction ≠ .out → ∃ a, u.argument = some a ∧ Passes none p a
  modified : ¬ answer → ∃ a, u.argument = some a ∧ Passes (Modifier.of? p.direction) p a
  assigned : u.assignment.isSome = true ↔ p.direction ≠ .in ∧ ¬ answer
  assignment : ∀ a, u.assignment = some a →
    ∃ type, a = p.name ++ " = " ++ valueOf u.sqlVariable type ++ ";"

/-- What is assigned is what is passed in a way that values can come back. -/
theorem Serves.assigned_iff_modified {answer : Prop} {p : Parameter} {u : ParameterUse}
    (serves : Serves answer p u) :
    u.assignment.isSome = true ↔ ∃ a m, u.argument = some a ∧ modifierOf? a = some m := by
  rw [serves.assigned]
  constructor
  · rintro ⟨comesBack, unanswered⟩
    obtain ⟨a, passed, shape⟩ := serves.modified unanswered
    cases direction : p.direction with
    | «in» => exact absurd direction comesBack
    | out => exact ⟨a, .out, passed, by rw [shape.modified, direction]; rfl⟩
    | inOut => exact ⟨a, .ref, passed, by rw [shape.modified, direction]; rfl⟩
  · rintro ⟨a, m, passed, found⟩
    by_cases answered : answer
    · by_cases direction : p.direction = .out
      · cases passed.symm.trans (serves.omitted answered direction)
      · obtain ⟨b, again, shape⟩ := serves.plain answered direction
        cases passed.symm.trans again
        cases found.symm.trans shape.modified
    · obtain ⟨b, again, shape⟩ := serves.modified answered
      cases passed.symm.trans again
      refine ⟨fun direction => ?_, answered⟩
      rw [direction] at shape
      cases found.symm.trans shape.modified

/-- The parts of the method are the parameters' parts, in their order. -/
structure Written (target : StoreTarget) (uses : List ParameterUse) (p : ProcedureMethod) :
    Prop where
  setup : p.setup = uses.map (·.setup)
  sql : p.sql = "EXEC [" ++ target.schema.display ++ "].[" ++ target.name ++ "]" ++
    if uses = [] then "" else " " ++ ", ".intercalate (uses.map (·.placeholder))
  sqlArguments : p.sqlArguments = String.join (uses.map fun u => ", " ++ u.sqlVariable)
  arguments : p.arguments = ", ".intercalate (uses.filterMap (·.argument))
  assignments : p.assignments = uses.filterMap (·.assignment)

/-- A method calls a procedure for an import. Each parameter has its place in it, and the answer is
scalar just when there is a parameter that the call answers with; it is then the value of that
parameter's variable. -/
structure Calls (target : StoreTarget) (f : FunctionImport) (uses : List ParameterUse)
    (p : ProcedureMethod) : Prop where
  written : Written target uses p
  length : uses.length = f.parameters.length
  serves : ∀ i q u, f.parameters[i]? = some q → uses[i]? = some u → Serves (AnswersWith f i) q u
  scalar : (∃ e, p.result = .scalar e) ↔ ∃ i, AnswersWith f i
  answer : ∀ i u, AnswersWith f i → uses[i]? = some u →
    p.result = .scalar (valueOf u.sqlVariable p.returnType)

section answers

variable {f : FunctionImport}

theorem comesBack_iff {p : Parameter} : (p.direction != .in) = true ↔ p.direction ≠ .in := by
  simp

theorem callKind_scalar_iff :
    callKind f = .scalar ↔ (outputsOf f).length = 1 ∧ f.returnsRows = false := by
  unfold callKind
  by_cases single : (outputsOf f).length = 1 <;> cases f.returnsRows <;> simp [single]

theorem callKind_scalar_iff_answersWith : callKind f = .scalar ↔ ∃ i, AnswersWith f i := by
  rw [callKind_scalar_iff, outputsOf, length_filter_eq_one]
  simp only [comesBack_iff]
  constructor
  · rintro ⟨⟨i, inside, only⟩, noRows⟩
    exact ⟨i, inside, only, noRows⟩
  · rintro ⟨i, inside, only, noRows⟩
    exact ⟨⟨i, inside, only⟩, noRows⟩

theorem answersWith_iff {i : Nat} {p : Parameter} (found : f.parameters[i]? = some p) :
    AnswersWith f i ↔ callKind f = .scalar ∧ p.direction ≠ .in := by
  rw [callKind_scalar_iff_answersWith]
  constructor
  · intro answers
    exact ⟨⟨i, answers⟩, (answers.only i p found).2 rfl⟩
  · rintro ⟨⟨k, answers⟩, comesBack⟩
    exact (answers.only i p found).1 comesBack ▸ answers

end answers

section parameters

theorem modifierOf_out (argument : String) : modifierOf? ("out " ++ argument) = some .out := by
  simp [modifierOf?, Modifier.text]

theorem modifierOf_ref (argument : String) : modifierOf? ("ref " ++ argument) = some .ref := by
  simp [modifierOf?, Modifier.text]

def isPlain (text : String) : Bool :=
  text.toList.head?.any fun first => first != 'o' && first != 'r'

theorem modifierOf_plain {text : String} (plain : isPlain text = true) (rest : String) :
    modifierOf? (text ++ rest) = none := by
  cases chars : text.toList with
  | nil => simp [isPlain, chars] at plain
  | cons first others =>
    simp only [isPlain, chars, List.head?_cons, Option.any_some, Bool.and_eq_true,
      bne_iff_ne] at plain
    simp [modifierOf?, Modifier.text, chars, plain.1.symm, plain.2.symm]

theorem isPlain_builtin :
    ∀ t ∈ builtinTypes.map (·.2), ∀ nullable, isPlain (t.declaration nullable) = true := by
  decide

def TypedParameter.IsBuiltin (t : TypedParameter) : Prop := t.type ∈ builtinTypes.map (·.2)

theorem isBuiltin_of_typed {f : FunctionImport} {p : Parameter} {t : TypedParameter}
    (typed : (parameterType f p).map (TypedParameter.mk p) = .ok t) :
    t.parameter = p ∧ parameterType f p = .ok t.type ∧ t.IsBuiltin := by
  obtain ⟨type, resolved, rfl⟩ := map_ok.1 typed
  refine ⟨rfl, resolved, ?_⟩
  rw [parameterType, TypeTable.resolve] at resolved
  cases known : builtinTypes.lookup (primitiveName (p.type.getD "")) with
  | none =>
    rw [known] at resolved
    cases resolved
  | some u =>
    rw [known] at resolved
    cases resolved
    obtain ⟨before, after, split, _⟩ := List.lookup_eq_some_iff.1 known
    rw [TypedParameter.IsBuiltin, split]
    simp

theorem modifierOf_argument {t : TypedParameter} (builtin : t.IsBuiltin) :
    modifierOf? t.argument = none := by
  have plain : isPlain t.declaration = true := isPlain_builtin t.type builtin _
  rw [TypedParameter.argument, String.append_assoc]
  exact modifierOf_plain plain _

def modifierText (direction : Direction) : String :=
  ((Modifier.of? direction).map Modifier.text).getD ""

theorem modifierOf_modified {t : TypedParameter} (builtin : t.IsBuiltin) (direction : Direction) :
    modifierOf? (modifierText direction ++ t.argument) = Modifier.of? direction := by
  cases direction with
  | «in» =>
    rw [show modifierText .in = "" from rfl, String.empty_append]
    exact modifierOf_argument builtin
  | out => exact modifierOf_out t.argument
  | inOut => exact modifierOf_ref t.argument

variable {kind : CallKind} {t : TypedParameter}

theorem argument_of_result (result : isResult kind t = true) :
    argument? kind t = if t.parameter.direction = .out then none else some t.argument := by
  unfold argument?
  cases direction : t.parameter.direction <;> simp [result]

theorem argument_of_passed (passed : isResult kind t = false) :
    argument? kind t = some (modifierText t.parameter.direction ++ t.argument) := by
  unfold argument?
  cases direction : t.parameter.direction <;>
    simp [passed, modifierText, Modifier.of?, Modifier.text]

theorem setupLine_declares (t : TypedParameter) :
    ("var " ++ t.sqlVariable ++ " = new SqlParameter").toList <+: (setupLine t).toList := by
  cases direction : t.parameter.direction <;>
    simp [setupLine, direction, outputSetup, List.append_assoc]

theorem placeholder_eq (t : TypedParameter) : placeholder t =
    "@" ++ t.name ++ " = @" ++ t.name ++ if t.parameter.direction = .in then "" else " OUTPUT" := by
  cases direction : t.parameter.direction <;>
    simp [placeholder, TypedParameter.comesBack, direction]

def useOf (kind : CallKind) (t : TypedParameter) : ParameterUse where
  setup := setupLine t
  placeholder := placeholder t
  sqlVariable := t.sqlVariable
  argument := argument? kind t
  assignment := assignment? kind t

theorem useOf_serves {answer : Prop} (builtin : t.IsBuiltin)
    (answers : answer ↔ kind = .scalar ∧ t.parameter.direction ≠ .in) :
    Serves answer t.parameter (useOf kind t) := by
  have comesBack : t.comesBack = true ↔ t.parameter.direction ≠ .in := comesBack_iff
  have result : isResult kind t = true ↔ answer := by
    rw [answers, ← comesBack]
    simp [isResult]
  constructor
  case sqlVariable => rfl
  case setup => exact setupLine_declares t
  case placeholder => exact placeholder_eq t
  case omitted =>
    intro answered direction
    exact (argument_of_result (result.2 answered)).trans (if_pos direction)
  case plain =>
    intro answered direction
    refine ⟨t.argument, ?_, ⟨t.declaration, rfl⟩, modifierOf_argument builtin⟩
    exact (argument_of_result (result.2 answered)).trans (if_neg direction)
  case modified =>
    intro unanswered
    have passed : isResult kind t = false :=
      Bool.eq_false_iff.2 fun held => unanswered (result.1 held)
    refine ⟨_, argument_of_passed passed, ?_, modifierOf_modified builtin _⟩
    exact ⟨modifierText t.parameter.direction ++ t.declaration, by
      simp only [TypedParameter.argument, String.append_assoc]; rfl⟩
  case assigned =>
    rw [← comesBack, ← result]
    show (assignment? kind t).isSome = true ↔ _
    unfold assignment?
    split <;> simp_all
  case assignment =>
    intro a written
    replace written : assignment? kind t = some a := written
    unfold assignment? at written
    split at written
    · cases written
      exact ⟨t.declaration, rfl⟩
    · cases written

end parameters

section methods

variable {c : Config} {m : ResolvedModel} {f : FunctionImport} {p : ProcedureMethod}

theorem procedureMethod_ok (made : (procedureMethod c m f).outcome = .ok p) :
    ∃ target row type typed, (storeTarget c m f).outcome = .ok target ∧
      (callReturn c m f (callKind f)).outcome = .ok (row, type) ∧ typedParameters f = .ok typed ∧
      Written target (typed.map (useOf (callKind f))) p ∧ p.name = f.fixedName.display ∧
      p.result = callResult (callKind f) row typed ∧ p.returnType = type := by
  simp only [procedureMethod, Noted.outcome_bind_eq_ok, Noted.outcome_pure_ok,
    Noted.outcome_liftM] at made
  obtain ⟨target, targeted, ⟨row, type⟩, returned, typed, types, rfl⟩ := made
  refine ⟨target, row, type, typed, targeted, returned, types, ?_, rfl, rfl, rfl⟩
  constructor <;>
    simp [useOf, sqlText, List.filterMap_map, Function.comp_def, List.map_map, List.isEmpty_iff]

theorem typed_related {typed : List TypedParameter} (types : typedParameters f = .ok typed) :
    List.Forall₂ (fun p t => t.parameter = p ∧ parameterType f p = .ok t.type ∧ t.IsBuiltin)
      f.parameters typed :=
  (mapM_ok.1 types).imp fun _ _ => isBuiltin_of_typed

theorem callResult_scalar_iff {kind : CallKind} {row : String} {typed : List TypedParameter} :
    (∃ e, callResult kind row typed = .scalar e) ↔ kind = .scalar := by
  cases kind <;> simp [callResult]

theorem find_result {typed : List TypedParameter} (types : typedParameters f = .ok typed) {i : Nat}
    (answers : AnswersWith f i) {t : TypedParameter} (place : typed[i]? = some t) :
    typed.find? (isResult .scalar) = some t := by
  have related := typed_related types
  have result (j : Nat) (u : TypedParameter) (found : typed[j]? = some u) :
      isResult .scalar u = true ↔ j = i := by
    have inside : j < f.parameters.length := by
      rw [related.length_eq]
      exact (List.getElem?_eq_some_iff.1 found).1
    have source := List.getElem?_eq_getElem inside
    obtain ⟨own, _⟩ := related_at related source found
    rw [← answers.only j _ source, ← own, ← comesBack_iff]
    simp [isResult, TypedParameter.comesBack]
  obtain ⟨inside, here⟩ := List.getElem?_eq_some_iff.1 place
  refine List.find?_eq_some_iff_getElem.2 ⟨(result i t place).2 rfl, i, inside, here, ?_⟩
  intro j earlier
  have other := result j _ (List.getElem?_eq_getElem (Nat.lt_trans earlier inside))
  rw [Bool.not_eq_true', ← Bool.not_eq_true]
  exact fun held => absurd (other.1 held) (Nat.ne_of_lt earlier)

theorem outputsOf_answersWith {i : Nat} (answers : AnswersWith f i) {q : Parameter}
    (place : f.parameters[i]? = some q) : outputsOf f = [q] := by
  have single := (callKind_scalar_iff.1 (callKind_scalar_iff_answersWith.2 ⟨i, answers⟩)).1
  obtain ⟨only, alone⟩ := List.length_eq_one_iff.1 single
  have listed : q ∈ outputsOf f := List.mem_filter.2
    ⟨List.mem_of_getElem? place, comesBack_iff.2 ((answers.only i q place).2 rfl)⟩
  rw [alone] at listed ⊢
  rw [List.mem_singleton.1 listed]

theorem callReturn_answersWith {i : Nat} (answers : AnswersWith f i) {q : Parameter}
    (place : f.parameters[i]? = some q) {t : TypedParameter} (own : t.parameter = q)
    (typed : parameterType f q = .ok t.type) {row type : String}
    (returned : (callReturn c m f .scalar).outcome = .ok (row, type)) : type = t.declaration := by
  simp only [callReturn, outputsOf_answersWith answers place, Noted.outcome_bind_eq_ok,
    Noted.outcome_pure_ok, Noted.outcome_liftM] at returned
  obtain ⟨found, resolved, same⟩ := returned
  cases typed.symm.trans resolved
  cases same
  rw [TypedParameter.declaration, own]

/-- A method that calls a procedure has one entry for each parameter, in declaration order; what
comes back is assigned to an argument passed for it, or else is the answer. -/
theorem procedureMethod_calls (made : (procedureMethod c m f).outcome = .ok p) :
    ∃ target uses, (storeTarget c m f).outcome = .ok target ∧ Calls target f uses p ∧
      ∀ u ∈ uses, u.assignment.isSome = true ↔
        ∃ a modifier, u.argument = some a ∧ modifierOf? a = some modifier := by
  obtain ⟨target, row, type, typed, targeted, returned, types, written, _, result, returnType⟩ :=
    procedureMethod_ok made
  have related := typed_related types
  have serves (i : Nat) (q : Parameter) (u : ParameterUse) (place : f.parameters[i]? = some q)
      (own : (typed.map (useOf (callKind f)))[i]? = some u) : Serves (AnswersWith f i) q u := by
    rw [List.getElem?_map] at own
    obtain ⟨t, found, rfl⟩ := Option.map_eq_some_iff.1 own
    obtain ⟨rfl, _, builtin⟩ := related_at related place found
    exact useOf_serves builtin (answersWith_iff place)
  refine ⟨target, _, targeted, ⟨written, ?_, serves, ?_, ?_⟩, ?_⟩
  · rw [List.length_map, related.length_eq]
  · rw [result, callResult_scalar_iff, callKind_scalar_iff_answersWith]
  · intro i u answers own
    rw [List.getElem?_map] at own
    obtain ⟨t, found, rfl⟩ := Option.map_eq_some_iff.1 own
    have inside : i < f.parameters.length := answers.inside
    have place := List.getElem?_eq_getElem inside
    obtain ⟨same, resolved, _⟩ := related_at related place found
    have scalar := callKind_scalar_iff_answersWith.2 ⟨i, answers⟩
    rw [scalar] at returned result
    rw [result, returnType, callReturn_answersWith answers place same resolved returned, callResult,
      find_result types answers found]
    rfl
  · intro u member
    obtain ⟨i, own⟩ := List.getElem?_of_mem member
    have inside : i < f.parameters.length := by
      have bound := (List.getElem?_eq_some_iff.1 own).1
      rwa [List.length_map, ← related.length_eq] at bound
    exact (serves i _ u (List.getElem?_eq_getElem inside) own).assigned_iff_modified

def rateImport : FunctionImport where
  name := "GetRate"
  fixedName := .str "GetRate"
  parameters := [⟨"Id", some "Int32", .in, some false⟩, ⟨"Rate", some "Decimal", .out, some true⟩]

theorem rate_answers : ∃ p,
    (procedureMethod (.ofSettings .defaults) ⟨{}, {}, [], []⟩ rateImport).outcome = .ok p ∧
      p.arguments = "int Id" ∧ p.sql = "EXEC [dbo].[GetRate] @Id = @Id, @Rate = @Rate OUTPUT" ∧
      ∃ target uses, target.name = "GetRate" ∧
        Calls target rateImport uses p ∧ ∀ u ∈ uses, u.assignment.isSome = true ↔
          ∃ a modifier, u.argument = some a ∧ modifierOf? a = some modifier := by
  obtain ⟨p, made, arguments, sql⟩ : ∃ p,
      (procedureMethod (.ofSettings .defaults) ⟨{}, {}, [], []⟩ rateImport).outcome = .ok p ∧
        p.arguments = "int Id" ∧
          p.sql = "EXEC [dbo].[GetRate] @Id = @Id, @Rate = @Rate OUTPUT" :=
    ok_of_any (by decide +kernel)
  obtain ⟨target, uses, targeted, calls, modified⟩ := procedureMethod_calls made
  cases targeted
  exact ⟨p, made, arguments, sql, _, uses, rfl, calls, modified⟩

end methods

end EntityScaffold.Emission
