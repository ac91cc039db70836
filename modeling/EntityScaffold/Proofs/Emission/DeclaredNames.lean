import EntityScaffold.Proofs.Emission.ProcedureCalls
import EntityScaffold.Proofs.Runs
import Mathlib.Data.List.Nodup

/-!
Names that the method of a procedure call declares. Its arguments are called like the parameters and
its locals like the parameters with a suffix; the answer of the call is kept under a name of its
own. Nothing keeps the arguments apart from the others.
-/
namespace EntityScaffold.Emission
open Source

def answerName : String := "result"

/-- The parameters that are arguments of a call: all but an answer that is not passed in. -/
def isPassed (kind : CallKind) (p : Parameter) : Bool := !(kind == .scalar && p.direction == .out)

def argumentNames (f : FunctionImport) : List String :=
  (f.parameters.filter (isPassed (callKind f))).map (·.name)

def localNames (f : FunctionImport) : List String := f.parameters.map (·.name ++ "Param")

def Binds (line name : String) : Prop := ("var " ++ name ++ " = ").toList <+: line.toList

def Types (argument name : String) : Prop := ∃ type, argument = type ++ " " ++ name

/-- What a method declares: arguments, a local on each line of setup, and that of the answer. -/
structure DeclaresNames (p : ProcedureMethod) (arguments locals : List String) : Prop where
  arguments : ∃ typed, p.arguments = ", ".intercalate typed ∧ List.Forall₂ Types typed arguments
  locals : List.Forall₂ Binds p.setup locals
  answer : ∃ first rest, p.callLines = first :: rest ∧ Binds first answerName

/-- No argument is called like the answer, or like the local of a parameter. -/
structure NamesApart (f : FunctionImport) : Prop where
  answer : answerName ∉ argumentNames f
  locals : ∀ q ∈ f.parameters, q.name ++ "Param" ∉ argumentNames f

section declarations

variable {c : Config} {m : ResolvedModel} {f : FunctionImport} {p : ProcedureMethod}

theorem setupLine_binds (t : TypedParameter) :
    Binds (setupLine t) (t.parameter.name ++ "Param") := by
  refine List.IsPrefix.trans ?_ (setupLine_declares t)
  simp [TypedParameter.sqlVariable, TypedParameter.name]

theorem callLines_bind (p : ProcedureMethod) :
    ∃ first rest, p.callLines = first :: rest ∧ Binds first answerName := by
  unfold ProcedureMethod.callLines
  split <;> refine ⟨_, _, rfl, ?_⟩ <;> simp [Binds, answerName]

theorem argument_of_isPassed {kind : CallKind} {t : TypedParameter}
    (passed : isPassed kind t.parameter = true) :
    ∃ a, argument? kind t = some a ∧ Types a t.parameter.name := by
  cases result : isResult kind t with
  | true =>
    have scalar : kind = .scalar := by
      simp only [isResult, Bool.and_eq_true, beq_iff_eq] at result
      exact result.1
    have direction : t.parameter.direction ≠ .out := by simpa [isPassed, scalar] using passed
    exact ⟨_, (argument_of_result result).trans (if_neg direction), t.declaration, rfl⟩
  | false =>
    refine ⟨_, argument_of_passed result, modifierText t.parameter.direction ++ t.declaration, ?_⟩
    simp only [TypedParameter.argument, TypedParameter.name, String.append_assoc]

theorem argument_of_not_isPassed {kind : CallKind} {t : TypedParameter}
    (passed : isPassed kind t.parameter = false) : argument? kind t = none := by
  simp only [isPassed, Bool.not_eq_false', Bool.and_eq_true, beq_iff_eq] at passed
  have result : isResult kind t = true := by
    simp [isResult, TypedParameter.comesBack, passed.1, passed.2]
  exact (argument_of_result result).trans (if_pos passed.2)

theorem arguments_related (kind : CallKind) (typed : List TypedParameter) :
    List.Forall₂ Types (typed.filterMap (argument? kind))
      (((typed.map (·.parameter)).filter (isPassed kind)).map (·.name)) := by
  induction typed with
  | nil => exact .nil
  | cons t rest ih =>
    rw [List.map_cons]
    cases passed : isPassed kind t.parameter with
    | true =>
      obtain ⟨a, own, named⟩ := argument_of_isPassed passed
      rw [List.filterMap_cons_some own, List.filter_cons_of_pos passed]
      exact .cons named ih
    | false =>
      rw [List.filterMap_cons_none (argument_of_not_isPassed passed),
        List.filter_cons_of_neg (Bool.eq_false_iff.1 passed)]
      exact ih

theorem procedureMethod_declares (made : (procedureMethod c m f).outcome = .ok p) :
    DeclaresNames p (argumentNames f) (localNames f) := by
  obtain ⟨_, _, _, typed, _, _, types, written, _⟩ := procedureMethod_ok made
  have parameters : typed.map (·.parameter) = f.parameters := by
    rw [← List.map_id f.parameters]
    exact (map_eq_of_related (typed_related types) fun _ _ own => own.1.symm).symm
  refine ⟨⟨_, written.arguments, ?_⟩, ?_, callLines_bind p⟩
  · rw [argumentNames, ← parameters, List.filterMap_map]
    exact arguments_related (callKind f) typed
  · rw [written.setup, localNames, ← parameters, List.map_map, List.map_map,
      List.forall₂_map_left_iff, List.forall₂_map_right_iff, List.forall₂_same]
    exact fun t _ => setupLine_binds t

theorem argumentNames_sublist (f : FunctionImport) :
    (argumentNames f).Sublist (f.parameters.map (·.name)) :=
  List.filter_sublist.map _

theorem localNames_nodup (distinct : (f.parameters.map (·.name)).Nodup) : (localNames f).Nodup := by
  have appended : localNames f = (f.parameters.map (·.name)).map (· ++ "Param") := by
    rw [localNames, List.map_map]
    rfl
  rw [appended]
  exact distinct.map fun first second same => (String.append_left_inj "Param").1 same

theorem answerName_not_local : answerName ∉ localNames f := by
  intro member
  obtain ⟨q, _, same⟩ := List.mem_map.1 member
  have last := congrArg (·.toList.getLast?) same
  simp [answerName] at last

theorem declared_nodup_iff (distinct : (f.parameters.map (·.name)).Nodup) :
    (argumentNames f ++ localNames f ++ [answerName]).Nodup ↔ NamesApart f := by
  have arguments := distinct.sublist (argumentNames_sublist f)
  have locals := localNames_nodup distinct
  rw [List.append_assoc, List.nodup_append']
  constructor
  · rintro ⟨_, _, disjoint⟩
    refine ⟨fun member => disjoint member (by simp), fun q member clash => ?_⟩
    exact disjoint clash (List.mem_append_left _ (List.mem_map_of_mem member))
  · intro apart
    refine ⟨arguments, ?_, fun name member other => ?_⟩
    · exact List.nodup_append'.2
        ⟨locals, List.nodup_singleton _, List.disjoint_singleton.2 answerName_not_local⟩
    · rcases List.mem_append.1 other with inLocals | own
      · obtain ⟨q, listed, rfl⟩ := List.mem_map.1 inLocals
        exact apart.locals q listed member
      · cases List.mem_singleton.1 own
        exact apart.answer member

/-- A method that calls a procedure declares each name once just when no argument is called like
the local of the answer or of a parameter. -/
theorem declared_names_distinct_iff (distinct : (f.parameters.map (·.name)).Nodup)
    (made : (procedureMethod c m f).outcome = .ok p) :
    DeclaresNames p (argumentNames f) (localNames f) ∧
      ((argumentNames f ++ localNames f ++ [answerName]).Nodup ↔ NamesApart f) :=
  ⟨procedureMethod_declares made, declared_nodup_iff distinct⟩

theorem rate_names_distinct : ∃ p,
    (procedureMethod (.ofSettings .defaults) ⟨{}, {}, [], []⟩ rateImport).outcome = .ok p ∧
      (rateImport.parameters.map (·.name)).Nodup ∧ DeclaresNames p ["Id"] ["IdParam", "RateParam"] ∧
      (["Id"] ++ ["IdParam", "RateParam"] ++ [answerName]).Nodup := by
  obtain ⟨p, made, _⟩ : ∃ p,
      (procedureMethod (.ofSettings .defaults) ⟨{}, {}, [], []⟩ rateImport).outcome = .ok p ∧
        p.name = "GetRate" := ok_of_any (by decide +kernel)
  have distinct : (rateImport.parameters.map (·.name)).Nodup := by decide
  obtain ⟨declares, apart⟩ := declared_names_distinct_iff distinct made
  exact ⟨p, made, distinct, declares, apart.2 ⟨by decide, by decide⟩⟩

def resultDocument : SourceDocument :=
  .ofSections ""
    ("<EntityContainer><FunctionImport Name=\x22Rate\x22>" ++
      "<Parameter Name=\x22result\x22 Type=\x22Int32\x22/></FunctionImport></EntityContainer>") ""

def resultImport : FunctionImport where
  name := "Rate"
  fixedName := .str "Rate"
  parameters := [⟨"result", some "Int32", .in, some true⟩]

set_option maxRecDepth 100000 in
theorem result_resolved : ∃ r,
    (resolveDocument (.ofSettings .defaults) resultDocument).outcome = .ok r ∧
      r.conceptual.functions.entries = [resultImport] ∧
      (procedureMethod (.ofSettings .defaults) r resultImport).outcome.toOption.isSome = true :=
  ok_of_any (by decide +kernel)

/-- The argument and the local of the answer are declared under one name. -/
theorem result_declared_twice : ∃ r p,
    (resolveDocument (.ofSettings .defaults) resultDocument).outcome = .ok r ∧
      r.conceptual.functions.entries = [resultImport] ∧ resultImport.isComposable = false ∧
      (resultImport.parameters.map (·.name)).Nodup ∧
      (procedureMethod (.ofSettings .defaults) r resultImport).outcome = .ok p ∧
      DeclaresNames p ["result"] ["resultParam"] ∧
      ¬(["result"] ++ ["resultParam"] ++ [answerName]).Nodup := by
  obtain ⟨r, resolved, imports, called⟩ := result_resolved
  obtain ⟨p, found⟩ := Option.isSome_iff_exists.1 called
  have made := ok_of_toOption found
  exact ⟨r, p, resolved, imports, rfl, by decide, made, procedureMethod_declares made, by decide⟩

end declarations

end EntityScaffold.Emission
