import EntityScaffold.Emission.Emitter
import EntityScaffold.Proofs.Emission.Traces
import EntityScaffold.Proofs.Lists
import EntityScaffold.Proofs.UsedEntities

/-!
Source units by their parts: the names under which other units refer to a unit, and what the
members of the model have come to in it.
-/
namespace EntityScaffold.Source

def DomainClass.typeName (d : DomainClass) : String :=
  Emission.domainType d.bucket.display d.className.display

def EntityConfiguration.typeName (v : EntityConfiguration) : String :=
  "Configuration." ++ v.bucket.display ++ "." ++ v.className

end EntityScaffold.Source

namespace EntityScaffold.Emission
open Source

theorem entityClass_ok {c : Config} {e : Entity} {d : DomainClass}
    (made : entityClass c e = .ok d) :
    c.bucket e.schema = .ok d.bucket ∧ d.className = e.fixedName ∧ d.baseClass = some entityBase ∧
      usingsOf c d.bucket e = .ok d.usings := by
  simp only [entityClass, bind_ok, pure_ok] at made
  obtain ⟨bucket, placed, usings, imported, properties, _, rfl⟩ := made
  exact ⟨placed, rfl, rfl, imported⟩

theorem complexClass_ok {c : Config} {t : ComplexType} {d : DomainClass}
    (made : complexClass c t = .ok d) :
    d.bucket = c.defaultBucket ∧ d.className = t.fixedName ∧ d.baseClass = none := by
  simp only [complexClass, bind_ok, pure_ok] at made
  obtain ⟨properties, _, rfl⟩ := made
  exact ⟨rfl, rfl, rfl⟩

theorem entitySetMember_ok {c : Config} {e : Entity} {s : EntitySetMember}
    (made : entitySetMember c e = .ok s) :
    ∃ bucket, c.bucket e.schema = .ok bucket ∧
      s.type = domainType bucket.display e.fixedName.display := by
  simp only [entitySetMember, entityTypeOf, bind_ok, pure_ok] at made
  obtain ⟨type, ⟨bucket, placed, rfl⟩, plural, _, rfl⟩ := made
  exact ⟨bucket, placed, rfl⟩

theorem repositoryOf_ok {c : Config} {e : Entity} {u : Repository}
    (made : repositoryOf c e = .ok u) :
    ∃ bucket, c.bucket e.schema = .ok bucket ∧
      u = ⟨bucket, e.fixedName.display, domainType bucket.display e.fixedName.display⟩ := by
  simp only [repositoryOf, bind_ok, pure_ok] at made
  obtain ⟨bucket, placed, rfl⟩ := made
  exact ⟨bucket, placed, rfl⟩

theorem usingsOf_ok {c : Config} {bucket : Label} {e : Entity} {usings : List String}
    (made : usingsOf c bucket e = .ok usings) :
    usings.Pairwise (· < ·) ∧ ∀ u, u ∈ usings ↔ ∃ n ∈ e.navigations, ∃ b,
      c.bucket n.targetSchema = .ok b ∧ b ≠ bucket ∧ u = domainNamespace c b.display := by
  simp only [usingsOf, bind_ok, pure_ok] at made
  obtain ⟨targets, walked, rfl⟩ := made
  constructor
  · have ordered := sortTexts_ordered
      ((targets.filter (· != bucket)).map fun t => domainNamespace c t.display).eraseDups
    have distinct := (sortBy_perm (fun a b => decide (a ≤ b)) _).nodup_iff.2
      (nodup_eraseDups ((targets.filter (· != bucket)).map fun t => domainNamespace c t.display))
    refine (ordered.and distinct).imp ?_
    rintro u v ⟨before, apart⟩
    exact String.not_le.1 fun after => apart (String.le_antisymm before after)
  · intro u
    rw [sortTexts, mem_sortBy, List.mem_eraseDups, List.mem_map]
    constructor
    · rintro ⟨b, kept, rfl⟩
      obtain ⟨member, other⟩ := List.mem_filter.1 kept
      obtain ⟨n, inEntity, placed⟩ := source_of_mapM walked member
      exact ⟨n, inEntity, b, placed, by simpa using other, rfl⟩
    · rintro ⟨n, inEntity, b, placed, other, rfl⟩
      obtain ⟨b', member, found⟩ := result_of_mapM walked inEntity
      have same : b' = b := Except.ok.inj (found.symm.trans placed)
      exact ⟨b, List.mem_filter.2 ⟨same ▸ member, by simpa using other⟩, rfl⟩

structure ContextParts (c : Config) (r : ResolvedModel) (u : ContextClass)
    (methods : List ImportMethod) : Prop where
  sets : r.usedEntities.mapM (entitySetMember c) = .ok u.sets
  configurations : registeredConfigurations c r r.usedEntities = .ok u.configurations
  walked : r.conceptual.functions.entries.mapM (fun f => (importMethod c r f).outcome) = .ok methods
  functions : u.functions = methods.filterMap (·.function?)
  procedures : u.procedures = methods.filterMap (·.procedure?)

theorem contextUnit_parts {c : Config} {r : ResolvedModel} {u : ContextClass}
    (made : (contextUnit c r).outcome = .ok u) : ∃ methods, ContextParts c r u methods := by
  simp only [contextUnit, Noted.outcome_bind_eq_ok, Noted.outcome_pure_ok, Noted.outcome_liftM,
    Noted.outcome_lift, Noted.outcome_mapM] at made
  obtain ⟨entities, listed, sets, setsMade, configurations, registered, methods, walked, rfl⟩ :=
    made
  have same : entities = r.usedEntities := orderedEntities_ok listed
  rw [same] at setsMade registered
  exact ⟨methods, setsMade, registered, walked, rfl, rfl⟩

theorem contextUnit_ok {c : Config} {r : ResolvedModel} {u : ContextClass}
    (made : (contextUnit c r).outcome = .ok u) :
    r.usedEntities.mapM (entitySetMember c) = .ok u.sets ∧
      registeredConfigurations c r r.usedEntities = .ok u.configurations ∧
      ∀ f ∈ r.conceptual.functions.entries,
        ∃ method, (importMethod c r f).outcome = .ok method := by
  obtain ⟨methods, parts⟩ := contextUnit_parts made
  refine ⟨parts.sets, parts.configurations, fun f member => ?_⟩
  obtain ⟨method, _, found⟩ := result_of_mapM parts.walked member
  exact ⟨method, found⟩

theorem contextUnit_of_written {c : Config} {r : ResolvedModel} {u : ContextClass}
    (written : .contextClass u ∈ (emitContext c r).items) : (contextUnit c r).outcome = .ok u := by
  obtain ⟨_, made, same⟩ := Noted.outcome_bind_eq_ok.1 (Trace.mem_items_ofNoted written)
  cases Noted.outcome_pure_ok.1 same
  exact made

theorem written_of_contextUnit {c : Config} {r : ResolvedModel} {u : ContextClass}
    (made : (contextUnit c r).outcome = .ok u) : .contextClass u ∈ (emitContext c r).items := by
  rw [emitContext, Trace.items_ofNoted (Noted.outcome_bind_eq_ok.2 ⟨u, made, rfl⟩)]
  exact List.mem_singleton_self _

/-- The method of an import is a function or a procedure, as the import can be composed or not. -/
inductive MethodMade (c : Config) (r : ResolvedModel) (f : FunctionImport) : ImportMethod → Prop
  | function {g : FunctionMethod} (composable : f.isComposable = true)
      (made : (functionMethod c r f).outcome = .ok g) : MethodMade c r f (.function g)
  | procedure {p : ProcedureMethod} (called : f.isComposable = false)
      (made : (procedureMethod c r f).outcome = .ok p) : MethodMade c r f (.procedure p)

theorem importMethod_ok {c : Config} {r : ResolvedModel} {f : FunctionImport} {x : ImportMethod}
    (made : (importMethod c r f).outcome = .ok x) : MethodMade c r f x := by
  unfold importMethod at made
  split at made
  · rename_i composable
    obtain ⟨g, own, same⟩ := Noted.outcome_bind_eq_ok.1 made
    cases Noted.outcome_pure_ok.1 same
    exact .function composable own
  · rename_i called
    obtain ⟨p, own, same⟩ := Noted.outcome_bind_eq_ok.1 made
    cases Noted.outcome_pure_ok.1 same
    exact .procedure (by simpa using called) own

theorem registeredConfigurations_ok {c : Config} {r : ResolvedModel} {entities : List Entity}
    {registered : List String} (made : registeredConfigurations c r entities = .ok registered) :
    ∃ own, entities.mapM (entityConfigurationType c) = .ok own ∧
      registered = own ++ r.returnedComplexTypes.map (complexConfigurationType c) := by
  simp only [registeredConfigurations, bind_ok, pure_ok] at made
  obtain ⟨own, walked, rfl⟩ := made
  exact ⟨own, walked, rfl⟩

theorem rowType_of_method {c : Config} {r : ResolvedModel} {f : FunctionImport}
    {method : ImportMethod} (rows : f.returnsRows = true)
    (made : (importMethod c r f).outcome = .ok method) :
    ∃ row, (rowType c r f).outcome = .ok row := by
  unfold importMethod at made
  split at made
  · simp only [functionMethod, rows, ↓reduceIte, Noted.outcome_bind_eq_ok] at made
    obtain ⟨_, ⟨_, _, _, _, _, ⟨row, found, _⟩, _⟩, _⟩ := made
    exact ⟨row, found⟩
  · have kind : callKind f = .rows := by simp [callKind, rows]
    simp only [procedureMethod, kind, callReturn, Noted.outcome_bind_eq_ok] at made
    obtain ⟨_, ⟨_, _, _, ⟨row, found, _⟩, _⟩, _⟩ := made
    exact ⟨row, found⟩

theorem functionMethod_ok {c : Config} {r : ResolvedModel} {f : FunctionImport} {g : FunctionMethod}
    (made : (functionMethod c r f).outcome = .ok g) :
    ∃ target, (storeTarget c r f).outcome = .ok target ∧ g.name = f.fixedName.display ∧
      g.storeName = target.name ∧ constantReference c r target.schema = .ok g.schema := by
  obtain ⟨target, called, made⟩ := Noted.outcome_bind_eq_ok.1 made
  obtain ⟨_, _, made⟩ := Noted.outcome_bind_eq_ok.1 made
  refine ⟨target, called, ?_⟩
  split at made
  all_goals
    obtain ⟨_, _, made⟩ := Noted.outcome_bind_eq_ok.1 made
    obtain ⟨schema, referred, made⟩ := Noted.outcome_bind_eq_ok.1 made
    cases Noted.outcome_pure_ok.1 made
    exact ⟨rfl, rfl, referred⟩

theorem rowType_ok {c : Config} {r : ResolvedModel} {f : FunctionImport} {row : String}
    (member : f ∈ r.conceptual.functions.entries) (given : isGiven f.returnComplexType = true)
    (found : (rowType c r f).outcome = .ok row) :
    ∃ t ∈ r.returnedComplexTypes,
      row = domainType c.defaultBucket.display t.fixedName.display := by
  cases declared : f.returnComplexType with
  | none => simp [isGiven, declared] at given
  | some name =>
    have filled : name ≠ "" := by simpa [isGiven, declared] using given
    rw [rowType, if_pos given, declared, Option.getD_some] at found
    cases known : r.conceptual.complexTypes.find? name with
    | none =>
      rw [known] at found
      cases found
    | some t =>
      rw [known] at found
      have contained : r.conceptual.complexTypes.contains name = true := by
        rw [Catalog.contains, known]
        rfl
      have named : name ∈ r.returnedTypeNames := by
        rw [ResolvedModel.returnedTypeNames, List.mem_eraseDups, List.mem_filterMap]
        exact ⟨f, member, by simp [declared, Option.filter, filled, contained]⟩
      exact ⟨t, List.mem_filterMap.2 ⟨name, named, known⟩, (Noted.outcome_pure_ok.1 found).symm⟩

end EntityScaffold.Emission
