import EntityScaffold.Proofs.Emission.Stopping
import EntityScaffold.Proofs.Emission.Units

/-!
When emission completes. A run that has gone through every kind of artifact has asked for each type,
each relationship and each constant of the model, so it completes just where all of them are there.
-/
namespace EntityScaffold.Emission
open Source

section needing

variable {c : Config} {r : ResolvedModel}

theorem supported_of_members {owner : String} {ps : List Property} {members : List Member}
    (walked : ps.mapM (memberOf owner) = .ok members) :
    ∀ p ∈ ps, Supported (some p.type) := by
  intro p member
  obtain ⟨m, _, made⟩ := result_of_mapM walked member
  obtain ⟨_, declared, _⟩ := bind_ok.1 made
  exact supported_of_declaration declared

theorem supported_of_entityClass {e : Entity} {d : DomainClass}
    (made : entityClass c e = .ok d) : ∀ p ∈ e.properties, Supported (some p.type) := by
  simp only [entityClass, bind_ok] at made
  obtain ⟨_, _, _, _, _, walked, _⟩ := made
  exact supported_of_members walked

theorem supported_of_complexClass {t : ComplexType} {d : DomainClass}
    (made : complexClass c t = .ok d) : ∀ p ∈ t.properties, Supported (some p.type) := by
  obtain ⟨_, walked, _⟩ := bind_ok.1 made
  exact supported_of_members walked

theorem typed_of_method {f : FunctionImport} {method : ImportMethod}
    (made : (importMethod c r f).outcome = .ok method) :
    ∃ parameters, typedParameters f = .ok parameters := by
  unfold importMethod at made
  split at made
  · simp only [functionMethod, Noted.outcome_bind_eq_ok, Noted.outcome_liftM] at made
    obtain ⟨_, ⟨_, _, parameters, typed, _⟩, _⟩ := made
    exact ⟨parameters, typed⟩
  · simp only [procedureMethod, Noted.outcome_bind_eq_ok, Noted.outcome_liftM] at made
    obtain ⟨_, ⟨_, _, _, _, parameters, typed, _⟩, _⟩ := made
    exact ⟨parameters, typed⟩

theorem supported_of_typed {f : FunctionImport} {parameters : List TypedParameter}
    (typed : typedParameters f = .ok parameters) : ∀ p ∈ f.parameters, Supported p.type := by
  intro p member
  obtain ⟨_, _, own⟩ := result_of_mapM typed member
  obtain ⟨_, resolved, _⟩ := map_ok.1 own
  exact supported_of_resolve resolved

theorem scalar_of_method {f : FunctionImport} {method : ImportMethod}
    (composable : f.isComposable = true) (scalar : f.returnsRows = false)
    (made : (importMethod c r f).outcome = .ok method) :
    ∃ type, scalarReturnType f = .ok type := by
  rw [importMethod, if_pos composable] at made
  simp only [functionMethod, scalar, Bool.false_eq_true, ↓reduceIte, Noted.outcome_bind_eq_ok,
    Noted.outcome_lift] at made
  obtain ⟨_, ⟨_, _, _, _, type, found, _⟩, _⟩ := made
  exact ⟨type, found⟩

theorem supported_of_scalar {f : FunctionImport} {declared type : String}
    (found : scalarReturnType f = .ok declared) (returned : f.returnType = some type)
    (filled : type ≠ "") : Supported (some (elementOf type)) := by
  rw [scalarReturnType_given returned filled] at found
  exact supported_of_declaration found

theorem shaped_of_configuration {x : Mapping} {t : Table} {v : EntityConfiguration}
    (reached : r.storage.resolveTable? x.table = some t)
    (made : mappingConfiguration c r x = .ok v) :
    ∀ k ∈ t.foreignKeys, ¬ (k.source.isMany = true ∧ k.destination.isMany = true) := by
  rw [mappingConfiguration, reached] at made
  simp only [tableConfiguration, bind_ok] at made
  obtain ⟨_, _, _, _, _, _, _, walked, _⟩ := made
  intro k member bothMany
  obtain ⟨_, _, own⟩ := result_of_mapM walked member
  rw [relationship, shapeOf_eq_none.2 bothMany] at own
  cases own

theorem emittable_of_completed (all : AllEnabled c) (done : (emitModel c r).stopped = none) :
    Emittable c r := by
  obtain ⟨emitted⟩ := emitted_of_completed all done
  obtain ⟨_, _, methods⟩ := contextUnit_ok emitted.contextMade
  constructor
  case properties =>
    intro e inUse
    obtain ⟨d, _, made⟩ := result_of_mapM emitted.entitiesMade inUse
    exact supported_of_entityClass made
  case complexProperties =>
    intro t returned
    obtain ⟨d, _, made⟩ := result_of_mapM emitted.complexesMade returned
    exact supported_of_complexClass made
  case parameters =>
    intro f member
    obtain ⟨method, made⟩ := methods f member
    obtain ⟨parameters, typed⟩ := typed_of_method made
    exact supported_of_typed typed
  case returns =>
    intro f member composable scalar type returned filled
    obtain ⟨method, made⟩ := methods f member
    obtain ⟨declared, found⟩ := scalar_of_method composable scalar made
    exact supported_of_scalar found returned filled
  case shapes =>
    intro x member t reached
    obtain ⟨v, _, made⟩ := result_of_mapM emitted.fragmentsMade member
    obtain ⟨_, configured, _⟩ := bind_ok.1 made
    exact shaped_of_configuration reached configured
  case constants =>
    intro base failed
    have schema := (emitModel_ok done).1 .schemaConstants
      (by simp [enabledEmitters_of_all all, Emitter.all])
    obtain ⟨unit, written, _⟩ := Trace.yields_ofExcept.1 (Trace.yields_of_done schema)
    obtain ⟨u, written, _⟩ := map_ok.1 written
    simp only [schemaUnit, sortedConstants, failed, bind_ok] at written
    obtain ⟨_, ⟨_, ⟨⟩, _⟩, _⟩ := written

end needing

/-- Emission of a model that has been read and bound completes just where it finds all it needs, and
stops with one of three kinds of faults elsewhere. -/
theorem emission_completes_iff {origin c : Config} {root : Xml.Element} {r : ResolvedModel}
    (declared : origin.Texts) (resolved : (readAndBind origin root).outcome = .ok r)
    (texts : c.Texts) (unescaped : c.Unescaped) (all : AllEnabled c) :
    ((emitModel c r).stopped = none ↔ Emittable c r) ∧
      ∀ f, (emitModel c r).stopped = some f → StopsEmission f := by
  have stops : (emitModel c r).StopsWith (EmissionFault c r) :=
    emitModel_stops texts unescaped (prepared_of_bound declared resolved)
  refine ⟨⟨emittable_of_completed all, fun emittable => ?_⟩, fun f stopped => (stops f stopped).1⟩
  cases stopped : (emitModel c r).stopped with
  | none => rfl
  | some f => exact absurd emittable (stops f stopped).2

section tasks

def taskDocument (earlier : String) : Xml.Element :=
  document
    [.plain "EntityType" [("Name", "Tasks")]
      [.plain "Property" [("Name", "Id"), ("Type", "int")] [],
       .plain "Property" [("Name", "AfterId"), ("Type", "int")] []],
     .plain "EntityContainer" []
      [.plain "EntitySet" [("Name", "Tasks"), ("EntityType", "Tasks"), ("Schema", "crm")] []],
     .plain "Association" [("Name", "Follows")]
      [.plain "End" [("Role", "Earlier"), ("Type", "Tasks"), ("Multiplicity", earlier)] [],
       .plain "End" [("Role", "Later"), ("Type", "Tasks"), ("Multiplicity", "*")] [],
       .plain "ReferentialConstraint" []
        [.plain "Principal" [("Role", "Earlier")] [.plain "PropertyRef" [("Name", "Id")] []],
         .plain "Dependent" [("Role", "Later")]
          [.plain "PropertyRef" [("Name", "AfterId")] []]]]]
    [.plain "EntityType" [("Name", "Task")]
      [.plain "Property" [("Name", "Id"), ("Type", " Edm.Int32 ")] []],
     .plain "EntityContainer" []
      [.plain "FunctionImport" [("Name", "Due"), ("IsComposable", "true"),
          ("ReturnType", "Collection(Edm.Int32)")]
        [.plain "Parameter" [("Name", "day"), ("Type", "Edm.DateTime")] []]]]
    [.plain "EntitySetMapping" [("TypeName", "Task"), ("StoreEntitySet", "Tasks")]
      [.plain "ScalarProperty" [("ColumnName", "Id"), ("Name", "Id")] []]]

set_option maxRecDepth 100000 in
theorem tasks_after_one :
    ∃ r, (readAndBind (.ofSettings .defaults) (taskDocument "1")).outcome = .ok r ∧
      (emitModel (.ofSettings .defaults) r).stopped = none :=
  ok_of_any (by decide +kernel)

set_option maxRecDepth 100000 in
theorem tasks_after_many :
    ∃ r, (readAndBind (.ofSettings .defaults) (taskDocument "*")).outcome = .ok r ∧
      (emitModel (.ofSettings .defaults) r).stopped ≠ none :=
  ok_of_any (by decide +kernel)

/-- Where each task follows one other there is all that emission needs; where it follows many there
is not. -/
theorem task_emission_completes :
    (∃ r, (readAndBind (.ofSettings .defaults) (taskDocument "1")).outcome = .ok r ∧
      (emitModel (.ofSettings .defaults) r).stopped = none ∧ Emittable (.ofSettings .defaults) r) ∧
    ∃ r f, (readAndBind (.ofSettings .defaults) (taskDocument "*")).outcome = .ok r ∧
      (emitModel (.ofSettings .defaults) r).stopped = some f ∧ StopsEmission f ∧
        ¬ Emittable (.ofSettings .defaults) r := by
  constructor
  · obtain ⟨r, resolved, completed⟩ := tasks_after_one
    obtain ⟨iff, _⟩ := emission_completes_iff Config.texts_defaults resolved Config.texts_defaults
      Config.unescaped_defaults ⟨rfl, rfl, rfl, rfl⟩
    exact ⟨r, resolved, completed, iff.1 completed⟩
  · obtain ⟨r, resolved, halted⟩ := tasks_after_many
    obtain ⟨iff, faults⟩ := emission_completes_iff Config.texts_defaults resolved
      Config.texts_defaults Config.unescaped_defaults ⟨rfl, rfl, rfl, rfl⟩
    obtain ⟨f, stopped⟩ := Option.ne_none_iff_exists'.1 halted
    exact ⟨r, f, resolved, stopped, faults f stopped, fun emittable => halted (iff.2 emittable)⟩

end tasks

end EntityScaffold.Emission
