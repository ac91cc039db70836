import EntityScaffold.Proofs.Runs

/-!
Runs that make only some kinds of artifacts. What an emitter makes does not depend on which others
are enabled, and none changes the bound model: a run makes, of the artifacts of the run that makes
every kind, those of its own kinds.
-/
namespace EntityScaffold
open Source Emission

namespace Config

def withAllKinds (c : Config) : Config :=
  { c with
    emitContext := true
    emitDomainModels := true
    emitRepositories := true
    emitMappingConfiguration := true }

end Config

theorem enabledEmitters_withAllKinds (c : Config) :
    enabledEmitters c.withAllKinds = Emitter.all :=
  enabledEmitters_of_all ⟨rfl, rfl, rfl, rfl⟩

/-- Nothing up to the bound model reads which kinds are asked for. -/
theorem resolveDocument_withAllKinds (c : Config) (d : SourceDocument) :
    resolveDocument c.withAllKinds d = resolveDocument c d := rfl

section emitters

/-! No emitter reads which others are enabled. Walks over schemas and mappings need an induction
each; the steps between them compute. -/

variable (c : Config) (r : ResolvedModel)

theorem addConstants_withAllKinds (made : List SchemaConstant) (schemas : List String) :
    addConstants c.withAllKinds made schemas = addConstants c made schemas := by
  induction schemas generalizing made with
  | nil => rfl
  | cons s rest ih =>
    simp only [addConstants, ih]
    rfl

theorem schemaConstants_withAllKinds : schemaConstants c.withAllKinds r = schemaConstants c r := by
  simp only [schemaConstants, addConstants_withAllKinds]
  rfl

theorem constantReference_withAllKinds (schema : Label) :
    constantReference c.withAllKinds r schema = constantReference c r schema := by
  simp only [constantReference, constantName, schemaConstants_withAllKinds]
  rfl

theorem mappingUnit_withAllKinds (x : Mapping) :
    mappingUnit c.withAllKinds r x = mappingUnit c r x := by
  simp only [mappingUnit, mappingConfiguration, tableConfiguration, tableBinding,
    constantReference_withAllKinds]
  rfl

theorem emitMappings_withAllKinds (emitted : List String) (mappings : List Mapping) :
    emitMappings c.withAllKinds r emitted mappings = emitMappings c r emitted mappings := by
  induction mappings generalizing emitted with
  | nil => rfl
  | cons x rest ih => simp only [emitMappings, mappingUnit_withAllKinds, ih]

theorem importMethod_withAllKinds (f : FunctionImport) :
    importMethod c.withAllKinds r f = importMethod c r f := by
  simp only [importMethod, functionMethod, constantReference_withAllKinds]
  rfl

theorem contextUnit_withAllKinds : contextUnit c.withAllKinds r = contextUnit c r := by
  have methods : importMethod c.withAllKinds r = importMethod c r :=
    funext (importMethod_withAllKinds c r)
  simp only [contextUnit, methods]
  rfl

theorem units_withAllKinds (e : Emitter) : e.units c.withAllKinds r = e.units c r := by
  cases e with
  | schemaConstants =>
    simp only [Emitter.units, emitSchema, schemaUnit, sortedConstants, schemaConstants_withAllKinds]
    rfl
  | mappingConfiguration =>
    simp only [Emitter.units, emitConfigurations, emitMappings_withAllKinds]
    rfl
  | context => simp only [Emitter.units, emitContext, contextUnit_withAllKinds]
  | domainModel | repository => rfl

theorem emitterItems_withAllKinds (e : Emitter) :
    emitterItems c.withAllKinds r e = emitterItems c r e := by
  rw [emitterItems, Emitter.artifacts, units_withAllKinds]
  rfl

end emitters

theorem filter_artifacts {c : Config} {r : ResolvedModel} {es : List Emitter}
    (done : ∀ e ∈ es, (emitterItems c r e).stopped = none) :
    (es.flatMap fun e => artifactsOf (emitterItems c r e)).filter (c.asksFor ·.kind) =
      (es.filter fun e => c.asksFor e.kind).flatMap fun e => artifactsOf (emitterItems c r e) := by
  induction es with
  | nil => rfl
  | cons e rest ih =>
    have own := kind_of_emitter (done e (by simp))
    rw [List.flatMap_cons, List.filter_append, ih fun d later => done d (by simp [later]),
      List.filter_cons]
    cases asked : c.asksFor e.kind with
    | true =>
      have kept : (artifactsOf (emitterItems c r e)).filter (c.asksFor ·.kind) =
          artifactsOf (emitterItems c r e) :=
        List.filter_eq_self.2 fun a made => by rw [own a made, asked]
      rw [kept, if_pos rfl, List.flatMap_cons]
    | false =>
      have dropped : (artifactsOf (emitterItems c r e)).filter (c.asksFor ·.kind) = [] :=
        List.filter_eq_nil_iff.2 fun a made => by simp [own a made, asked]
      rw [dropped, if_neg (by simp), List.nil_append]

/-- A run that came to its end with those artifacts of another run that its configuration asks for,
and with their number as its last item. -/
structure Narrows (c : Config) (whole part : Trace RunItem) : Prop where
  done : part.stopped = none
  artifacts : artifactsOf part = (artifactsOf whole).filter (c.asksFor ·.kind)
  counted : part.items.getLast? = some (.event (.generated (artifactsOf part).length))

theorem emitModel_narrows {c : Config} {r : ResolvedModel}
    (done : (emitModel c.withAllKinds r).stopped = none) :
    Narrows c (emitModel c.withAllKinds r) (emitModel c r) := by
  have each : ∀ e ∈ Emitter.all, (emitterItems c r e).stopped = none := by
    intro e listed
    rw [← enabledEmitters_withAllKinds c] at listed
    rw [← emitterItems_withAllKinds]
    exact emitModel_done.1 done e listed
  have own : (emitModel c r).stopped = none := by
    rw [emitModel_done, enabledEmitters_eq]
    exact fun e kept => each e (List.mem_of_mem_filter kept)
  refine ⟨own, ?_, last_emitModel own⟩
  rw [artifacts_by_emitter own, artifacts_by_emitter done, enabledEmitters_withAllKinds,
    enabledEmitters_eq]
  simp only [emitterItems_withAllKinds]
  exact (filter_artifacts each).symm

/-- Which kinds of artifacts a run makes changes none of the others. If the run that makes every
kind comes to its end, so does the run that makes some, with its artifacts of these kinds; and a
document that does not resolve is refused by both in the same way. -/
theorem kinds_do_not_interfere (c : Config) (d : SourceDocument) :
    ((runDocument c.withAllKinds d).stopped = none →
        Narrows c (runDocument c.withAllKinds d) (runDocument c d)) ∧
      ∀ f, (resolveDocument c d).outcome = .error f ∨
          (resolveDocument c.withAllKinds d).outcome = .error f →
        Refused f (runDocument c d) ∧ Refused f (runDocument c.withAllKinds d) := by
  constructor
  · intro done
    obtain ⟨r, resolved, completed⟩ := resolved_of_completed done
    obtain ⟨own, artifacts, counted⟩ := emitModel_narrows completed
    have whole : Continues (runDocument c.withAllKinds d) (emitModel c.withAllKinds r) :=
      runDocument_of_ok resolved
    have part : Continues (runDocument c d) (emitModel c r) := runDocument_of_ok resolved
    refine ⟨part.stopped.trans own, ?_, ?_⟩
    · rw [part.artifacts, whole.artifacts, artifacts]
    · rw [part.items, part.artifacts, List.getLast?_cons, counted]
      rfl
  · intro f failed
    rw [resolveDocument_withAllKinds, or_self] at failed
    exact ⟨runDocument_of_error failed, runDocument_of_error failed⟩

section boxes

def classesOnly : Config :=
  { Config.ofSettings .defaults with emitContext := false, emitRepositories := false }

set_option maxRecDepth 100000 in
theorem boxes_completed : (runDocument classesOnly.withAllKinds boxDocument).stopped = none := by
  decide +kernel

theorem box_kinds_do_not_interfere :
    (runDocument classesOnly.withAllKinds boxDocument).stopped = none ∧
      Narrows classesOnly (runDocument classesOnly.withAllKinds boxDocument)
        (runDocument classesOnly boxDocument) ∧
      (resolveDocument classesOnly ⟨none, []⟩).outcome = .error (.malformedDocument none) ∧
      Refused (.malformedDocument none) (runDocument classesOnly ⟨none, []⟩) ∧
      Refused (.malformedDocument none) (runDocument classesOnly.withAllKinds ⟨none, []⟩) := by
  have refused : (resolveDocument classesOnly ⟨none, []⟩).outcome =
      .error (.malformedDocument none) := rfl
  exact ⟨boxes_completed, (kinds_do_not_interfere classesOnly boxDocument).1 boxes_completed,
    refused, (kinds_do_not_interfere classesOnly ⟨none, []⟩).2 _ (.inl refused)⟩

end boxes

end EntityScaffold
