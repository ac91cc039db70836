import EntityScaffold.Proofs.Emission.Traces
import EntityScaffold.Proofs.UsedEntities
import EntityScaffold.Run

/-!
What a run that completes has emitted, with every kind of artifact enabled: the source units of its
artifacts, kind by kind, each made from a member of the bound model.
-/
namespace EntityScaffold.Emission
open Source

def runUnits (c : Config) (r : ResolvedModel) : List SourceUnit :=
  (enabledEmitters c).flatMap fun e => (e.units c r).items

structure AllEnabled (c : Config) : Prop where
  domainModels : c.emitDomainModels = true
  mappingConfiguration : c.emitMappingConfiguration = true
  context : c.emitContext = true
  repositories : c.emitRepositories = true

theorem enabledEmitters_of_all {c : Config} (all : AllEnabled c) :
    enabledEmitters c = Emitter.all := by
  simp [enabledEmitters, Emitter.all, all.domainModels, all.mappingConfiguration, all.context,
    all.repositories]

theorem emitterItems_ok {c : Config} {r : ResolvedModel} {e : Emitter} {made : List RunItem}
    (ran : (emitterItems c r e).Yields made) :
    (e.units c r).stopped = none ∧
      (e.units c r).items.mapM (·.artifact c) = .ok (made.filterMap (·.artifact?)) := by
  obtain ⟨rest, artifacts, rfl⟩ := Trace.yields_one_append.1 ran
  obtain ⟨listed, changed, rfl⟩ := Trace.yields_map artifacts
  obtain ⟨units, ⟨done, rfl⟩, walked⟩ := Trace.yields_tryMap changed
  refine ⟨done, walked.trans ?_⟩
  simp [List.filterMap_map, RunItem.artifact?]

theorem emitModel_ok {c : Config} {r : ResolvedModel} (done : (emitModel c r).stopped = none) :
    (∀ e ∈ enabledEmitters c, (e.units c r).stopped = none) ∧
      (runUnits c r).mapM (·.artifact c) = .ok (artifactsOf (emitModel c r)) := by
  obtain ⟨before, last, front, final, made⟩ := Trace.yields_append.1 (Trace.yields_of_done done)
  obtain ⟨items, emission, rfl⟩ := Trace.yields_one_append.1 front
  obtain ⟨parts, each, rfl⟩ := Trace.yields_forEach emission
  have artifacts : artifactsOf (emitModel c r) =
      (parts.map fun part => part.filterMap (·.artifact?)).flatten := by
    show (emitModel c r).items.filterMap (·.artifact?) = _
    have all : (emitModel c r).items = _ := made
    rw [all, Trace.yields_one.1 final]
    simp [List.filterMap_append, List.filterMap_flatten, RunItem.artifact?]
  constructor
  · intro e member
    obtain ⟨part, _, ran⟩ := related_of_mem_left each member
    exact (emitterItems_ok ran).1
  · rw [artifacts]
    refine mapM_flatMap_ok (List.forall₂_map_right_iff.2 (each.imp fun e part ran => ?_))
    exact (emitterItems_ok ran).2

def firstOfPath {α : Type} (emitted : List String) : List (α × String) → List α
  | [] => []
  | (a, path) :: rest =>
    if path ∈ emitted then firstOfPath emitted rest else a :: firstOfPath (path :: emitted) rest

theorem mem_of_firstOfPath {α : Type} {emitted : List String} {made : List (α × String)} {a : α}
    (member : a ∈ firstOfPath emitted made) : ∃ path, (a, path) ∈ made := by
  induction made generalizing emitted with
  | nil => cases member
  | cons first rest ih =>
    rw [firstOfPath] at member
    split at member
    · obtain ⟨path, later⟩ := ih member
      exact ⟨path, List.mem_cons_of_mem first later⟩
    · rcases List.mem_cons.1 member with rfl | later
      · exact ⟨first.2, List.mem_cons_self ..⟩
      · obtain ⟨path, found⟩ := ih later
        exact ⟨path, List.mem_cons_of_mem first found⟩

theorem kept_of_mem {α : Type} {emitted : List String} {made : List (α × String)} {a : α}
    {path : String} (member : (a, path) ∈ made) (new : path ∉ emitted) :
    ∃ b ∈ firstOfPath emitted made, (b, path) ∈ made := by
  induction made generalizing emitted with
  | nil => cases member
  | cons first rest ih =>
    by_cases own : first.2 = path
    · refine ⟨first.1, ?_, own ▸ List.mem_cons_self ..⟩
      rw [firstOfPath, if_neg (own ▸ new)]
      exact List.mem_cons_self ..
    · have later : (a, path) ∈ rest := by
        rcases List.mem_cons.1 member with same | later
        · exact absurd (same ▸ rfl) own
        · exact later
      rw [firstOfPath]
      split
      · obtain ⟨b, kept, found⟩ := ih later new
        exact ⟨b, kept, List.mem_cons_of_mem first found⟩
      · have fresh : path ∉ first.2 :: emitted := by
          intro listed
          rcases List.mem_cons.1 listed with same | before
          · exact own same.symm
          · exact new before
        obtain ⟨b, kept, found⟩ := ih later fresh
        exact ⟨b, List.mem_cons_of_mem first.1 kept, List.mem_cons_of_mem first found⟩

def fragment (c : Config) (r : ResolvedModel) (x : Mapping) :
    Except Fault (EntityConfiguration × String) := do
  let v ← mappingConfiguration c r x
  return (v, ← (SourceUnit.entityConfiguration v).path c)

theorem mappingUnit_ok {c : Config} {r : ResolvedModel} {x : Mapping} {unit : SourceUnit}
    {path : String} (made : mappingUnit c r x = .ok (unit, path)) :
    ∃ v, fragment c r x = .ok (v, path) ∧ unit = .entityConfiguration v := by
  simp only [mappingUnit, bind_ok, pure_ok, Prod.mk.injEq] at made
  obtain ⟨v, configured, _, placed, rfl, rfl⟩ := made
  refine ⟨v, ?_, rfl⟩
  simp only [fragment, bind_ok, pure_ok]
  exact ⟨v, configured, _, placed, rfl⟩

theorem emitMappings_ok {c : Config} {r : ResolvedModel} {emitted : List String}
    {mappings : List Mapping} {units : List SourceUnit}
    (ran : (emitMappings c r emitted mappings).Yields units) :
    ∃ made, mappings.mapM (fragment c r) = .ok made ∧
      units = (firstOfPath emitted made).map .entityConfiguration := by
  induction mappings generalizing emitted units with
  | nil =>
    obtain ⟨_, rfl⟩ := ran
    exact ⟨[], rfl, rfl⟩
  | cons x rest ih =>
    rw [emitMappings] at ran
    cases found : mappingUnit c r x with
    | error f =>
      rw [found] at ran
      exact absurd ran Trace.yields_fault
    | ok placed =>
      obtain ⟨unit, path⟩ := placed
      obtain ⟨v, own, rfl⟩ := mappingUnit_ok found
      simp only [found] at ran
      split at ran
      · rename_i repeated
        obtain ⟨made, walked, rfl⟩ := ih (Trace.yields_ofNotice_append.1 ran)
        refine ⟨(v, path) :: made, mapM_ok.2 (.cons own (mapM_ok.1 walked)), ?_⟩
        rw [firstOfPath, if_pos repeated]
      · rename_i new
        obtain ⟨others, later, rfl⟩ := Trace.yields_one_append.1 ran
        obtain ⟨made, walked, rfl⟩ := ih later
        refine ⟨(v, path) :: made, mapM_ok.2 (.cons own (mapM_ok.1 walked)), ?_⟩
        rw [firstOfPath, if_neg new]
        rfl

def repositoryUnits (u : Repository) : List SourceUnit := [.repositoryInterface u, .repository u]

/-- The units of a run that completed, kind by kind, and what they are made of. -/
structure Emitted (c : Config) (r : ResolvedModel) where
  constants : SchemaConstants
  entities : List DomainClass
  complexes : List DomainClass
  fragments : List (EntityConfiguration × String)
  context : ContextClass
  repositories : List Repository
  entitiesMade : r.usedEntities.mapM (entityClass c) = .ok entities
  complexesMade : r.returnedComplexTypes.mapM (complexClass c) = .ok complexes
  fragmentsMade : r.mappings.mapM (fragment c r) = .ok fragments
  contextMade : (contextUnit c r).outcome = .ok context
  repositoriesMade : r.usedEntities.mapM (repositoryOf c) = .ok repositories
  units : runUnits c r = [.schemaConstants constants] ++
    (entities.map .domainClass ++ complexes.map .domainClass) ++
    ((firstOfPath [] fragments).map .entityConfiguration ++
      r.returnedComplexTypes.map fun t => .entityConfiguration (complexConfiguration c t)) ++
    [.contextClass context] ++ repositories.flatMap repositoryUnits

theorem orderedEntities_yields {r : ResolvedModel} {α : Type} {next : List Entity → Trace α}
    {as : List α} (ran : (Trace.after (Noted.lift r.orderedEntities) next).Yields as) :
    (next r.usedEntities).Yields as := by
  obtain ⟨ordered, listed, ran⟩ := Trace.yields_after ran
  have same : ordered = r.usedEntities := orderedEntities_ok listed
  rwa [same] at ran

theorem emitDomain_ok {c : Config} {r : ResolvedModel} {units : List SourceUnit}
    (ran : (emitDomain c r).Yields units) :
    ∃ entities complexes, r.usedEntities.mapM (entityClass c) = .ok entities ∧
      r.returnedComplexTypes.mapM (complexClass c) = .ok complexes ∧
      units = entities.map .domainClass ++ complexes.map .domainClass := by
  obtain ⟨first, second, inUse, returned, rfl⟩ := Trace.yields_append.1 ran
  obtain ⟨entities, walked, rfl⟩ := mapM_map_ok
    (Trace.yields_forEach_ofExcept (orderedEntities_yields inUse))
  obtain ⟨complexes, walkedToo, rfl⟩ := mapM_map_ok (Trace.yields_forEach_ofExcept returned)
  exact ⟨entities, complexes, walked, walkedToo, rfl⟩

theorem emitConfigurations_ok {c : Config} {r : ResolvedModel} {units : List SourceUnit}
    (ran : (emitConfigurations c r).Yields units) :
    ∃ fragments, r.mappings.mapM (fragment c r) = .ok fragments ∧
      units = (firstOfPath [] fragments).map .entityConfiguration ++
        r.returnedComplexTypes.map fun t => .entityConfiguration (complexConfiguration c t) := by
  obtain ⟨first, second, mapped, returned, rfl⟩ := Trace.yields_append.1 ran
  obtain ⟨fragments, walked, rfl⟩ := emitMappings_ok mapped
  exact ⟨fragments, walked, by rw [Trace.yields_forEach_one returned]⟩

theorem emitContext_ok {c : Config} {r : ResolvedModel} {units : List SourceUnit}
    (ran : (emitContext c r).Yields units) :
    ∃ context, (contextUnit c r).outcome = .ok context ∧ units = [.contextClass context] := by
  obtain ⟨unit, made, rfl⟩ := Trace.yields_ofNoted ran
  obtain ⟨context, found, same⟩ := Noted.outcome_bind_eq_ok.1 made
  exact ⟨context, found, by rw [← Noted.outcome_pure_ok.1 same]⟩

theorem entityRepositories_ok {c : Config} {entities : List Entity}
    {parts : List (List SourceUnit)}
    (each : List.Forall₂ (fun e part => (entityRepository c e).Yields part) entities parts) :
    ∃ repositories, entities.mapM (repositoryOf c) = .ok repositories ∧
      parts.flatten = repositories.flatMap repositoryUnits := by
  induction each with
  | nil => exact ⟨[], rfl, rfl⟩
  | cons own _ ih =>
    obtain ⟨others, walked, rest⟩ := ih
    obtain ⟨repository, found, made⟩ := Trace.yields_after own
    obtain ⟨last, single, rfl⟩ := Trace.yields_one_append.1 made
    refine ⟨repository :: others, mapM_ok.2 (.cons found (mapM_ok.1 walked)), ?_⟩
    rw [List.flatten_cons, rest, Trace.yields_one.1 single]
    rfl

theorem emitRepositories_ok {c : Config} {r : ResolvedModel} {units : List SourceUnit}
    (ran : (emitRepositories c r).Yields units) :
    ∃ repositories, r.usedEntities.mapM (repositoryOf c) = .ok repositories ∧
      units = repositories.flatMap repositoryUnits := by
  obtain ⟨parts, each, rfl⟩ := Trace.yields_forEach (orderedEntities_yields ran)
  exact entityRepositories_ok each

theorem emitted_of_completed {c : Config} {r : ResolvedModel} (all : AllEnabled c)
    (done : (emitModel c r).stopped = none) : Nonempty (Emitted c r) := by
  have ran : ∀ e ∈ Emitter.all, (e.units c r).Yields (e.units c r).items := by
    intro e member
    rw [← enabledEmitters_of_all all] at member
    exact Trace.yields_of_done ((emitModel_ok done).1 e member)
  obtain ⟨_, made, schema⟩ :=
    Trace.yields_ofExcept.1 (ran .schemaConstants (by simp [Emitter.all]))
  obtain ⟨constants, _, rfl⟩ := map_ok.1 made
  obtain ⟨entities, complexes, entitiesMade, complexesMade, domain⟩ :=
    emitDomain_ok (ran .domainModel (by simp [Emitter.all]))
  obtain ⟨fragments, fragmentsMade, configurations⟩ :=
    emitConfigurations_ok (ran .mappingConfiguration (by simp [Emitter.all]))
  obtain ⟨context, contextMade, contexts⟩ :=
    emitContext_ok (ran .context (by simp [Emitter.all]))
  obtain ⟨repositories, repositoriesMade, pairs⟩ :=
    emitRepositories_ok (ran .repository (by simp [Emitter.all]))
  refine ⟨⟨constants, entities, complexes, fragments, context, repositories, entitiesMade,
    complexesMade, fragmentsMade, contextMade, repositoriesMade, ?_⟩⟩
  rw [runUnits, enabledEmitters_of_all all, Emitter.all]
  simp only [List.flatMap_cons, List.flatMap_nil, List.append_nil, schema, domain, configurations,
    contexts, pairs, List.append_assoc]

end EntityScaffold.Emission
