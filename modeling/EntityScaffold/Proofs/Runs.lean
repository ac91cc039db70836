import EntityScaffold.Proofs.Emission.Units

/-!
Runs over a document, whole: one that is not resolved stops there without an artifact, and one that
is resolved goes on with what is emitted from the bound model, emitter by emitter.
-/
namespace EntityScaffold
open Source Emission

/-- Whether a kind of artifact is asked for. The schema constants always are. -/
def Config.asksFor (c : Config) : ArtifactKind → Bool
  | .schema => true
  | .domain => c.emitDomainModels
  | .configuration => c.emitMappingConfiguration
  | .context => c.emitContext
  | .repository => c.emitRepositories

theorem enabledEmitters_eq (c : Config) :
    enabledEmitters c = Emitter.all.filter fun e => c.asksFor e.kind := by
  simp only [enabledEmitters, Emitter.all, List.filter_cons, List.filter_nil, Emitter.kind,
    Config.asksFor]
  cases c.emitDomainModels <;> cases c.emitMappingConfiguration <;> cases c.emitContext <;>
    cases c.emitRepositories <;> rfl

theorem mem_enabledEmitters {c : Config} {e : Emitter} :
    e ∈ enabledEmitters c ↔ c.asksFor e.kind = true := by
  rw [enabledEmitters_eq, List.mem_filter, and_iff_right]
  cases e <;> simp [Emitter.all]

section kinds

variable {c : Config} {r : ResolvedModel}

theorem kind_of_artifact {u : SourceUnit} {a : Artifact} (made : u.artifact c = .ok a) :
    a.kind = u.kind := by
  simp only [SourceUnit.artifact, bind_ok, pure_ok] at made
  obtain ⟨_, _, rfl⟩ := made
  rfl

theorem kind_of_units {e : Emitter} {units : List SourceUnit} (ran : (e.units c r).Yields units) :
    ∀ u ∈ units, u.kind = e.kind := by
  cases e with
  | schemaConstants =>
    obtain ⟨_, made, rfl⟩ := Trace.yields_ofExcept.1 ran
    obtain ⟨_, _, rfl⟩ := map_ok.1 made
    simp [SourceUnit.kind, Emitter.kind]
  | domainModel =>
    obtain ⟨_, _, _, _, rfl⟩ := emitDomain_ok ran
    simp [SourceUnit.kind, Emitter.kind, or_imp, forall_and]
  | mappingConfiguration =>
    obtain ⟨_, _, rfl⟩ := emitConfigurations_ok ran
    simp [SourceUnit.kind, Emitter.kind, or_imp, forall_and]
  | context =>
    obtain ⟨_, _, rfl⟩ := emitContext_ok ran
    simp [SourceUnit.kind, Emitter.kind]
  | repository =>
    obtain ⟨repositories, _, rfl⟩ := emitRepositories_ok ran
    intro u listed
    obtain ⟨v, _, own⟩ := List.mem_flatMap.1 listed
    rcases List.mem_pair.1 own with rfl | rfl <;> rfl

theorem kind_of_emitter {e : Emitter} (done : (emitterItems c r e).stopped = none) :
    ∀ a ∈ artifactsOf (emitterItems c r e), a.kind = e.kind := by
  obtain ⟨ran, walked⟩ := emitterItems_ok (Trace.yields_of_done done)
  intro a made
  obtain ⟨u, listed, written⟩ := source_of_mapM walked made
  rw [kind_of_artifact written]
  exact kind_of_units (Trace.yields_of_done ran) u listed

end kinds

section emission

/-! What a run over a bound model has made when it comes to its end, emitter by emitter. -/

variable {c : Config} {r : ResolvedModel}

theorem emitModel_done :
    (emitModel c r).stopped = none ↔
      ∀ e ∈ enabledEmitters c, (emitterItems c r e).stopped = none := by
  rw [emitModel, Trace.stopped_append, Trace.stopped_append, ← Trace.forEach_done]
  simp [Trace.one, emissionItems]

theorem items_emitModel (done : (emitModel c r).stopped = none) :
    (emitModel c r).items =
      RunItem.event (.bound r.usedEntities.length r.usedTables.length) ::
        ((emissionItems c r).items ++
          [.event (.generated (artifactsOf (emissionItems c r)).length)]) := by
  have emission : (emissionItems c r).stopped = none := Trace.forEach_done.2 (emitModel_done.1 done)
  have front : (Trace.one (RunItem.event (.bound r.usedEntities.length r.usedTables.length)) ++
      emissionItems c r).stopped = none := by
    rw [Trace.stopped_append, emission]
    rfl
  rw [emitModel, Trace.items_append_of_done _ front, Trace.items_append_of_done _ rfl]
  rfl

theorem artifacts_emitModel (done : (emitModel c r).stopped = none) :
    artifactsOf (emitModel c r) = artifactsOf (emissionItems c r) := by
  rw [artifactsOf, items_emitModel done]
  simp [RunItem.artifact?, artifactsOf]

theorem artifacts_by_emitter (done : (emitModel c r).stopped = none) :
    artifactsOf (emitModel c r) =
      (enabledEmitters c).flatMap fun e => artifactsOf (emitterItems c r e) := by
  have emission : (emissionItems c r).stopped = none := Trace.forEach_done.2 (emitModel_done.1 done)
  rw [artifacts_emitModel done, artifactsOf, emissionItems, Trace.items_forEach emission,
    List.filterMap_flatMap]
  rfl

theorem last_emitModel (done : (emitModel c r).stopped = none) :
    (emitModel c r).items.getLast? =
      some (.event (.generated (artifactsOf (emitModel c r)).length)) := by
  rw [artifacts_emitModel done, items_emitModel done, ← List.cons_append,
    List.getLast?_concat]

end emission

theorem resolveDocument_ok {c : Config} {d : SourceDocument} {r : ResolvedModel} :
    (resolveDocument c d).outcome = .ok r ↔
      ∃ root, parseDocument d = .ok root ∧ (readAndBind c root).outcome = .ok r := by
  rw [resolveDocument, Noted.outcome_bind_eq_ok]
  rfl

/-- A run that stopped with a fault before it made an artifact. -/
structure Refused (f : Fault) (x : Trace RunItem) : Prop where
  stopped : x.stopped = some f
  nothing : artifactsOf x = []

theorem runDocument_of_error {c : Config} {d : SourceDocument} {f : Fault}
    (failed : (resolveDocument c d).outcome = .error f) : Refused f (runDocument c d) := by
  have whole : runDocument c d = .one (.event .readingSections) ++
      ⟨(resolveDocument c d).notices.map .notice, some f⟩ := by
    rw [runDocument, Trace.after, failed]
  rw [whole, Trace.append_of_done _ rfl]
  refine ⟨rfl, ?_⟩
  simp [artifactsOf, Trace.items, Trace.one, RunItem.artifact?]

/-- A run over a document that resolves is what its model's emission makes of it. -/
structure Continues (x emission : Trace RunItem) : Prop where
  stopped : x.stopped = emission.stopped
  items : x.items = .event .readingSections :: emission.items

theorem Continues.artifacts {x emission : Trace RunItem} (continues : Continues x emission) :
    artifactsOf x = artifactsOf emission := by
  rw [artifactsOf, continues.items]
  rfl

theorem runDocument_of_ok {c : Config} {d : SourceDocument} {r : ResolvedModel}
    (resolved : (resolveDocument c d).outcome = .ok r) :
    Continues (runDocument c d) (emitModel c r) := by
  have whole : runDocument c d = .one (.event .readingSections) ++
      (⟨(resolveDocument c d).notices.map .notice, none⟩ ++ emitModel c r) := by
    rw [runDocument, Trace.after, resolved]
  rw [whole, Trace.append_of_done _ rfl, Trace.append_of_done _ rfl]
  refine ⟨rfl, ?_⟩
  simp [Trace.items, Trace.one, List.filterMap_map]

theorem resolved_of_completed {c : Config} {d : SourceDocument}
    (done : (runDocument c d).stopped = none) :
    ∃ r, (resolveDocument c d).outcome = .ok r ∧ (emitModel c r).stopped = none := by
  cases found : (resolveDocument c d).outcome with
  | error f => cases done.symm.trans (runDocument_of_error found).stopped
  | ok r => exact ⟨r, rfl, (runDocument_of_ok found).stopped.symm.trans done⟩

section documents

def SourceDocument.ofText (text : String) : SourceDocument := ⟨none, text.toUTF8.data.toList⟩

def SourceDocument.ofSections (storage conceptual mappings : String) : SourceDocument :=
  .ofText <|
    "<?xml version=\x221.0\x22 encoding=\x22iso-8859-1\x22?><Edmx><StorageModels><Schema>" ++
    storage ++ "</Schema></StorageModels><ConceptualModels><Schema>" ++ conceptual ++
    "</Schema></ConceptualModels><Mappings><Mapping><EntityContainerMapping>" ++ mappings ++
    "</EntityContainerMapping></Mapping></Mappings></Edmx>"

def boxDocument : SourceDocument :=
  .ofSections "<EntityType Name=\x22Boxes\x22/>" "<EntityType Name=\x22Box\x22/>"
    "<EntitySetMapping TypeName=\x22Box\x22 StoreEntitySet=\x22Boxes\x22/>"

end documents

end EntityScaffold
