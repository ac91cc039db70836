import EntityScaffold.Proofs.Emission.Registration
import EntityScaffold.Proofs.Runs
import Mathlib.Data.List.Nodup
import Mathlib.Data.List.Pairwise

/-!
Paths of a run's artifacts. They are made of buckets and fixed names, and only the configurations
of mappings are kept from repeating one. Everything else is apart where the buckets and names are.
-/
namespace EntityScaffold.Source.SourceUnit

def stem (c : Config) (u : SourceUnit) : String :=
  "/".intercalate ((u.pathParts c.unitNames).map Json.display)

theorem path_eq_stem {c : Config} {u : SourceUnit} {path : String} (found : u.path c = .ok path) :
    path = u.stem c ++ c.fileExtension.display := by
  simp only [SourceUnit.path, bind_ok, pure_ok, mapM_ok] at found
  obtain ⟨texts, parts, extension, extended, rfl⟩ := found
  have shown : texts = (u.pathParts c.unitNames).map Json.display := by
    rw [← List.map_id texts]
    exact (map_eq_of_related parts fun _ _ own => Emission.display_of_text own).symm
  rw [stem, shown, Emission.display_of_text extended]

theorem path_of_artifact {c : Config} {u : SourceUnit} {a : Artifact}
    (made : u.artifact c = .ok a) : a.path = u.stem c ++ c.fileExtension.display := by
  simp only [SourceUnit.artifact, bind_ok, pure_ok] at made
  obtain ⟨path, found, rfl⟩ := made
  exact path_eq_stem found

end EntityScaffold.Source.SourceUnit

namespace EntityScaffold.Emission
open Binding Source

/-- Where a class is, below the folder of its kind. -/
def spot (p : Place) : String := p.1 ++ "/" ++ p.2

def interfaceSpot (p : Place) : String := spot (p.1, "I" ++ p.2)

def fileIn (folder ending spot : String) : String := folder ++ (spot ++ ending)

def domainStem (p : Place) : String := fileIn "Domain/" "" (spot p)

def configurationStem (p : Place) : String := fileIn "Configuration/" "Configuration" (spot p)

def interfaceStem (p : Place) : String := fileIn "IRepositories/" "Repository" (interfaceSpot p)

def repositoryStem (p : Place) : String := fileIn "Repositories/" "Repository" (spot p)

/-- Where classes are written: of the entities in use and of the complex types that are returned. -/
def classPlaces (c : Config) (r : ResolvedModel) : List Place :=
  entityPlaces c r ++ complexPlaces c r

def stems (c : Config) (r : ResolvedModel) : Emitter → List String
  | .schemaConstants => [c.schemaClassName]
  | .domainModel => (classPlaces c r).map domainStem
  | .mappingConfiguration => (mappingPlaces c r ++ complexPlaces c r).map configurationStem
  | .context => [c.contextName]
  | .repository => (entityPlaces c r).flatMap fun p => [interfaceStem p, repositoryStem p]

section stems

variable {c : Config} {storage : StorageModel} {conceptual : ConceptualModel}
  {mappings : List Mapping} {links : List Link} {named : ModelPair} {r : ResolvedModel}

theorem stem_domainClass (d : DomainClass) :
    (SourceUnit.domainClass d).stem c = domainStem (d.bucket.display, d.className.display) := by
  simp [SourceUnit.stem, SourceUnit.pathParts, domainStem, fileIn, spot, Json.display,
    String.intercalate_cons_cons, String.append_assoc]

theorem stem_configuration (v : EntityConfiguration) {name : String}
    (named : v.className = configurationName name) :
    (SourceUnit.entityConfiguration v).stem c = configurationStem (v.bucket.display, name) := by
  simp [SourceUnit.stem, SourceUnit.pathParts, configurationStem, fileIn, spot, configurationName,
    Json.display, String.intercalate_cons_cons, String.append_assoc, named]

theorem stems_repository (u : Repository) :
    (repositoryUnits u).map (·.stem c) =
      [interfaceStem (u.bucket.display, u.entityName),
        repositoryStem (u.bucket.display, u.entityName)] := by
  simp [repositoryUnits, SourceUnit.stem, SourceUnit.pathParts, interfaceStem, repositoryStem,
    fileIn, interfaceSpot, spot, Repository.interfaceName, Repository.className, Json.display,
    String.intercalate_cons_cons, String.append_assoc]

theorem stems_domain
    (stages : Stages storage conceptual mappings links named r) (unused : Unused conceptual)
    {units : List SourceUnit} (ran : (emitDomain c r).Yields units) :
    units.map (·.stem c) = stems c r .domainModel := by
  obtain ⟨entities, complexes, entitiesMade, complexesMade, rfl⟩ := emitDomain_ok ran
  have own : (entityPlaces c r).map domainStem =
      entities.map fun d => (SourceUnit.domainClass d).stem c := by
    rw [entityPlaces_eq stages unused, List.map_map]
    refine map_eq_of_related (mapM_ok.1 entitiesMade) fun e d made => ?_
    obtain ⟨placed, className, _⟩ := entityClass_ok made
    rw [stem_domainClass, className, Function.comp_apply, bucketText_of_ok placed]
  have returned : (complexPlaces c r).map domainStem =
      complexes.map fun d => (SourceUnit.domainClass d).stem c := by
    rw [complexPlaces, List.map_map]
    refine map_eq_of_related (mapM_ok.1 complexesMade) fun t d made => ?_
    obtain ⟨bucket, className, _⟩ := complexClass_ok made
    rw [stem_domainClass, className, bucket, Function.comp_apply]
  rw [stems, classPlaces, List.map_append, List.map_append, own, returned, List.map_map,
    List.map_map]
  rfl

theorem stem_of_fragment {x : Mapping} {v : EntityConfiguration} {path : String}
    (made : fragment c r x = .ok (v, path)) :
    path = (SourceUnit.entityConfiguration v).stem c ++ c.fileExtension.display := by
  simp only [fragment, bind_ok, pure_ok, Prod.mk.injEq] at made
  obtain ⟨_, _, _, placed, rfl, rfl⟩ := made
  exact SourceUnit.path_eq_stem placed

theorem configurationPath_eq (p : Place) :
    configurationPath c p = configurationStem p ++ c.fileExtension.display := by
  simp [configurationPath, configurationStem, fileIn, spot, configurationName,
    String.intercalate_cons_cons, String.append_assoc]

theorem stems_configurations
    (stages : Stages storage conceptual mappings links named r)
    {units : List SourceUnit} (ran : (emitConfigurations c r).Yields units) :
    units.map (·.stem c) = stems c r .mappingConfiguration := by
  obtain ⟨fragments, made, rfl⟩ := emitConfigurations_ok ran
  have mapped : (mappingPlaces c r).map configurationStem =
      (firstOfPath [] fragments).map fun v => (SourceUnit.entityConfiguration v).stem c := by
    refine map_eq_of_related (mappingPlaces_forall stages made ?_) fun p v own => own
    intro x t v path resolved own
    obtain ⟨_, _, placed⟩ := fragment_ok resolved own
    rw [stem_of_fragment own, configurationPath_eq, String.append_left_inj] at placed
    exact placed.symm
  have returned : (complexPlaces c r).map configurationStem =
      r.returnedComplexTypes.map fun t =>
        (SourceUnit.entityConfiguration (complexConfiguration c t)).stem c := by
    rw [complexPlaces, List.map_map]
    refine List.map_congr_left fun t _ => ?_
    exact (stem_configuration (complexConfiguration c t) rfl).symm
  rw [stems, List.map_append, List.map_append, mapped, returned, List.map_map, List.map_map]
  rfl

theorem stems_repositories
    (stages : Stages storage conceptual mappings links named r) (unused : Unused conceptual)
    {units : List SourceUnit} (ran : (emitRepositories c r).Yields units) :
    units.map (·.stem c) = stems c r .repository := by
  obtain ⟨repositories, made, rfl⟩ := emitRepositories_ok ran
  have places : entityPlaces c r =
      repositories.map fun u => (u.bucket.display, u.entityName) := by
    rw [entityPlaces_eq stages unused]
    refine map_eq_of_related (mapM_ok.1 made) fun e u own => ?_
    obtain ⟨bucket, placed, rfl⟩ := repositoryOf_ok own
    rw [bucketText_of_ok placed]
  rw [stems, places, List.flatMap_map, List.map_flatMap]
  simp only [stems_repository]

theorem stems_of_units
    (stages : Stages storage conceptual mappings links named r) (unused : Unused conceptual)
    {e : Emitter} {units : List SourceUnit} (ran : (e.units c r).Yields units) :
    units.map (·.stem c) = stems c r e := by
  cases e with
  | schemaConstants =>
    obtain ⟨_, made, rfl⟩ := Trace.yields_ofExcept.1 ran
    obtain ⟨_, _, rfl⟩ := map_ok.1 made
    rfl
  | domainModel => exact stems_domain stages unused ran
  | mappingConfiguration => exact stems_configurations stages ran
  | context =>
    obtain ⟨_, _, rfl⟩ := emitContext_ok ran
    rfl
  | repository => exact stems_repositories stages unused ran

theorem paths_emitModel
    (stages : Stages storage conceptual mappings links named r) (unused : Unused conceptual)
    (done : (emitModel c r).stopped = none) :
    (artifactsOf (emitModel c r)).map (·.path) =
      ((enabledEmitters c).flatMap (stems c r)).map (· ++ c.fileExtension.display) := by
  obtain ⟨each, walked⟩ := emitModel_ok done
  have units : (runUnits c r).map (·.stem c) = (enabledEmitters c).flatMap (stems c r) := by
    rw [runUnits, List.map_flatMap]
    refine List.flatMap_congr fun e enabled => ?_
    exact stems_of_units stages unused (Trace.yields_of_done (each e enabled))
  rw [← units, List.map_map]
  exact (map_eq_of_related (mapM_ok.1 walked) fun u a made =>
    (SourceUnit.path_of_artifact made).symm).symm

end stems

section apart

/-! Paths of different kinds begin with different folders. Only a context can be where a domain
class is, if its model is named like a path. -/

variable {c : Config} {r : ResolvedModel}

/-- What the paths of an emitter begin with. A context is named after its model, by any text. -/
def openings : Emitter → List Char
  | .schemaConstants => ['S']
  | .domainModel => ['D']
  | .mappingConfiguration => ['C']
  | .context => []
  | .repository => ['I', 'R']

theorem opening_of_stem {e : Emitter} (named : e ≠ .context) {s : String}
    (listed : s ∈ stems c r e) : ∃ a ∈ openings e, s.toList.head? = some a := by
  cases e with
  | schemaConstants =>
    rw [List.mem_singleton.1 listed, Config.schemaClassName]
    simp [openings]
  | domainModel =>
    obtain ⟨p, _, rfl⟩ := List.mem_map.1 listed
    simp [openings, domainStem, fileIn]
  | mappingConfiguration =>
    obtain ⟨p, _, rfl⟩ := List.mem_map.1 listed
    simp [openings, configurationStem, fileIn]
  | context => exact absurd rfl named
  | repository =>
    obtain ⟨p, _, own⟩ := List.mem_flatMap.1 listed
    rcases List.mem_pair.1 own with rfl | rfl
    · simp [openings, interfaceStem, fileIn]
    · simp [openings, repositoryStem, fileIn]

theorem stems_disjoint {a b : Emitter} (different : a ≠ b) (first : a ≠ .context)
    (second : b ≠ .context) : (stems c r a).Disjoint (stems c r b) := by
  have openingsApart : ∀ x ∈ openings a, x ∉ openings b := by
    cases a <;> cases b <;> first | exact absurd rfl different | simp [openings]
  intro s left right
  obtain ⟨x, inFirst, head⟩ := opening_of_stem first left
  obtain ⟨y, inSecond, headToo⟩ := opening_of_stem second right
  cases head.symm.trans headToo
  exact openingsApart x inFirst inSecond

theorem last_of_append (s : String) {t : String} (filled : t.toList ≠ []) :
    (s ++ t).toList.getLast? = t.toList.getLast? := by
  rw [String.toList_append, List.getLast?_append_of_ne_nil _ filled]

theorem ne_of_endings {s t u v : String} (filled : t.toList ≠ []) (filledToo : v.toList ≠ [])
    (endings : t.toList.getLast? ≠ v.toList.getLast?) : s ++ t ≠ u ++ v := by
  intro same
  have last := congrArg (·.toList.getLast?) same
  simp only [last_of_append s filled, last_of_append u filledToo] at last
  exact endings last

theorem contextName_apart {e : Emitter} (named : e ≠ .context) (other : e ≠ .domainModel) :
    c.contextName ∉ stems c r e := by
  intro listed
  cases e with
  | schemaConstants =>
    have lengths := congrArg String.length (List.mem_singleton.1 listed)
    rw [Config.contextName, Config.schemaClassName, String.length_append, String.length_append,
      show "Context".length = 7 by decide, show "SchemaName".length = 10 by decide] at lengths
    omega
  | domainModel => exact other rfl
  | mappingConfiguration =>
    obtain ⟨p, _, same⟩ := List.mem_map.1 listed
    rw [configurationStem, fileIn, ← String.append_assoc, Config.contextName] at same
    exact ne_of_endings (by decide) (by decide) (by decide) same
  | context => exact named rfl
  | repository =>
    obtain ⟨p, _, own⟩ := List.mem_flatMap.1 listed
    simp only [List.mem_pair, interfaceStem, repositoryStem, fileIn, ← String.append_assoc,
      Config.contextName] at own
    rcases own with same | same <;>
      exact ne_of_endings (by decide) (by decide) (by decide) same

end apart

section distinct

variable {c : Config} {r : ResolvedModel}

theorem fileIn_injective (folder ending : String) : Function.Injective (fileIn folder ending) := by
  intro s t same
  rwa [fileIn, fileIn, String.append_right_inj, String.append_left_inj] at same

theorem nodup_map_fileIn (folder ending : String) {spotOf : Place → String} {ps : List Place} :
    (ps.map fun p => fileIn folder ending (spotOf p)).Nodup ↔ (ps.map spotOf).Nodup := by
  have twice : (ps.map fun p => fileIn folder ending (spotOf p)) =
      (ps.map spotOf).map (fileIn folder ending) := by
    rw [List.map_map]
    rfl
  rw [twice, List.nodup_map_iff (fileIn_injective folder ending)]

theorem nodup_firstOfPath {α : Type} (path : α → String) (emitted : List String) (as : List α) :
    ((firstOfPath emitted (as.map fun a => (a, path a))).map path).Nodup ∧
      ∀ a ∈ firstOfPath emitted (as.map fun a => (a, path a)), path a ∉ emitted := by
  induction as generalizing emitted with
  | nil => exact ⟨List.nodup_nil, fun _ kept => absurd kept List.not_mem_nil⟩
  | cons a rest ih =>
    rw [List.map_cons, firstOfPath]
    split
    · exact ih emitted
    · rename_i new
      obtain ⟨distinct, others⟩ := ih (path a :: emitted)
      constructor
      · rw [List.map_cons, List.nodup_cons]
        refine ⟨fun repeated => ?_, distinct⟩
        obtain ⟨b, kept, same⟩ := List.mem_map.1 repeated
        exact others b kept (same ▸ List.mem_cons_self ..)
      · intro b kept
        rcases List.mem_cons.1 kept with rfl | later
        · exact new
        · exact fun before => others b later (List.mem_cons_of_mem _ before)

theorem configurationPath_inj {p q : Place} :
    configurationPath c p = configurationPath c q ↔ spot p = spot q := by
  rw [configurationPath_eq, configurationPath_eq, String.append_left_inj, configurationStem,
    configurationStem, (fileIn_injective _ _).eq_iff]

theorem nodup_mappingPlaces : ((mappingPlaces c r).map spot).Nodup := by
  have distinct := (nodup_firstOfPath (configurationPath c) [] (fragmentPlaces c r)).1
  rw [List.nodup_iff_pairwise_ne, List.pairwise_map] at distinct ⊢
  exact distinct.imp fun apart same => apart (configurationPath_inj.2 same)

/-- Mappings are written to the same spots with and without those that are left out. -/
theorem mem_spots_mappingPlaces {s : String} :
    s ∈ (mappingPlaces c r).map spot ↔ s ∈ (fragmentPlaces c r).map spot := by
  simp only [List.mem_map]
  constructor
  · rintro ⟨p, kept, rfl⟩
    obtain ⟨_, made⟩ := mem_of_firstOfPath kept
    obtain ⟨q, listed, same⟩ := List.mem_map.1 made
    obtain ⟨rfl, _⟩ := Prod.mk.inj same
    exact ⟨q, listed, rfl⟩
  · rintro ⟨p, listed, rfl⟩
    have made : (p, configurationPath c p) ∈
        (fragmentPlaces c r).map fun p => (p, configurationPath c p) :=
      List.mem_map_of_mem listed
    obtain ⟨q, kept, placed⟩ := kept_of_mem made List.not_mem_nil
    obtain ⟨_, _, pair⟩ := List.mem_map.1 placed
    obtain ⟨rfl, path⟩ := Prod.mk.inj pair
    exact ⟨_, kept, configurationPath_inj.1 path⟩

/-- Entities in use and returned complex types have spots of their own. -/
def ClassesApart (c : Config) (r : ResolvedModel) : Prop := ((classPlaces c r).map spot).Nodup

/-- Returned complex types have spots of their own, where no mapping leads. -/
def ConfigurationsApart (c : Config) (r : ResolvedModel) : Prop :=
  ((complexPlaces c r).map spot).Nodup ∧
    ∀ p ∈ fragmentPlaces c r, spot p ∉ (complexPlaces c r).map spot

/-- Entities in use have spots of their own, and so have their interfaces. -/
def RepositoriesApart (c : Config) (r : ResolvedModel) : Prop :=
  ((entityPlaces c r).map spot).Nodup ∧ ((entityPlaces c r).map interfaceSpot).Nodup

def ContextApart (c : Config) (r : ResolvedModel) : Prop :=
  ∀ p ∈ classPlaces c r, domainStem p ≠ c.contextName

instance (c : Config) (r : ResolvedModel) : Decidable (ClassesApart c r) :=
  inferInstanceAs (Decidable (List.Nodup _))

instance (c : Config) (r : ResolvedModel) : Decidable (ConfigurationsApart c r) :=
  inferInstanceAs (Decidable (_ ∧ _))

instance (c : Config) (r : ResolvedModel) : Decidable (RepositoriesApart c r) :=
  inferInstanceAs (Decidable (_ ∧ _))

instance (c : Config) (r : ResolvedModel) : Decidable (ContextApart c r) :=
  inferInstanceAs (Decidable (∀ _ ∈ _, _))

/-- The places of a model are apart as far as the kinds asked for go. -/
structure PathsApart (c : Config) (r : ResolvedModel) : Prop where
  classes : c.emitDomainModels = true → ClassesApart c r
  configurations : c.emitMappingConfiguration = true → ConfigurationsApart c r
  repositories : c.emitRepositories = true → RepositoriesApart c r
  context : c.emitDomainModels = true → c.emitContext = true → ContextApart c r

instance (c : Config) (r : ResolvedModel) : Decidable (PathsApart c r) :=
  decidable_of_iff
    ((c.emitDomainModels = true → ClassesApart c r) ∧
      (c.emitMappingConfiguration = true → ConfigurationsApart c r) ∧
      (c.emitRepositories = true → RepositoriesApart c r) ∧
      (c.emitDomainModels = true → c.emitContext = true → ContextApart c r))
    ⟨fun h => ⟨h.1, h.2.1, h.2.2.1, h.2.2.2⟩, fun h => ⟨h.1, h.2, h.3, h.4⟩⟩

theorem nodup_domain : (stems c r .domainModel).Nodup ↔ ClassesApart c r :=
  nodup_map_fileIn "Domain/" ""

theorem nodup_configurations :
    (stems c r .mappingConfiguration).Nodup ↔ ConfigurationsApart c r := by
  have spots : (stems c r .mappingConfiguration).Nodup ↔
      ((mappingPlaces c r ++ complexPlaces c r).map spot).Nodup :=
    nodup_map_fileIn "Configuration/" "Configuration"
  rw [spots, List.map_append, List.nodup_append', and_iff_right nodup_mappingPlaces,
    ConfigurationsApart, List.disjoint_left]
  simp only [mem_spots_mappingPlaces, List.forall_mem_map]

theorem nodup_repositories : (stems c r .repository).Nodup ↔ RepositoriesApart c r := by
  have pairs : (stems c r .repository).Perm
      ((entityPlaces c r).map interfaceStem ++ (entityPlaces c r).map repositoryStem) := by
    rw [List.map_eq_flatMap, List.map_eq_flatMap]
    exact (List.flatMap_append_perm (entityPlaces c r) (fun p => [interfaceStem p])
      fun p => [repositoryStem p]).symm
  have apart : ((entityPlaces c r).map interfaceStem).Disjoint
      ((entityPlaces c r).map repositoryStem) := by
    intro s left right
    obtain ⟨p, _, rfl⟩ := List.mem_map.1 left
    obtain ⟨q, _, same⟩ := List.mem_map.1 right
    have heads := congrArg (·.toList.head?) same
    simp [interfaceStem, repositoryStem, fileIn] at heads
  rw [pairs.nodup_iff, List.nodup_append', and_iff_left apart, RepositoriesApart, and_comm]
  exact and_congr (nodup_map_fileIn _ _) (nodup_map_fileIn _ _)

theorem nodup_stems (apart : PathsApart c r) {e : Emitter} (enabled : e ∈ enabledEmitters c) :
    (stems c r e).Nodup := by
  have asked := mem_enabledEmitters.1 enabled
  cases e with
  | schemaConstants => exact List.nodup_singleton _
  | domainModel => exact nodup_domain.2 (apart.classes asked)
  | mappingConfiguration => exact nodup_configurations.2 (apart.configurations asked)
  | context => exact List.nodup_singleton _
  | repository => exact nodup_repositories.2 (apart.repositories asked)

theorem contextApart_iff :
    ContextApart c r ↔ (stems c r .context).Disjoint (stems c r .domainModel) := by
  show _ ↔ [c.contextName].Disjoint ((classPlaces c r).map domainStem)
  rw [List.singleton_disjoint, List.mem_map, ContextApart]
  simp only [not_exists, not_and]

theorem stems_apart {a b : Emitter} (different : a ≠ b)
    (context : a = .context → b = .domainModel → ContextApart c r)
    (contextToo : b = .context → a = .domainModel → ContextApart c r) :
    (stems c r a).Disjoint (stems c r b) := by
  have other {e : Emitter} (named : e ≠ .context)
      (own : e = .domainModel → ContextApart c r) :
      (stems c r .context).Disjoint (stems c r e) := by
    by_cases domain : e = .domainModel
    · rw [domain]
      exact contextApart_iff.1 (own domain)
    · exact List.singleton_disjoint.2 (contextName_apart named domain)
  by_cases first : a = .context
  · subst first
    exact other different.symm (context rfl)
  · by_cases second : b = .context
    · subst second
      exact List.disjoint_symm (other different (contextToo rfl))
    · exact stems_disjoint different first second

theorem nodup_enabledEmitters (c : Config) : (enabledEmitters c).Nodup := by
  rw [enabledEmitters_eq]
  exact List.Nodup.filter _ (by decide)

/-- The paths of all emitters are distinct exactly when the places of the model are apart. -/
theorem nodup_stems_iff :
    ((enabledEmitters c).flatMap (stems c r)).Nodup ↔ PathsApart c r := by
  rw [List.nodup_flatMap]
  constructor
  · rintro ⟨each, pairs⟩
    have enabled {e : Emitter} (asked : c.asksFor e.kind = true) : e ∈ enabledEmitters c :=
      mem_enabledEmitters.2 asked
    refine ⟨fun asked => ?_, fun asked => ?_, fun asked => ?_, fun asked askedToo => ?_⟩
    · exact nodup_domain.1 (each .domainModel (enabled asked))
    · exact nodup_configurations.1 (each .mappingConfiguration (enabled asked))
    · exact nodup_repositories.1 (each .repository (enabled asked))
    · have symmetric : Std.Symm (Function.onFun List.Disjoint (stems c r)) :=
        ⟨fun _ _ apart => List.disjoint_symm apart⟩
      exact contextApart_iff.2
        (pairs.forall (enabled (e := .context) askedToo) (enabled (e := .domainModel) asked)
          (by decide))
  · intro apart
    refine ⟨fun e enabled => nodup_stems apart enabled, ?_⟩
    refine (nodup_enabledEmitters c).pairwise_of_forall_ne fun a first b second different => ?_
    have asked := mem_enabledEmitters.1 first
    have askedToo := mem_enabledEmitters.1 second
    refine stems_apart different ?_ ?_
    · rintro rfl rfl
      exact apart.context askedToo asked
    · rintro rfl rfl
      exact apart.context asked askedToo

end distinct

/-- The paths of a run that came to its end are pairwise distinct exactly when the places of its
model are apart, as far as the kinds asked for go. -/
theorem paths_distinct_iff {c : Config} {d : SourceDocument}
    (done : (runDocument c d).stopped = none) :
    ∃ r, (resolveDocument c d).outcome = .ok r ∧
      (((artifactsOf (runDocument c d)).map (·.path)).Nodup ↔ PathsApart c r) := by
  obtain ⟨r, resolved, completed⟩ := resolved_of_completed done
  obtain ⟨root, _, bound⟩ := resolveDocument_ok.1 resolved
  obtain ⟨_, _, _, _, _, _, _, _, _, model⟩ := readAndBind_ok bound
  refine ⟨r, resolved, ?_⟩
  have extension : Function.Injective (· ++ c.fileExtension.display) := fun _ _ same =>
    (String.append_left_inj _).1 same
  rw [(runDocument_of_ok resolved).artifacts,
    paths_emitModel model.stages model.unused completed, List.nodup_map_iff extension,
    nodup_stems_iff]

section items

set_option maxRecDepth 100000 in
theorem boxes_apart :
    ∃ r, (resolveDocument (.ofSettings .defaults) boxDocument).outcome = .ok r ∧
      (emitModel (.ofSettings .defaults) r).stopped = none ∧ PathsApart (.ofSettings .defaults) r :=
  ok_of_any (by decide +kernel)

theorem box_paths_distinct :
    (runDocument (.ofSettings .defaults) boxDocument).stopped = none ∧
      ((artifactsOf (runDocument (.ofSettings .defaults) boxDocument)).map (·.path)).Nodup := by
  obtain ⟨r, resolved, completed, apart⟩ := boxes_apart
  have done : (runDocument (.ofSettings .defaults) boxDocument).stopped = none :=
    (runDocument_of_ok resolved).stopped.trans completed
  obtain ⟨s, resolvedToo, distinct⟩ := paths_distinct_iff done
  cases resolved.symm.trans resolvedToo
  exact ⟨done, distinct.2 apart⟩

def itemDocument : SourceDocument :=
  .ofSections "<EntityType Name=\x22A\x22/><EntityType Name=\x22B\x22/>"
    ("<EntityType Name=\x22OrderItem\x22/><EntityType Name=\x22Order_Item\x22>" ++
      "<Property Name=\x22Id\x22 Type=\x22Int32\x22/></EntityType>")
    ("<EntitySetMapping TypeName=\x22OrderItem\x22 StoreEntitySet=\x22A\x22/>" ++
      "<EntitySetMapping TypeName=\x22Order_Item\x22 StoreEntitySet=\x22B\x22/>")

def domainOnly : Config :=
  { Config.ofSettings .defaults with
    emitContext := false
    emitRepositories := false
    emitMappingConfiguration := false }

set_option maxRecDepth 100000 in
theorem items_emitted :
    ∃ r, (resolveDocument domainOnly itemDocument).outcome = .ok r ∧
      (emitModel domainOnly r).stopped = none ∧
      (artifactsOf (emitModel domainOnly r)).map (·.path) =
        ["SchemaNameAppDb.cs", "Domain/General/OrderItem.cs", "Domain/General/OrderItem.cs"] :=
  ok_of_any (by decide +kernel)

/-- The classes of two entities are written to one path, and one of them is lost. -/
theorem items_on_one_path :
    (runDocument domainOnly itemDocument).stopped = none ∧
      (artifactsOf (runDocument domainOnly itemDocument)).map (·.path) =
        ["SchemaNameAppDb.cs", "Domain/General/OrderItem.cs", "Domain/General/OrderItem.cs"] ∧
      ¬((artifactsOf (runDocument domainOnly itemDocument)).map (·.path)).Nodup := by
  obtain ⟨r, resolved, completed, paths⟩ := items_emitted
  have whole := runDocument_of_ok resolved
  rw [whole.stopped, whole.artifacts, paths]
  exact ⟨completed, rfl, by decide⟩

end items

end EntityScaffold.Emission
