import EntityScaffold.Proofs.Emission.Paths
import EntityScaffold.Proofs.Emission.SchemaConstants
import EntityScaffold.Proofs.Files.Places

/-!
Paths that stay below the destination. The bucket and the fixed name of a place become parts of a
path as they are, so a run keeps below its destination exactly when those parts name something.
-/
namespace EntityScaffold.Emission
open Binding EntityScaffold.Path Source

section units

/-! Every artifact of a run, also of one that stopped, is where one of the model's places says. -/

variable {c : Config} {storage : StorageModel} {conceptual : ConceptualModel}
  {mappings : List Mapping} {links : List Link} {named : ModelPair} {r : ResolvedModel}

theorem mem_entityPlaces_of_used (stages : Stages storage conceptual mappings links named r)
    (unused : Unused conceptual) {entities : List Entity} (ordered : r.orderedEntities = .ok entities)
    {e : Entity} (member : e ∈ entities) {bucket : Label} (placed : c.bucket e.schema = .ok bucket) :
    (bucket.display, e.fixedName.display) ∈ entityPlaces c r := by
  rw [orderedEntities_ok ordered] at member
  rw [entityPlaces_eq stages unused, ← bucketText_of_ok placed]
  exact List.mem_map_of_mem (f := fun e => (bucketText c e.schema, e.fixedName.display)) member

theorem stem_of_domainUnit (stages : Stages storage conceptual mappings links named r)
    (unused : Unused conceptual) {u : SourceUnit} (made : u ∈ (emitDomain c r).items) :
    u.stem c ∈ stems c r .domainModel := by
  rcases Trace.mem_items_append made with inUse | returned
  · obtain ⟨entities, ordered, inUse⟩ := Trace.mem_items_after inUse
    obtain ⟨e, member, made⟩ := Trace.mem_items_forEach inUse
    obtain ⟨d, own, rfl⟩ := map_ok.1 (Trace.mem_items_ofExcept made)
    obtain ⟨placed, className, _⟩ := entityClass_ok own
    rw [stem_domainClass, className]
    exact List.mem_map_of_mem
      (List.mem_append_left _ (mem_entityPlaces_of_used stages unused ordered member placed))
  · obtain ⟨t, member, made⟩ := Trace.mem_items_forEach returned
    obtain ⟨d, own, rfl⟩ := map_ok.1 (Trace.mem_items_ofExcept made)
    obtain ⟨bucket, className, _⟩ := complexClass_ok own
    rw [stem_domainClass, className, bucket]
    exact List.mem_map_of_mem (List.mem_append_right _ (List.mem_map_of_mem
      (f := fun t : ComplexType => (c.defaultBucket.display, t.fixedName.display)) member))

theorem stem_of_configurationUnit (stages : Stages storage conceptual mappings links named r)
    {u : SourceUnit} (made : u ∈ (emitConfigurations c r).items) :
    u.stem c ∈ stems c r .mappingConfiguration := by
  rcases Trace.mem_items_append made with mapped | returned
  · obtain ⟨x, member, path, own⟩ := mem_items_emitMappings mapped
    obtain ⟨v, configured, rfl⟩ := mappingUnit_ok own
    obtain ⟨t, e, resolved, last, named⟩ := stages.entityName_of_last member
    obtain ⟨_, _, placed⟩ := fragment_ok resolved configured
    rw [stem_of_fragment configured, configurationPath_eq, String.append_left_inj, named] at placed
    have listed : placeAt c t e ∈ fragmentPlaces c r :=
      List.mem_filterMap.2 ⟨x, member, by rw [resolved, Option.bind_some, last]; rfl⟩
    obtain ⟨p, kept, same⟩ :=
      List.mem_map.1 (mem_spots_mappingPlaces.2 (List.mem_map_of_mem (f := spot) listed))
    refine List.mem_map.2 ⟨p, List.mem_append_left _ kept, ?_⟩
    rw [placed, configurationStem, same]
    rfl
  · obtain ⟨t, member, made⟩ := Trace.mem_items_forEach returned
    rw [Trace.mem_items_one made, stem_configuration (complexConfiguration c t) rfl]
    exact List.mem_map_of_mem (List.mem_append_right _ (List.mem_map_of_mem
      (f := fun t : ComplexType => (c.defaultBucket.display, t.fixedName.display)) member))

theorem stem_of_repositoryUnit (stages : Stages storage conceptual mappings links named r)
    (unused : Unused conceptual) {u : SourceUnit} (made : u ∈ (emitRepositories c r).items) :
    u.stem c ∈ stems c r .repository := by
  obtain ⟨entities, ordered, made⟩ := Trace.mem_items_after made
  obtain ⟨e, member, made⟩ := Trace.mem_items_forEach made
  obtain ⟨v, own, made⟩ := Trace.mem_items_after made
  obtain ⟨bucket, placed, rfl⟩ := repositoryOf_ok own
  have listed := mem_entityPlaces_of_used stages unused ordered member placed
  have either : u ∈ repositoryUnits ⟨bucket, e.fixedName.display,
      domainType bucket.display e.fixedName.display⟩ := by
    rcases Trace.mem_items_append made with interface | own
    · simp [repositoryUnits, Trace.mem_items_one interface]
    · simp [repositoryUnits, Trace.mem_items_one own]
  have written := List.mem_map_of_mem (f := (·.stem c)) either
  rw [stems_repository] at written
  exact List.mem_flatMap.2 ⟨_, listed, written⟩

theorem stem_of_unit (stages : Stages storage conceptual mappings links named r)
    (unused : Unused conceptual) {e : Emitter} {u : SourceUnit} (made : u ∈ (e.units c r).items) :
    u.stem c ∈ stems c r e := by
  cases e with
  | schemaConstants =>
    obtain ⟨_, _, rfl⟩ := map_ok.1 (Trace.mem_items_ofExcept made)
    exact List.mem_singleton.2 rfl
  | domainModel => exact stem_of_domainUnit stages unused made
  | mappingConfiguration => exact stem_of_configurationUnit stages made
  | context =>
    obtain ⟨_, _, same⟩ := Noted.outcome_bind_eq_ok.1 (Trace.mem_items_ofNoted made)
    cases Noted.outcome_pure_ok.1 same
    exact List.mem_singleton.2 rfl
  | repository => exact stem_of_repositoryUnit stages unused made

theorem unit_of_artifact {a : Artifact} (made : a ∈ artifactsOf (emitModel c r)) :
    ∃ e ∈ enabledEmitters c, ∃ u ∈ (e.units c r).items, u.artifact c = .ok a := by
  obtain ⟨item, listed, own⟩ := List.mem_filterMap.1 made
  cases item with
  | event _ => cases own
  | artifact b =>
    cases own
    rcases Trace.mem_items_append listed with front | final
    · rcases Trace.mem_items_append front with first | emission
      · cases Trace.mem_items_one first
      · obtain ⟨e, enabled, listed⟩ := Trace.mem_items_forEach emission
        rcases Trace.mem_items_append listed with first | artifacts
        · cases Trace.mem_items_one first
        · obtain ⟨b, found, same⟩ := Trace.mem_items_map artifacts
          cases same
          obtain ⟨u, written, own⟩ := Trace.mem_items_tryMap found
          exact ⟨e, enabled, u, written, own⟩
    · cases Trace.mem_items_one final

end units

section parts

/-- A place below the folder of its kind: the parts of its bucket, and the folders in its name, name
something. The last part of the name becomes the file, whatever it is. -/
def IsInside (p : Place) : Prop :=
  (∀ part ∈ splitParts p.1.toList, NamesEntry part) ∧
    ∀ part ∈ (splitParts p.2.toList).dropLast, NamesEntry part

instance (p : Place) : Decidable (IsInside p) := inferInstanceAs (Decidable (_ ∧ _))

theorem namesEntry_of_long {part : List Char} (long : 2 < part.length) : NamesEntry part := by
  refine ⟨?_, ?_, ?_⟩ <;> rintro rfl <;> simp at long

theorem staysBelow_file {folder ending : String} (p : Place) (named : NamesEntry folder.toList)
    (whole : '/' ∉ folder.toList) (wholeToo : '/' ∉ ending.toList) (long : 2 < ending.length) :
    StaysBelow (folder ++ "/" ++ spot p ++ ending) ↔ IsInside p := by
  obtain ⟨last, split⟩ := splitParts_ending p.2.toList wholeToo
  have parts : splitParts (folder ++ "/" ++ spot p ++ ending).toList =
      folder.toList :: (splitParts p.1.toList ++
        ((splitParts p.2.toList).dropLast ++ [last ++ ending.toList])) := by
    have chars : (folder ++ "/" ++ spot p ++ ending).toList =
        folder.toList ++ '/' :: (p.1.toList ++ '/' :: (p.2.toList ++ ending.toList)) := by
      simp [spot]
    rw [chars, splitParts_slash, splitParts_slash, splitParts_of_not_mem whole, split]
    rfl
  have file : NamesEntry (last ++ ending.toList) := namesEntry_of_long <| by
    rw [List.length_append, String.length_toList]
    omega
  rw [StaysBelow, parts]
  simp only [List.mem_cons, List.mem_append, List.not_mem_nil, or_false, or_imp, forall_and,
    forall_eq, named, file, true_and, and_true]
  rfl

theorem staysBelow_alone {name ending : String} (whole : '/' ∉ (name ++ ending).toList)
    (long : 2 < ending.length) : StaysBelow (name ++ ending) := by
  intro part member
  rw [splitParts_of_not_mem whole, List.mem_singleton] at member
  refine namesEntry_of_long ?_
  rw [member, String.length_toList, String.length_append]
  omega

theorem isInside_interface {p : Place} (inside : IsInside p) : IsInside (p.1, "I" ++ p.2) := by
  refine ⟨inside.1, fun part member => ?_⟩
  obtain ⟨first, others, split⟩ := List.exists_cons_of_ne_nil (splitParts_ne_nil p.2.toList)
  have initial : splitParts ("I" ++ p.2).toList = ('I' :: first) :: others := by
    rw [String.toList_append]
    exact splitParts_cons_of_ne (by decide) split
  have folders := inside.2
  rw [split] at folders
  rw [initial] at member
  cases others with
  | nil => cases member
  | cons next rest =>
    rw [List.dropLast_cons_cons] at member folders
    rcases List.mem_cons.1 member with rfl | later
    · exact ⟨by simp, by simp, by simp⟩
    · exact folders part (List.mem_cons_of_mem first later)

end parts

section places

variable {c : Config} {r : ResolvedModel}

/-- The places of a model are inside their folders, as far as the kinds asked for go. -/
structure PlacesInside (c : Config) (r : ResolvedModel) : Prop where
  classes : c.emitDomainModels = true → ∀ p ∈ classPlaces c r, IsInside p
  configurations : c.emitMappingConfiguration = true →
    ∀ p ∈ mappingPlaces c r ++ complexPlaces c r, IsInside p
  repositories : c.emitRepositories = true → ∀ p ∈ entityPlaces c r, IsInside p

instance (c : Config) (r : ResolvedModel) : Decidable (PlacesInside c r) :=
  decidable_of_iff
    ((c.emitDomainModels = true → ∀ p ∈ classPlaces c r, IsInside p) ∧
      (c.emitMappingConfiguration = true →
        ∀ p ∈ mappingPlaces c r ++ complexPlaces c r, IsInside p) ∧
      (c.emitRepositories = true → ∀ p ∈ entityPlaces c r, IsInside p))
    ⟨fun h => ⟨h.1, h.2.1, h.2.2⟩, fun h => ⟨h.1, h.2, h.3⟩⟩

def codeExtension : String := ".cs"

theorem domainStem_below (p : Place) : StaysBelow (domainStem p ++ codeExtension) ↔ IsInside p := by
  have path : domainStem p ++ codeExtension = "Domain" ++ "/" ++ spot p ++ codeExtension := by
    simp [domainStem, fileIn, String.append_assoc]
  rw [path]
  exact staysBelow_file p (by decide) (by decide) (by decide) (by decide)

theorem configurationStem_below (p : Place) :
    StaysBelow (configurationStem p ++ codeExtension) ↔ IsInside p := by
  have path : configurationStem p ++ codeExtension =
      "Configuration" ++ "/" ++ spot p ++ ("Configuration" ++ codeExtension) := by
    simp [configurationStem, fileIn, String.append_assoc]
  rw [path]
  exact staysBelow_file p (by decide) (by decide) (by decide) (by decide)

theorem repositoryStem_below (p : Place) :
    StaysBelow (repositoryStem p ++ codeExtension) ↔ IsInside p := by
  have path : repositoryStem p ++ codeExtension =
      "Repositories" ++ "/" ++ spot p ++ ("Repository" ++ codeExtension) := by
    simp [repositoryStem, fileIn, String.append_assoc]
  rw [path]
  exact staysBelow_file p (by decide) (by decide) (by decide) (by decide)

theorem interfaceStem_below (p : Place) :
    StaysBelow (interfaceStem p ++ codeExtension) ↔ IsInside (p.1, "I" ++ p.2) := by
  have path : interfaceStem p ++ codeExtension =
      "IRepositories" ++ "/" ++ spot (p.1, "I" ++ p.2) ++ ("Repository" ++ codeExtension) := by
    simp [interfaceStem, interfaceSpot, fileIn, String.append_assoc]
  rw [path]
  exact staysBelow_file _ (by decide) (by decide) (by decide) (by decide)

theorem placesInside_iff (model : c.modelName = "AppDb") :
    PlacesInside c r ↔
      ∀ e ∈ enabledEmitters c, ∀ s ∈ stems c r e, StaysBelow (s ++ codeExtension) := by
  simp only [mem_enabledEmitters]
  constructor
  · intro inside e asked s listed
    cases e with
    | schemaConstants =>
      rw [List.mem_singleton.1 listed, Config.schemaClassName, model]
      exact staysBelow_alone (by decide) (by decide)
    | domainModel =>
      obtain ⟨p, member, rfl⟩ := List.mem_map.1 listed
      exact (domainStem_below p).2 (inside.classes asked p member)
    | mappingConfiguration =>
      obtain ⟨p, member, rfl⟩ := List.mem_map.1 listed
      exact (configurationStem_below p).2 (inside.configurations asked p member)
    | context =>
      rw [List.mem_singleton.1 listed, Config.contextName, model]
      exact staysBelow_alone (by decide) (by decide)
    | repository =>
      obtain ⟨p, member, either⟩ := List.mem_flatMap.1 listed
      have own := inside.repositories asked p member
      rcases List.mem_pair.1 either with rfl | rfl
      · exact (interfaceStem_below p).2 (isInside_interface own)
      · exact (repositoryStem_below p).2 own
  · intro below
    refine ⟨fun asked p member => ?_, fun asked p member => ?_, fun asked p member => ?_⟩
    · exact (domainStem_below p).1 (below .domainModel asked _ (List.mem_map_of_mem member))
    · exact (configurationStem_below p).1
        (below .mappingConfiguration asked _ (List.mem_map_of_mem member))
    · exact (repositoryStem_below p).1
        (below .repository asked _ (List.mem_flatMap.2 ⟨p, member, by simp⟩))

end places

/-- How far a run keeps below its destination. -/
structure Contained (c : Config) (d : SourceDocument) : Prop where
  inside : (∀ r, (resolveDocument c d).outcome = .ok r → PlacesInside c r) →
    ∀ a ∈ artifactsOf (runDocument c d), StaysBelow a.path ∧
      ∀ root : Path, (artifactPath root a.path).place = root.place ++ entryNames a.path
  outside : ∀ r, (resolveDocument c d).outcome = .ok r → (runDocument c d).stopped = none →
    ¬ PlacesInside c r → ∃ a ∈ artifactsOf (runDocument c d), ¬ StaysBelow a.path

/-- Where the places of a model are inside their folders, every artifact of a run over it stays below
the destination, also if the run stops; where one is not, a run that comes to its end has an artifact
that does not. -/
theorem run_contained {c : Config} (model : c.modelName = "AppDb")
    (extension : c.fileExtension = .str codeExtension) (d : SourceDocument) : Contained c d where
  inside := by
    intro inside a made
    cases resolved : (resolveDocument c d).outcome with
    | error f =>
      rw [(runDocument_of_error resolved).nothing] at made
      cases made
    | ok r =>
      obtain ⟨root, _, bound⟩ := resolveDocument_ok.1 resolved
      obtain ⟨_, _, _, _, _, _, _, _, _, parts⟩ := readAndBind_ok bound
      rw [(runDocument_of_ok resolved).artifacts] at made
      obtain ⟨e, enabled, u, written, own⟩ := unit_of_artifact made
      have below : StaysBelow a.path := by
        rw [SourceUnit.path_of_artifact own, extension]
        exact (placesInside_iff model).1 (inside r resolved) e enabled _
          (stem_of_unit parts.stages parts.unused written)
      exact ⟨below, fun root => place_of_staysBelow root below⟩
  outside := by
    intro r resolved done outside
    obtain ⟨root, _, bound⟩ := resolveDocument_ok.1 resolved
    obtain ⟨_, _, _, _, _, _, _, _, _, parts⟩ := readAndBind_ok bound
    have whole := runDocument_of_ok resolved
    have paths := paths_emitModel parts.stages parts.unused (whole.stopped.symm.trans done)
    rw [placesInside_iff model] at outside
    push Not at outside
    obtain ⟨e, enabled, s, listed, above⟩ := outside
    have written : s ++ codeExtension ∈ (artifactsOf (emitModel c r)).map (·.path) := by
      rw [paths, extension]
      exact List.mem_map_of_mem (List.mem_flatMap.2 ⟨e, enabled, listed⟩)
    obtain ⟨a, made, same⟩ := List.mem_map.1 written
    exact ⟨a, whole.artifacts ▸ made, same ▸ above⟩

section crates

def crateDocument (schema : String) : SourceDocument :=
  .ofSections
    ("<EntityType Name=\x22Crates\x22/><EntityContainer><EntitySet Name=\x22Crates\x22 Schema=\x22" ++
      schema ++ "\x22/></EntityContainer>")
    "<EntityType Name=\x22Crate\x22/>"
    "<EntitySetMapping TypeName=\x22Crate\x22 StoreEntitySet=\x22Crates\x22/>"

set_option maxRecDepth 100000 in
theorem crates_inside :
    ∃ r, (resolveDocument domainOnly (crateDocument "sea/north")).outcome = .ok r ∧
      (artifactsOf (emitModel domainOnly r)).map (·.path) =
        ["SchemaNameAppDb.cs", "Domain/sea/north/Crate.cs"] ∧
      PlacesInside domainOnly r :=
  ok_of_any (by decide +kernel)

theorem crates_contained :
    domainOnly.modelName = "AppDb" ∧ domainOnly.fileExtension = .str codeExtension ∧
      (artifactsOf (runDocument domainOnly (crateDocument "sea/north"))).map (·.path) =
        ["SchemaNameAppDb.cs", "Domain/sea/north/Crate.cs"] ∧
      ∀ a ∈ artifactsOf (runDocument domainOnly (crateDocument "sea/north")), StaysBelow a.path := by
  obtain ⟨r, resolved, paths, inside⟩ := crates_inside
  have places : ∀ s, (resolveDocument domainOnly (crateDocument "sea/north")).outcome = .ok s →
      PlacesInside domainOnly s := by
    intro s resolvedToo
    cases resolved.symm.trans resolvedToo
    exact inside
  have contained := run_contained (c := domainOnly) rfl rfl (crateDocument "sea/north")
  refine ⟨rfl, rfl, ?_, fun a made => (contained.inside places a made).1⟩
  rw [(runDocument_of_ok resolved).artifacts, paths]

set_option maxRecDepth 100000 in
theorem crates_emitted :
    ∃ r, (resolveDocument domainOnly (crateDocument "../..")).outcome = .ok r ∧
      (emitModel domainOnly r).stopped = none ∧
      (artifactsOf (emitModel domainOnly r)).map (·.path) =
        ["SchemaNameAppDb.cs", "Domain/../../Crate.cs"] :=
  ok_of_any (by decide +kernel)

/-- A schema that is named like a way up leads out of every destination. -/
theorem crates_outside :
    (runDocument domainOnly (crateDocument "../..")).stopped = none ∧
      (artifactsOf (runDocument domainOnly (crateDocument "../.."))).map (·.path) =
        ["SchemaNameAppDb.cs", "Domain/../../Crate.cs"] ∧
      (artifactPath (.ofString "out") "Domain/../../Crate.cs").place = ["Crate.cs"] ∧
      ¬ ∀ a ∈ artifactsOf (runDocument domainOnly (crateDocument "../..")), StaysBelow a.path := by
  obtain ⟨r, resolved, completed, paths⟩ := crates_emitted
  have whole := runDocument_of_ok resolved
  rw [whole.stopped, whole.artifacts]
  refine ⟨completed, paths, by decide, fun below => ?_⟩
  have listed : "Domain/../../Crate.cs" ∈ (artifactsOf (emitModel domainOnly r)).map (·.path) := by
    rw [paths]
    decide
  obtain ⟨a, made, same⟩ := List.mem_map.1 listed
  exact absurd (same ▸ below a made) (by decide)

end crates

end EntityScaffold.Emission
