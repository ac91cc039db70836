import EntityScaffold.Proofs.Binding.Changes
import EntityScaffold.Proofs.Binding.Failures

/-!
What emission can rely on. Emitters look up tables, columns, entities and complex types by name and
take the letters of labels; in models that have been read and bound, under settings of their
declared form, all of those are there.
-/
namespace EntityScaffold
open Binding Reading

/-- Settings of their declared form, as far as models and artifacts depend on them. -/
structure Config.Texts (c : Config) : Prop where
  fileExtension : c.fileExtension.IsText
  defaultSchema : c.defaultSchema.IsText
  defaultBucket : c.defaultBucket.IsText
  naming : ∃ rules, c.naming = .ok rules ∧ rules.Texts

structure Settings.Declared (s : Settings) : Prop where
  fileExtension : Label.IsText (s.value .fileExtension)
  defaultSchema : Label.IsText (s.value .defaultSchema)
  defaultSchemaName : Label.IsText (s.value .defaultSchemaName)
  acronyms : ∃ words : List String, s.value .acronyms = .arr (words.map .str)
  suffixWords : ∃ words : List String, s.value .suffixWords = .arr (words.map .str)
  nameOverrides : ∃ fixed : List (String × String),
    s.value .nameOverrides = .obj (fixed.map fun o => (o.1, .str o.2))

theorem Settings.declared_defaults : Settings.defaults.Declared where
  fileExtension := ⟨_, rfl⟩
  defaultSchema := ⟨_, rfl⟩
  defaultSchemaName := ⟨_, rfl⟩
  acronyms := ⟨["TMS"], rfl⟩
  suffixWords := ⟨["Doc"], rfl⟩
  nameOverrides := ⟨[], rfl⟩

theorem Settings.labels_texts (words : List String) :
    Settings.labels (.arr (words.map .str)) = .ok (words.map .str) := by
  cases words with
  | nil => rfl
  | cons w rest => rfl

theorem Settings.naming_declared {s : Settings} {acronyms suffixWords : List String}
    {fixed : List (String × String)} (inAcronyms : s.value .acronyms = .arr (acronyms.map .str))
    (inSuffixes : s.value .suffixWords = .arr (suffixWords.map .str))
    (inOverrides : s.value .nameOverrides = .obj (fixed.map fun o => (o.1, .str o.2))) :
    s.naming = .ok (.ofTexts acronyms suffixWords fixed) := by
  simp only [Settings.naming, Settings.namingOf, inAcronyms, inSuffixes, inOverrides,
    Settings.labels_texts]
  rfl

theorem Config.texts_of_declared {s : Settings} (declared : s.Declared) :
    (Config.ofSettings s).Texts := by
  obtain ⟨acronyms, inAcronyms⟩ := declared.acronyms
  obtain ⟨suffixWords, inSuffixes⟩ := declared.suffixWords
  obtain ⟨fixed, inOverrides⟩ := declared.nameOverrides
  exact ⟨declared.fileExtension, declared.defaultSchema, declared.defaultSchemaName,
    ⟨_, Settings.naming_declared inAcronyms inSuffixes inOverrides,
      Naming.NamingRules.texts_ofTexts ..⟩⟩

theorem Config.texts_defaults : (Config.ofSettings .defaults).Texts :=
  texts_of_declared Settings.declared_defaults

def Config.Unescaped (c : Config) : Prop := ∀ rules, c.naming = .ok rules → rules.Unescaped

theorem Config.unescaped_of_declared {s : Settings} (declared : s.Declared) {acronyms : List String}
    (inAcronyms : s.value .acronyms = .arr (acronyms.map .str))
    (plain : ∀ w ∈ acronyms, '\\' ∉ w.toList) : (Config.ofSettings s).Unescaped := by
  obtain ⟨suffixWords, inSuffixes⟩ := declared.suffixWords
  obtain ⟨fixed, inOverrides⟩ := declared.nameOverrides
  intro rules naming w listed
  cases (Settings.naming_declared inAcronyms inSuffixes inOverrides).symm.trans naming
  obtain ⟨v, member, same⟩ := List.mem_map.1 listed
  cases same
  exact plain w member

theorem Config.unescaped_defaults : (Config.ofSettings .defaults).Unescaped :=
  have own : SettingKey.default .acronyms = .arr (["TMS"].map .str) := rfl
  unescaped_of_declared Settings.declared_defaults own (by decide)

def Label.IsOptionalText (l : Label) : Prop := l = .null ∨ l.IsText

/-- Models in which whatever emission looks for is there. -/
structure Prepared (r : ResolvedModel) : Prop where
  tableSchemas : ∀ t ∈ r.storage.tables.entries, t.schema.IsText
  functionSchemas : ∀ g ∈ r.storage.functions.entries, g.schema.IsText
  fixedNames : ∀ e ∈ r.conceptual.entities.entries, e.fixedName.IsText
  complexNames : ∀ t ∈ r.conceptual.complexTypes.entries, t.fixedName.IsText
  schemas : ∀ e ∈ r.conceptual.entities.entries, e.schema.IsOptionalText
  targets : ∀ e ∈ r.usedEntities, ∀ n ∈ e.navigations, n.targetSchema.IsOptionalText
  mapped : ∀ x ∈ r.mappings, ∃ t, r.storage.resolveTable? x.table = some t ∧
    ∀ y ∈ x.correspondences, y.column ∈ t.columns.keys
  returnedTypes : ∀ f ∈ r.conceptual.functions.entries, ∀ name ∈ f.returnComplexType,
    name ∈ r.conceptual.complexTypes.keys
  returnedEntities : ∀ f ∈ r.conceptual.functions.entries, ∀ name ∈ f.returnEntityType,
    name ∈ r.conceptual.entities.keys

section preparing

variable {origin : Config} {root : Xml.Element} {rules : Naming.NamingRules}
  {storage : StorageModel} {conceptual : ConceptualModel} {r : ResolvedModel}

theorem Sections.storageRead (sections : Sections origin root rules storage conceptual r)
    (texts : origin.Texts) : StorageRead storage := by
  obtain ⟨own, naming, ruleTexts⟩ := texts.naming
  cases naming.symm.trans sections.naming
  exact storage_read ⟨ruleTexts, texts.defaultSchema⟩ sections.readTables

theorem Sections.conceptualRead (sections : Sections origin root rules storage conceptual r)
    (texts : origin.Texts) : ConceptualRead conceptual := by
  obtain ⟨own, naming, ruleTexts⟩ := texts.naming
  cases naming.symm.trans sections.naming
  exact conceptual_read ruleTexts sections.readEntities

theorem Sections.changes (sections : Sections origin root rules storage conceptual r) :
    ModelChange storage conceptual r.mappings r.functionMappings r :=
  bind_changes sections.readTables sections.readEntities sections.bound

theorem schemas_bound (storageRead : StorageRead storage) (read : ConceptualRead conceptual)
    (changes : ModelChange storage conceptual r.mappings r.functionMappings r) :
    ∀ e ∈ r.conceptual.entities.entries, e.schema.IsOptionalText := by
  intro e member
  obtain ⟨old, earlier, change⟩ := related_of_mem_right changes.entities member
  cases used : e.isUsed with
  | true =>
    obtain ⟨_, t, _, reached, _, schema⟩ := change.table used
    rw [schema]
    exact .inr (storageRead.schemas t (mem_of_resolveTable reached))
  | false =>
    rw [change.unreached used]
    exact .inl (read.schemas old earlier)

theorem Sections.mapped (sections : Sections origin root rules storage conceptual r) {x : Mapping}
    (member : x ∈ r.mappings) : ∃ t u, storage.resolveTable? x.table = some t ∧
      (∀ y ∈ x.correspondences, y.column ∈ t.columns.keys) ∧
      r.storage.resolveTable? x.table = some u ∧
      TableChange storage conceptual r.mappings t u := by
  obtain ⟨links, walked, _⟩ := Noted.outcome_bind_eq_ok.1 sections.bound
  obtain ⟨_, _, stages⟩ := bind_stages sections.bound
  have linkable := (links_ok_iff r.mappings).1 ⟨links, walked⟩ x member
  cases reached : storage.resolveTable? x.table with
  | none => exact absurd (.inl reached) linkable
  | some t =>
    have resolved := stages.name_resolveTable x.table
    rw [reached] at resolved
    obtain ⟨u, found, name⟩ := Option.map_eq_some_iff.1 resolved
    obtain ⟨old, earlier, change⟩ :=
      related_of_mem_right sections.changes.tables (mem_of_resolveTable found)
    have same : old = t := Catalog.eq_of_key_eq earlier (mem_of_resolveTable reached)
      ((congrArg Table.name change.kept).symm.trans name)
    refine ⟨t, u, rfl, fun y listed => ?_, found, same ▸ change⟩
    rw [← Catalog.find?_isSome_iff]
    cases column : t.columns.find? y.column with
    | none => exact absurd (.inr (.inr ⟨t, reached, y, listed, column⟩)) linkable
    | some d => rfl

theorem table_in_use (resolved : (readAndBind origin root).outcome = .ok r) {x : Mapping}
    (member : x ∈ r.mappings) {t : Table} (reached : r.storage.resolveTable? x.table = some t) :
    t ∈ r.usedTables := by
  obtain ⟨_, _, _, sections⟩ := readAndBind_sections resolved
  obtain ⟨_, u, before, _, found, change⟩ := sections.mapped member
  cases reached.symm.trans found
  exact List.mem_filter.2 ⟨mem_of_resolveTable reached, change.used.2 ⟨x, member, before⟩⟩

theorem columnKeys_of_change {conceptual : ConceptualModel} {mappings : List Mapping}
    {t u : Table} (change : TableChange storage conceptual mappings t u) :
    u.columns.keys = t.columns.keys := by
  rw [Catalog.keys, change.columns, List.map_map]
  rfl

theorem prepared_of_bound (texts : origin.Texts)
    (resolved : (readAndBind origin root).outcome = .ok r) : Prepared r := by
  obtain ⟨rules, storage, conceptual, sections⟩ := readAndBind_sections resolved
  obtain ⟨_, _, stages⟩ := bind_stages sections.bound
  have storageRead := sections.storageRead texts
  have read := sections.conceptualRead texts
  have changes := sections.changes
  have schemas := schemas_bound storageRead read changes
  have functions : r.storage.functions = storage.functions :=
    congrArg (·.storage.functions) changes.kept
  have complexTypes : r.conceptual.complexTypes = conceptual.complexTypes :=
    congrArg (·.conceptual.complexTypes) changes.kept
  have imports : r.conceptual.functions = conceptual.functions :=
    congrArg (·.conceptual.functions) changes.kept
  constructor
  case schemas => exact schemas
  case tableSchemas =>
    intro t member
    obtain ⟨old, earlier, change⟩ := related_of_mem_right changes.tables member
    rw [change.kept]
    exact storageRead.schemas old earlier
  case functionSchemas =>
    rw [functions]
    exact storageRead.functionSchemas
  case fixedNames =>
    intro e member
    obtain ⟨old, earlier, change⟩ := related_of_mem_right changes.entities member
    rw [change.kept]
    exact read.fixedNames old earlier
  case complexNames =>
    rw [complexTypes]
    exact read.complexNames
  case targets =>
    intro e inUse n member
    obtain ⟨target, targetUsed, _, _, schema⟩ :=
      stages.target_of_navigation read.unused inUse member
    rw [schema]
    exact schemas target (mem_usedEntities.1 targetUsed).1
  case mapped =>
    intro x member
    obtain ⟨t, u, _, columns, found, change⟩ := sections.mapped member
    exact ⟨u, found, columnKeys_of_change change ▸ columns⟩
  case returnedTypes =>
    rw [imports, complexTypes]
    exact read.returnedTypes
  case returnedEntities =>
    intro f member name returned
    rw [stages.keys_entities]
    rw [imports] at member
    exact read.returnedEntities f member name returned

end preparing

end EntityScaffold
