import EntityScaffold.Proofs.Naming.Texts
import EntityScaffold.Proofs.Reading.EntityAssociations
import EntityScaffold.Proofs.Reading.TableAssociations

/-!
What reading promises to the steps that follow. Nothing is in use yet; every name that one part of a
model uses for another is known there; and where the settings are of their declared form, all fixed
names and schemas are texts.
-/
namespace EntityScaffold.Reading
open Naming Xml

structure StorageRules.Texts (rules : StorageRules) : Prop where
  naming : rules.naming.Texts
  defaultSchema : rules.defaultSchema.IsText

section tables

variable {rules : StorageRules}

theorem functions_joined (associations : List TableAssociation) (m : StorageModel) :
    (associations.foldl joinTables m).functions = m.functions := by
  induction associations generalizing m with
  | nil => rfl
  | cons a rest ih => exact ih (joinTables m a)

section schemas

variable {P : Label → Prop} (texts : ∀ text, P (.str text)) (defaultSchema : P rules.defaultSchema)
include texts defaultSchema

theorem schemaOf_satisfies {node : Element} {schema : Label}
    (read : schemaOf rules node = .ok schema) : P schema := by
  simp only [schemaOf, bind_ok] at read
  obtain ⟨declared, _, chosen⟩ := read
  split at chosen
  · exact pure_ok.1 chosen ▸ defaultSchema
  · exact pure_ok.1 chosen ▸ defaultSchema
  · exact pure_ok.1 chosen ▸ texts _

theorem placed_kept : KeptByPlacing rules fun t => P t.schema where
  declared := by
    intro node t read
    simp only [readTable, bind_ok, pure_ok] at read
    obtain ⟨_, _, _, _, _, _, _, _, rfl⟩ := read
    exact defaultSchema
  placed _ _ _ _ read _ := schemaOf_satisfies texts defaultSchema read

theorem readStoredFunction_schema {node : Element} {f : StoredFunction}
    (read : (readStoredFunction rules node).outcome = .ok f) : P f.schema := by
  simp only [readStoredFunction, Noted.outcome_bind_eq_ok, Noted.outcome_liftM] at read
  obtain ⟨_, _, _, _, _, _, schema, declared, _, _, _, _, _, _, returned, _, read⟩ := read
  split at read
  all_goals
    simp only [Noted.outcome_bind_eq_ok, Noted.outcome_pure_ok] at read
    obtain ⟨_, _, rfl⟩ := read
    exact schemaOf_satisfies texts defaultSchema declared

theorem readStorage_schemas {root : Element} {s : StorageModel}
    (read : (readStorage rules root).outcome = .ok s) :
    (∀ t ∈ s.tables.entries, P t.schema) ∧ ∀ f ∈ s.functions.entries, P f.schema := by
  obtain ⟨schema, _, made⟩ := readStorage_schema read
  obtain ⟨m, associations, parts⟩ :=
    readStorageSchema_parts (placed_kept texts defaultSchema) made
  obtain rfl := parts.joined
  constructor
  · intro t member
    obtain ⟨old, earlier, joined⟩ := table_joined member
    obtain ⟨before, fixed, placed, _, rfl⟩ := parts.tables old earlier
    exact joined ▸ placed
  · intro f member
    rw [functions_joined] at member
    obtain ⟨node, own⟩ := parts.functions f member
    exact readStoredFunction_schema texts defaultSchema own

end schemas

theorem readAssociation_known {m : StorageModel} {node : Element} {a : TableAssociation}
    (read : readAssociation m node = .ok a) :
    a.dependent.table ∈ m.tables.keys ∧ a.principal.table ∈ m.tables.keys := by
  obtain ⟨_, _, first, second, _, firstRead, secondRead, _, dependent, principal⟩ :=
    (readAssociation_ok.1 read).ends
  have known : ∀ e ∈ [first, second], e.table ∈ m.tables.keys := by
    simp [firstRead.known, secondRead.known]
  exact ⟨known _ dependent, known _ principal⟩

theorem readAssociations_known {m : StorageModel} {schema : Element}
    {associations : List TableAssociation}
    (read : readAssociations m schema = .ok associations) : ∀ a ∈ associations,
      a.dependent.table ∈ m.tables.keys ∧ a.principal.table ∈ m.tables.keys := by
  intro a member
  obtain ⟨node, own⟩ := source_of_association read member
  exact readAssociation_known own

theorem target_of_key {a : TableAssociation} {m : StorageModel}
    (known : a.dependent.table ∈ m.tables.keys ∧ a.principal.table ∈ m.tables.keys)
    {table : String} {k : ForeignKey} (member : k ∈ a.keysAt table) : k.table ∈ m.tables.keys := by
  simp only [TableAssociation.keysAt, List.mem_append] at member
  rcases member with dependent | principal
  · split at dependent
    · rw [List.mem_singleton.1 dependent]
      exact known.2
    · cases dependent
  · split at principal
    · rw [List.mem_singleton.1 principal]
      exact known.1
    · cases principal

/-- A storage model as reading leaves it. -/
structure StorageRead (s : StorageModel) : Prop where
  unused : ∀ t ∈ s.tables.entries, t.isUsed = false
  fixedNames : ∀ t ∈ s.tables.entries, t.fixedName.IsText
  schemas : ∀ t ∈ s.tables.entries, t.schema.IsText
  functionSchemas : ∀ f ∈ s.functions.entries, f.schema.IsText
  foreignKeys : ∀ t ∈ s.tables.entries, ∀ k ∈ t.foreignKeys, k.table ∈ s.tables.keys

theorem storage_read (texts : rules.Texts) {root : Element} {s : StorageModel}
    (read : (readStorage rules root).outcome = .ok s) : StorageRead s := by
  obtain ⟨tableSchemas, functionSchemas⟩ :=
    readStorage_schemas Label.isText_str texts.defaultSchema read
  obtain ⟨schema, _, made⟩ := readStorage_schema read
  obtain ⟨m, associations, parts⟩ := readStorageSchema_parts (freshTable_kept rules) made
  obtain rfl := parts.joined
  have table (t : Table) (member : t ∈ (associations.foldl joinTables m).tables.entries) :
      t.isUsed = false ∧ t.fixedName.IsText ∧
        t.foreignKeys = associations.flatMap (·.keysAt t.name) := by
    obtain ⟨old, earlier, joined⟩ := table_joined member
    obtain ⟨before, fixed, fresh, named, rfl⟩ := parts.tables old earlier
    have keys := congrArg Table.foreignKeys joined
    simp only [fresh.noKeys, List.nil_append] at keys
    exact ⟨joined ▸ fresh.unused, joined ▸ normalize_text texts.naming named, keys⟩
  refine ⟨fun t member => (table t member).1, fun t member => (table t member).2.1,
    tableSchemas, functionSchemas, ?_⟩
  intro t member k inKeys
  rw [(table t member).2.2] at inKeys
  obtain ⟨a, inAssociations, own⟩ := List.mem_flatMap.1 inKeys
  rw [keys_joined]
  exact target_of_key (readAssociations_known parts.walked a inAssociations) own

end tables

section entities

variable {naming : NamingRules}

theorem readEntity_text (texts : naming.Texts) {node : Element} {e : Entity}
    (read : (readEntity naming node).outcome = .ok e) : e.fixedName.IsText := by
  simp only [readEntity, Noted.outcome_bind_eq_ok, Noted.outcome_pure_ok,
    Noted.outcome_liftM] at read
  obtain ⟨_, _, fixedName, fixed, _, _, _, _, _, _, rfl⟩ := read
  exact normalize_text texts fixed

theorem readComplexType_text (texts : naming.Texts) {node : Element} {t : ComplexType}
    (read : (readComplexType naming node).outcome = .ok t) : t.fixedName.IsText := by
  simp only [readComplexType, Noted.outcome_bind_eq_ok, Noted.outcome_pure_ok,
    Noted.outcome_liftM] at read
  obtain ⟨_, _, _, _, _, _, fixedName, fixed, rfl⟩ := read
  exact normalize_text texts fixed

theorem readFunctionImport_known {m : ConceptualModel} {node : Element} {f : FunctionImport}
    (read : (readFunctionImport naming m node).outcome = .ok f) :
    (∀ name ∈ f.returnComplexType, name ∈ m.complexTypes.keys) ∧
      ∀ name ∈ f.returnEntityType, name ∈ m.entities.keys := by
  simp only [readFunctionImport, Noted.outcome_bind_eq_ok, Noted.outcome_pure_ok,
    Noted.outcome_liftM] at read
  obtain ⟨_, _, declared, _, _, _, _, _, _, _, _, _, rfl⟩ := read
  constructor
  · intro name returned
    exact Catalog.contains_iff.1 (Option.filter_eq_some_iff.1 returned).2
  · intro name returned
    have entity : name ∈ (returnName? declared).filter m.entities.contains := by
      dsimp only at returned
      split at returned
      · cases returned
      · exact returned
    exact Catalog.contains_iff.1 (Option.filter_eq_some_iff.1 entity).2

theorem readEntityEnd_known {m : ConceptualModel} {name : String} {node : Element}
    {e : String × Multiplicity} (read : readEntityEnd m name node = .ok e) :
    e.1 ∈ m.entities.keys := by
  simp only [readEntityEnd, bind_ok] at read
  obtain ⟨type, _, read⟩ := read
  split at read
  · obtain ⟨_, thrown, _⟩ := bind_ok.1 read
    cases thrown
  · rename_i known
    simp only [bind_ok, pure_ok] at read
    obtain ⟨_, _, _, _, rfl⟩ := read
    exact Catalog.contains_iff.1 (by simpa using known)

theorem readEntityAssociation_known {m : ConceptualModel} {node : Element}
    {a : EntityAssociation} (read : readEntityAssociation m node = .ok a) :
    a.first.1 ∈ m.entities.keys ∧ a.second.1 ∈ m.entities.keys := by
  simp only [readEntityAssociation, bind_ok] at read
  obtain ⟨name, _, nodes, _, read⟩ := read
  split at read
  · simp only [bind_ok, pure_ok] at read
    obtain ⟨first, firstRead, second, secondRead, rfl⟩ := read
    exact ⟨readEntityEnd_known firstRead, readEntityEnd_known secondRead⟩
  · cases read

theorem readEntityAssociations_known {m : ConceptualModel} {schema : Element}
    {associations : List EntityAssociation}
    (read : readEntityAssociations m schema = .ok associations) : ∀ a ∈ associations,
      a.first.1 ∈ m.entities.keys ∧ a.second.1 ∈ m.entities.keys := by
  intro a member
  obtain ⟨nodes, _, walked⟩ := bind_ok.1 read
  obtain ⟨node, _, own⟩ := source_of_mapM walked member
  exact readEntityAssociation_known own

theorem target_of_navigation {a : EntityAssociation} {m : ConceptualModel}
    (known : a.first.1 ∈ m.entities.keys ∧ a.second.1 ∈ m.entities.keys)
    {entity : String} {n : Navigation} (member : n ∈ a.navigationsAt entity) :
    n.targetName ∈ m.entities.keys := by
  simp only [EntityAssociation.navigationsAt, List.mem_append] at member
  rcases member with first | second
  · split at first
    · rw [List.mem_singleton.1 first]
      exact known.2
    · cases first
  · split at second
    · rw [List.mem_singleton.1 second]
      exact known.1
    · cases second

/-- A conceptual model as reading leaves it. -/
structure ConceptualRead (s : ConceptualModel) : Prop where
  unused : ∀ e ∈ s.entities.entries, e.isUsed = false
  fixedNames : ∀ e ∈ s.entities.entries, e.fixedName.IsText
  schemas : ∀ e ∈ s.entities.entries, e.schema = .null
  complexNames : ∀ t ∈ s.complexTypes.entries, t.fixedName.IsText
  navigations : ∀ e ∈ s.entities.entries, ∀ n ∈ e.navigations, n.targetName ∈ s.entities.keys
  returnedTypes : ∀ f ∈ s.functions.entries, ∀ name ∈ f.returnComplexType,
    name ∈ s.complexTypes.keys
  returnedEntities : ∀ f ∈ s.functions.entries, ∀ name ∈ f.returnEntityType,
    name ∈ s.entities.keys

theorem readConceptual_schemas {root : Element} {s : ConceptualModel}
    (read : (readConceptual naming root).outcome = .ok s) :
    ∀ e ∈ s.entities.entries, e.schema = .null := by
  intro e member
  obtain ⟨schema, _, made⟩ := readConceptual_schema read
  obtain ⟨m, associations, parts⟩ := readConceptualSchema_parts made
  obtain rfl := parts.joined
  obtain ⟨old, earlier, joined⟩ := entity_joined member
  obtain ⟨node, own⟩ := parts.entities old earlier
  exact joined ▸ (readEntity_fresh own).noSchema

structure NamesFixed (naming : NamingRules) (s : ConceptualModel) : Prop where
  entities : ∀ e ∈ s.entities.entries, naming.normalize e.name false = .ok e.fixedName
  imports : ∀ f ∈ s.functions.entries, naming.normalizeFunction f.name = .ok f.fixedName

theorem readConceptual_named {root : Element} {s : ConceptualModel}
    (read : (readConceptual naming root).outcome = .ok s) : NamesFixed naming s := by
  obtain ⟨schema, _, made⟩ := readConceptual_schema read
  obtain ⟨m, associations, parts⟩ := readConceptualSchema_parts made
  obtain rfl := parts.joined
  constructor
  case entities =>
    intro e member
    obtain ⟨old, earlier, joined⟩ := entity_joined member
    obtain ⟨node, own⟩ := parts.entities old earlier
    simp only [readEntity, Noted.outcome_bind_eq_ok, Noted.outcome_pure_ok,
      Noted.outcome_liftM] at own
    obtain ⟨_, _, _, fixed, _, _, _, _, _, _, rfl⟩ := own
    rw [joined]
    exact fixed
  case imports =>
    intro f member
    rw [(others_joinedEntities associations m).2] at member
    obtain ⟨node, own⟩ := parts.functions f member
    simp only [readFunctionImport, Noted.outcome_bind_eq_ok, Noted.outcome_pure_ok,
      Noted.outcome_liftM] at own
    obtain ⟨_, _, _, _, _, fixed, _, _, _, _, _, _, rfl⟩ := own
    exact fixed

theorem conceptual_read (texts : naming.Texts) {root : Element} {s : ConceptualModel}
    (read : (readConceptual naming root).outcome = .ok s) : ConceptualRead s := by
  have schemas := readConceptual_schemas read
  obtain ⟨schema, _, made⟩ := readConceptual_schema read
  obtain ⟨m, associations, parts⟩ := readConceptualSchema_parts made
  obtain rfl := parts.joined
  obtain ⟨sameTypes, sameFunctions⟩ := others_joinedEntities associations m
  have keys := keys_joinedEntities associations m
  have entity (e : Entity) (member : e ∈ (associations.foldl joinEntities m).entities.entries) :
      e.isUsed = false ∧ e.fixedName.IsText ∧
        e.navigations = associations.flatMap (·.navigationsAt e.name) := by
    obtain ⟨old, earlier, joined⟩ := entity_joined member
    obtain ⟨node, own⟩ := parts.entities old earlier
    have fresh := readEntity_fresh own
    have fixedName := readEntity_text texts own
    have navigations := congrArg Entity.navigations joined
    simp only [fresh.noNavigations, List.nil_append] at navigations
    exact ⟨joined ▸ fresh.unused, joined ▸ fixedName, navigations⟩
  refine ⟨fun e member => (entity e member).1, fun e member => (entity e member).2.1,
    schemas, ?_, ?_, ?_, ?_⟩
  · intro t member
    rw [sameTypes] at member
    obtain ⟨node, own⟩ := parts.complexTypes t member
    exact readComplexType_text texts own
  · intro e member n inNavigations
    rw [(entity e member).2.2] at inNavigations
    obtain ⟨a, inAssociations, own⟩ := List.mem_flatMap.1 inNavigations
    rw [keys]
    exact target_of_navigation (readEntityAssociations_known parts.walked a inAssociations) own
  · intro f member name returned
    rw [sameFunctions] at member
    obtain ⟨node, own⟩ := parts.functions f member
    rw [sameTypes]
    exact (readFunctionImport_known own).1 name returned
  · intro f member name returned
    rw [sameFunctions] at member
    obtain ⟨node, own⟩ := parts.functions f member
    rw [keys]
    exact (readFunctionImport_known own).2 name returned

end entities

end EntityScaffold.Reading
