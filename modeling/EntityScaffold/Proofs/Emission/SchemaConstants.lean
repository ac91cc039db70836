import EntityScaffold.Proofs.Emission.Parts
import EntityScaffold.Proofs.Emission.Prepared
import EntityScaffold.Proofs.Emission.Traces
import EntityScaffold.Proofs.Naming.FreeLabels

/-!
Schema constants and the references to them. The constants are made once for the class that declares
them and again at every reference; a reference finds the constant of its schema because the schema
of whatever refers is one of those that the constants are made for.
-/
namespace EntityScaffold.Emission
open Binding Source

/-- A schema of a table in use, or of a stored function that an import is mapped to. -/
def SchemaInUse (r : ResolvedModel) (schema : Label) : Prop :=
  (∃ t ∈ r.usedTables, t.schema = schema) ∨
    ∃ f ∈ r.conceptual.functions.entries, ∃ g, r.storedFunctionFor? f = some g ∧ g.schema = schema

structure NeedsConstant (c : Config) (r : ResolvedModel) (s : String) : Prop where
  inUse : SchemaInUse r (.str s)
  filled : s ≠ ""
  other : c.isDefaultSchema (.str s) = .ok false

/-- Each schema that needs a constant has exactly one, its case apart, and no two constants have
one name, nor that of the default constant. -/
structure ConstantsFor (c : Config) (needs : String → Prop) (made : List SchemaConstant) :
    Prop where
  needed : ∀ k ∈ made, needs k.schema
  covered : ∀ s, needs s → ∃ k ∈ made, Text.lower k.schema = Text.lower s
  schemas : (made.map fun k => Text.lower k.schema).Nodup
  names : (c.defaultBucket :: made.map (·.name)).Nodup

section making

variable {c : Config} {r : ResolvedModel}

theorem sameSchema_iff {a b : String} : sameSchema a b = true ↔ Text.lower a = Text.lower b := by
  simp [sameSchema]

theorem mem_schemasInUse {schema : Label} : schema ∈ schemasInUse r ↔ SchemaInUse r schema := by
  simp only [schemasInUse, SchemaInUse, List.mem_append, List.mem_map, List.mem_filterMap]
  constructor
  · rintro (inTables | ⟨g, ⟨f, member, found⟩, same⟩)
    · exact .inl inTables
    · exact .inr ⟨f, member, g, found, same⟩
  · rintro (inTables | ⟨f, member, g, found, same⟩)
    · exact .inl inTables
    · exact .inr ⟨g, ⟨f, member, found⟩, same⟩

theorem letters_ok {label : Label} {s : String} : label.letters = .ok s ↔ label = .str s := by
  cases label <;> simp [Label.letters]

theorem sortedSchemas_ok {schemas : List String} (sorted : sortedSchemas r = .ok schemas) :
    (∀ schema, SchemaInUse r schema → schema.isGiven = true → ∃ s ∈ schemas, schema = .str s) ∧
      ∀ s ∈ schemas, SchemaInUse r (.str s) ∧ s ≠ "" := by
  simp only [sortedSchemas, bind_ok, pure_ok] at sorted
  obtain ⟨given, atoms, texts, lettered, rfl⟩ := sorted
  simp only [mem_sortBy, List.mem_eraseDups]
  constructor
  · intro schema inUse filled
    have listed : schema ∈ (schemasInUse r).filter Label.isGiven :=
      List.mem_filter.2 ⟨mem_schemasInUse.2 inUse, filled⟩
    obtain ⟨atom, inGiven, own⟩ := result_of_mapM atoms listed
    obtain ⟨s, inTexts, letters⟩ := result_of_mapM lettered inGiven
    exact ⟨s, inTexts, (Label.atom_ok own).symm.trans (letters_ok.1 letters)⟩
  · intro s member
    obtain ⟨atom, inGiven, letters⟩ := source_of_mapM lettered member
    obtain ⟨schema, listed, own⟩ := source_of_mapM atoms inGiven
    rw [← Label.atom_ok own, letters_ok.1 letters] at listed
    obtain ⟨inUse, filled⟩ := List.mem_filter.1 listed
    exact ⟨mem_schemasInUse.1 inUse, by simpa using filled⟩

def OtherOf (c : Config) (schemas : List String) (s : String) : Prop :=
  s ∈ schemas ∧ c.isDefaultSchema (.str s) = .ok false

theorem ConstantsFor.skip {schemas : List String} {made : List SchemaConstant} {s : String}
    (before : ConstantsFor c (OtherOf c schemas) made)
    (known : c.isDefaultSchema (.str s) = .ok false →
      ∃ k ∈ made, Text.lower k.schema = Text.lower s) :
    ConstantsFor c (OtherOf c (schemas ++ [s])) made where
  needed k member := by
    obtain ⟨listed, other⟩ := before.needed k member
    exact ⟨List.mem_append_left _ listed, other⟩
  covered := by
    rintro t ⟨listed, other⟩
    rcases List.mem_append.1 listed with earlier | last
    · exact before.covered t ⟨earlier, other⟩
    · rw [List.mem_singleton.1 last] at other ⊢
      exact known other
  schemas := before.schemas
  names := before.names

theorem ConstantsFor.add {schemas : List String} {made : List SchemaConstant} {s : String}
    {name : Label} (before : ConstantsFor c (OtherOf c schemas) made)
    (other : c.isDefaultSchema (.str s) = .ok false)
    (new : ∀ k ∈ made, Text.lower k.schema ≠ Text.lower s)
    (free : name ∉ takenConstants c made) :
    ConstantsFor c (OtherOf c (schemas ++ [s])) (made ++ [⟨name, s⟩]) where
  needed k member := by
    rcases List.mem_append.1 member with earlier | last
    · obtain ⟨listed, kind⟩ := before.needed k earlier
      exact ⟨List.mem_append_left _ listed, kind⟩
    · rw [List.mem_singleton.1 last]
      exact ⟨by simp, other⟩
  covered := by
    rintro t ⟨listed, kind⟩
    rcases List.mem_append.1 listed with earlier | last
    · obtain ⟨k, member, same⟩ := before.covered t ⟨earlier, kind⟩
      exact ⟨k, List.mem_append_left _ member, same⟩
    · exact ⟨⟨name, s⟩, by simp, by rw [List.mem_singleton.1 last]⟩
  schemas := by
    have apart : Text.lower s ∉ made.map fun k => Text.lower k.schema := by
      intro listed
      obtain ⟨k, member, same⟩ := List.mem_map.1 listed
      exact new k member same
    rw [List.map_append, List.map_singleton, ← List.concat_eq_append]
    exact before.schemas.concat apart
  names := by
    rw [List.map_append, List.map_singleton, ← List.cons_append, ← List.concat_eq_append]
    exact before.names.concat free

theorem addConstants_ok {schemas rest : List String} {made all : List SchemaConstant}
    (before : ConstantsFor c (OtherOf c schemas) made)
    (added : addConstants c made rest = .ok all) :
    ConstantsFor c (OtherOf c (schemas ++ rest)) all := by
  induction rest generalizing schemas made with
  | nil =>
    cases added
    rwa [List.append_nil]
  | cons s rest ih =>
    rw [addConstants] at added
    obtain ⟨isDefault, kind, added⟩ := bind_ok.1 added
    rw [List.append_cons]
    split at added
    · rename_i skipped
      refine ih (before.skip fun other => ?_) added
      cases other.symm.trans kind
      simpa [sameSchema_iff] using skipped
    · rename_i new
      simp only [Bool.or_eq_true, not_or, Bool.not_eq_true, List.any_eq_true, not_exists, not_and,
        sameSchema_iff] at new
      obtain ⟨rfl, new⟩ := new
      obtain ⟨base, _, added⟩ := bind_ok.1 added
      obtain ⟨name, freed, added⟩ := bind_ok.1 added
      exact ih (before.add kind new (by simpa using (Naming.freeLabel_ok freed).1)) added

theorem schemaConstants_ok {made : List SchemaConstant}
    (computed : schemaConstants c r = .ok made) : ConstantsFor c (NeedsConstant c r) made := by
  simp only [schemaConstants, bind_ok] at computed
  obtain ⟨_, _, schemas, sorted, added⟩ := computed
  obtain ⟨complete, inUse⟩ := sortedSchemas_ok sorted
  have none : ConstantsFor c (OtherOf c []) [] := by
    refine ⟨?_, ?_, ?_, ?_⟩ <;> simp [OtherOf]
  have all := addConstants_ok none added
  refine ⟨fun k member => ?_, fun s needs => ?_, all.schemas, all.names⟩
  · obtain ⟨listed, other⟩ := all.needed k member
    obtain ⟨used, filled⟩ := inUse k.schema listed
    exact ⟨used, filled, other⟩
  · obtain ⟨t, listed, same⟩ := complete _ needs.inUse (by simpa using needs.filled)
    cases same
    exact all.covered s ⟨listed, needs.other⟩

end making

/-- The class of the constants declares the default one and those that have been made, each under a
name of its own. -/
structure Declares (c : Config) (made : List SchemaConstant) (u : SchemaConstants) : Prop where
  constants : ∀ d, d ∈ u.constants ↔ d = (c.defaultBucket.display, c.defaultSchema.display) ∨
    ∃ k ∈ made, d = (k.name.display, k.schema)
  names : (u.constants.map (·.1)).Nodup

/-- A reference that names a declared constant: the default one for the default schema and for none,
and else one whose value is the schema, their case apart. -/
def RefersTo (c : Config) (u : SchemaConstants) (schema : Label) (reference : String) : Prop :=
  ∃ d ∈ u.constants, reference = c.schemaClassName ++ "." ++ d.1 ∧
    ((c.isDefaultSchema schema = .ok true ∧
        d = (c.defaultBucket.display, c.defaultSchema.display)) ∨
      (c.isDefaultSchema schema = .ok false ∧
        ∃ s, schema = .str s ∧ Text.lower d.2 = Text.lower s))

section declaring

variable {c : Config} {r : ResolvedModel} {made : List SchemaConstant} {u : SchemaConstants}

theorem text_ok {label : Label} {s : String} : label.text = .ok s ↔ label = .str s := by
  cases label <;> simp [Label.text]

theorem sortedConstants_ok {sorted : List SchemaConstant}
    (computed : schemaConstants c r = .ok made) (ordered : sortedConstants c r = .ok sorted) :
    sorted.Perm made := by
  obtain ⟨_, same, ordered⟩ := bind_ok.1 ordered
  cases computed.symm.trans same
  split at ordered
  · obtain ⟨_, _, ordered⟩ := bind_ok.1 ordered
    exact pure_ok.1 ordered ▸ sortBy_perm ..
  · exact pure_ok.1 ordered ▸ sortBy_perm ..

theorem schemaUnit_ok (computed : schemaConstants c r = .ok made)
    (names : (c.defaultBucket :: made.map (·.name)).Nodup) (written : schemaUnit c r = .ok u) :
    Declares c made u := by
  simp only [schemaUnit, bind_ok, pure_ok, text_ok] at written
  obtain ⟨sorted, ordered, bucket, own, others, walked, rfl⟩ := written
  have perm := sortedConstants_ok computed ordered
  have texts := mapM_ok.1 walked
  simp only [bind_ok, pure_ok, text_ok] at texts
  have shown : sorted.map (fun k => (k.name.display, k.schema)) = others.map id := by
    refine map_eq_of_related texts ?_
    rintro k _ ⟨name, same, rfl⟩
    rw [same]
    rfl
  have labels : sorted.map (·.name) = others.map fun d => Json.str d.1 := by
    refine map_eq_of_related texts ?_
    rintro k _ ⟨name, same, rfl⟩
    exact same
  rw [List.map_id] at shown
  constructor
  · intro d
    rw [own, ← shown, List.mem_cons, List.mem_map]
    simp only [perm.mem_iff, eq_comm (a := d)]
    rfl
  · have distinct := ((perm.map (·.name)).cons c.defaultBucket).nodup_iff.2 names
    rw [labels, own] at distinct
    refine List.Nodup.of_map Json.str ?_
    rw [List.map_cons, List.map_cons, List.map_map]
    exact distinct

theorem schemaName_text (texts : c.Texts) {schema : String} {name : Label}
    (found : c.schemaName schema = .ok name) : name.IsText := by
  obtain ⟨rules, naming, ruleTexts⟩ := texts.naming
  rw [Config.schemaName, naming] at found
  exact Naming.normalize_text ruleTexts found

theorem addConstants_texts (texts : c.Texts) {rest : List String} {all : List SchemaConstant}
    (before : ∀ k ∈ made, k.name.IsText) (added : addConstants c made rest = .ok all) :
    ∀ k ∈ all, k.name.IsText := by
  induction rest generalizing made with
  | nil =>
    cases added
    exact before
  | cons s rest ih =>
    obtain ⟨_, _, added⟩ := bind_ok.1 added
    split at added
    · exact ih before added
    · obtain ⟨base, based, added⟩ := bind_ok.1 added
      obtain ⟨name, freed, added⟩ := bind_ok.1 added
      refine ih (fun k member => ?_) added
      rcases List.mem_append.1 member with earlier | last
      · exact before k earlier
      · rw [List.mem_singleton.1 last]
        exact Naming.freeLabel_text (schemaName_text texts based) freed

theorem schemaConstants_texts (texts : c.Texts) (computed : schemaConstants c r = .ok made) :
    ∀ k ∈ made, k.name.IsText := by
  obtain ⟨_, _, computed⟩ := bind_ok.1 computed
  obtain ⟨_, _, added⟩ := bind_ok.1 computed
  exact addConstants_texts texts (by simp) added

theorem schemaUnit_total (texts : c.Texts) (computed : schemaConstants c r = .ok made) :
    ∃ u, schemaUnit c r = .ok u := by
  have named := schemaConstants_texts texts computed
  have ordered : ∃ sorted, sortedConstants c r = .ok sorted := by
    refine succeeds_iff.2 (.bind (failsWith_of_ok computed) fun _ same => ?_)
    cases computed.symm.trans same
    split
    · refine .bind (.forM fun k member => ?_) fun _ _ => failsWith_ok _
      rw [(named k member).text]
      exact failsWith_ok _
    · exact failsWith_ok _
  obtain ⟨sorted, ordered⟩ := ordered
  refine succeeds_iff.2 (.bind (failsWith_of_ok ordered) fun _ same => ?_)
  cases ordered.symm.trans same
  rw [texts.defaultBucket.text]
  refine .bind (failsWith_ok _) fun _ _ => .bind (.mapM fun k member => ?_) fun _ _ => ?_
  · rw [(named k ((sortedConstants_ok computed ordered).mem_iff.1 member)).text]
    exact failsWith_ok _
  · exact failsWith_ok _

theorem reference_declared (computed : schemaConstants c r = .ok made)
    (declares : Declares c made u) {schema : Label} {reference : String}
    (known : SchemaInUse r schema ∨ c.isDefaultSchema schema = .ok true)
    (referred : constantReference c r schema = .ok reference) : RefersTo c u schema reference := by
  obtain ⟨name, named, rfl⟩ := map_ok.1 referred
  obtain ⟨isDefault, kind, named⟩ := bind_ok.1 named
  cases isDefault with
  | true =>
    cases named
    exact ⟨_, (declares.constants _).2 (.inl rfl), rfl, .inl ⟨kind, rfl⟩⟩
  | false =>
    have inUse : SchemaInUse r schema := known.resolve_right fun default => by
      cases kind.symm.trans default
    simp only [Bool.false_eq_true, ↓reduceIte, computed, bind_ok, pure_ok, letters_ok] at named
    obtain ⟨s, rfl, alone, _, _, ⟨⟩, rfl⟩ := named
    have filled : s ≠ "" := by
      rintro rfl
      cases kind
    obtain ⟨k, member, same⟩ := (schemaConstants_ok computed).covered s ⟨inUse, filled, kind⟩
    have found : (made.find? fun k => sameSchema k.schema s).isSome = true :=
      List.find?_isSome.2 ⟨k, member, sameSchema_iff.2 same⟩
    obtain ⟨d, found⟩ := Option.isSome_iff_exists.1 found
    have own := List.find?_some found
    refine ⟨(d.name.display, d.schema), ?_, by rw [found]; rfl, .inr ⟨kind, s, rfl, ?_⟩⟩
    · exact (declares.constants _).2 (.inr ⟨d, List.mem_of_find?_eq_some found, rfl⟩)
    · exact sameSchema_iff.1 own

end declaring

/-- The references that are written: one in the configuration of each mapping, to the schema of its
table, and one for each composable import, to the schema of what it calls. -/
structure ReferencesDeclared (c : Config) (r : ResolvedModel) (u : SchemaConstants) : Prop where
  tables : ∀ v, .entityConfiguration v ∈ (emitConfigurations c r).items →
    ∀ b, v.binding = some b → ∃ x ∈ r.mappings, ∃ t, r.storage.resolveTable? x.table = some t ∧
      b.name = t.name ∧ RefersTo c u t.schema b.schema
  functions : ∀ k, .contextClass k ∈ (emitContext c r).items → ∀ g ∈ k.functions,
    ∃ f ∈ r.conceptual.functions.entries, f.isComposable = true ∧
      ∃ target, (storeTarget c r f).outcome = .ok target ∧ g.storeName = target.name ∧
        RefersTo c u target.schema g.schema

section referring

variable {c : Config} {r : ResolvedModel} {made : List SchemaConstant} {u : SchemaConstants}

theorem mem_items_emitMappings {mappings : List Mapping} {emitted : List String}
    {unit : SourceUnit} (written : unit ∈ (emitMappings c r emitted mappings).items) :
    ∃ x ∈ mappings, ∃ path, mappingUnit c r x = .ok (unit, path) := by
  induction mappings generalizing emitted with
  | nil => cases written
  | cons x rest ih =>
    have later {emitted : List String} (written : unit ∈ (emitMappings c r emitted rest).items) :
        ∃ y ∈ x :: rest, ∃ path, mappingUnit c r y = .ok (unit, path) := by
      obtain ⟨y, member, found⟩ := ih written
      exact ⟨y, List.mem_cons_of_mem x member, found⟩
    rw [emitMappings] at written
    cases found : mappingUnit c r x with
    | error f =>
      rw [found] at written
      cases written
    | ok placed =>
      obtain ⟨own, path⟩ := placed
      simp only [found] at written
      split at written
      · have silent : unit ∉ (Trace.ofNotice (.repeatedFragment x.text)).items := by
          simp [Trace.ofNotice, Trace.items]
        exact later ((Trace.mem_items_append written).resolve_left silent)
      · rcases Trace.mem_items_append written with first | others
        · exact ⟨x, by simp, path, Trace.mem_items_one first ▸ found⟩
        · exact later others

theorem binding_of_emitted {v : EntityConfiguration} {b : TableBinding}
    (written : .entityConfiguration v ∈ (emitConfigurations c r).items)
    (bound : v.binding = some b) :
    ∃ x ∈ r.mappings, ∃ t, r.storage.resolveTable? x.table = some t ∧
      tableBinding c r t = .ok b := by
  rcases Trace.mem_items_append written with mapped | returned
  · obtain ⟨x, member, path, made⟩ := mem_items_emitMappings mapped
    obtain ⟨w, configured, made⟩ := bind_ok.1 made
    obtain ⟨_, _, same⟩ := bind_ok.1 made
    cases pure_ok.1 same
    unfold mappingConfiguration at configured
    split at configured
    · rename_i t reached
      simp only [tableConfiguration, bind_ok, pure_ok] at configured
      obtain ⟨_, _, _, _, binding, tableBound, _, _, rfl⟩ := configured
      cases bound
      exact ⟨x, member, t, reached, tableBound⟩
    · cases configured
  · obtain ⟨t, _, complex⟩ := Trace.mem_items_forEach returned
    cases Trace.mem_items_one complex
    cases bound

theorem import_of_function {k : ContextClass} {g : FunctionMethod}
    (written : .contextClass k ∈ (emitContext c r).items) (member : g ∈ k.functions) :
    ∃ f ∈ r.conceptual.functions.entries, f.isComposable = true ∧
      (functionMethod c r f).outcome = .ok g := by
  obtain ⟨methods, parts⟩ := contextUnit_parts (contextUnit_of_written written)
  rw [parts.functions] at member
  obtain ⟨method, inMethods, own⟩ := List.mem_filterMap.1 member
  obtain ⟨f, inModel, found⟩ := source_of_mapM parts.walked inMethods
  cases importMethod_ok found with
  | function composable made =>
    cases own
    exact ⟨f, inModel, composable, made⟩
  | procedure called made => cases own

theorem schema_of_target {f : FunctionImport} (member : f ∈ r.conceptual.functions.entries)
    {target : StoreTarget} (called : (storeTarget c r f).outcome = .ok target) :
    SchemaInUse r target.schema ∨ target.schema = c.defaultSchema := by
  unfold storeTarget at called
  split at called
  · rename_i g found
    cases Noted.outcome_pure_ok.1 called
    exact .inl (.inr ⟨f, member, g, found, rfl⟩)
  · obtain ⟨_, _, called⟩ := Noted.outcome_bind_eq_ok.1 called
    cases Noted.outcome_pure_ok.1 called
    exact .inr rfl

/-- The default schema is the default one, unless it cannot be compared at all. -/
theorem isDefaultSchema_default {isDefault : Bool}
    (kind : c.isDefaultSchema c.defaultSchema = .ok isDefault) : isDefault = true := by
  unfold Config.isDefaultSchema at kind
  split at kind
  · simp only [bind_ok, pure_ok] at kind
    obtain ⟨s, found, t, foundToo, rfl⟩ := kind
    cases found.symm.trans foundToo
    simp
  · cases kind
    rfl

theorem references_declared {origin : Config} {root : Xml.Element}
    (resolved : (readAndBind origin root).outcome = .ok r)
    (computed : schemaConstants c r = .ok made) (declares : Declares c made u) :
    ReferencesDeclared c r u where
  tables v written b bound := by
    obtain ⟨x, member, t, reached, tableBound⟩ := binding_of_emitted written bound
    simp only [tableBinding, bind_ok, pure_ok] at tableBound
    obtain ⟨reference, referred, rfl⟩ := tableBound
    have inUse : SchemaInUse r t.schema := .inl ⟨t, table_in_use resolved member reached, rfl⟩
    exact ⟨x, member, t, reached, rfl, reference_declared computed declares (.inl inUse) referred⟩
  functions k written g member := by
    obtain ⟨f, inModel, composable, made⟩ := import_of_function written member
    obtain ⟨target, called, _, own, referred⟩ := functionMethod_ok made
    refine ⟨f, inModel, composable, target, called, own,
      reference_declared computed declares ?_ referred⟩
    refine (schema_of_target inModel called).imp id fun same => ?_
    obtain ⟨_, named, _⟩ := map_ok.1 referred
    obtain ⟨isDefault, kind, _⟩ := bind_ok.1 named
    rw [same] at kind ⊢
    rwa [isDefaultSchema_default kind] at kind

end referring

section tax

/-- Two tables in one schema that is written in two ways, one in the default schema, and a function
in a schema of its own. -/
def taxDocument : Xml.Element :=
  document
    [.plain "EntityType" [("Name", "Orders")]
      [.plain "Property" [("Name", "Id"), ("Type", "int")] []],
     .plain "EntityType" [("Name", "Items")]
      [.plain "Property" [("Name", "Id"), ("Type", "int")] []],
     .plain "EntityType" [("Name", "Notes")]
      [.plain "Property" [("Name", "Id"), ("Type", "int")] []],
     .plain "Function" [("Name", "Tax"), ("Schema", "general")] [],
     .plain "EntityContainer" []
      [.plain "EntitySet" [("Name", "Orders"), ("EntityType", "Orders"), ("Schema", "sales")] [],
       .plain "EntitySet" [("Name", "Items"), ("EntityType", "Items"), ("Schema", "Sales")] []]]
    [.plain "EntityType" [("Name", "Order")] [],
     .plain "EntityType" [("Name", "Item")] [],
     .plain "EntityType" [("Name", "Note")] [],
     .plain "EntityContainer" []
      [.plain "FunctionImport" [("Name", "TaxOf"), ("IsComposable", "true")] []]]
    [.plain "EntitySetMapping" [("TypeName", "Order"), ("StoreEntitySet", "Orders")] [],
     .plain "EntitySetMapping" [("TypeName", "Item"), ("StoreEntitySet", "Items")] [],
     .plain "EntitySetMapping" [("TypeName", "Note"), ("StoreEntitySet", "Notes")] [],
     .plain "FunctionImportMapping" [("FunctionImportName", "TaxOf"), ("FunctionName", "Tax")] []]

set_option maxRecDepth 100000 in
theorem tax_constants :
    ∃ r, (readAndBind (.ofSettings .defaults) taxDocument).outcome = .ok r ∧
      (schemaConstants (.ofSettings .defaults) r).toOption =
        some [⟨.str "General1", "general"⟩, ⟨.str "Sales", "Sales"⟩] :=
  ok_of_any (by decide +kernel)

end tax

end EntityScaffold.Emission
