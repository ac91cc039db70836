import EntityScaffold.Proofs.Emission.SchemaConstants

/-!
What can stop emission. Whatever emitters look up is there; so all that is left is a type without a
counterpart in the generated code, a relationship between many and many, and a schema constant that
finds no free name.
-/
namespace EntityScaffold.Emission
open Source

def Supported (type : Option String) : Prop :=
  (builtinTypes.lookup (primitiveName (type.getD ""))).isSome = true

instance (type : Option String) : Decidable (Supported type) :=
  inferInstanceAs (Decidable (_ = _))

def elementOf (type : String) : String :=
  String.ofList ((Reading.enclosed? Reading.collectionOpening type.toList).getD type.toList)

/-- What emission needs: types with counterparts, relationships with one side at least, and names
for the schema constants. -/
structure Emittable (c : Config) (r : ResolvedModel) : Prop where
  properties : ∀ e ∈ r.usedEntities, ∀ p ∈ e.properties, Supported (some p.type)
  complexProperties : ∀ t ∈ r.returnedComplexTypes, ∀ p ∈ t.properties, Supported (some p.type)
  parameters : ∀ f ∈ r.conceptual.functions.entries, ∀ p ∈ f.parameters, Supported p.type
  returns : ∀ f ∈ r.conceptual.functions.entries, f.isComposable = true → f.returnsRows = false →
    ∀ type ∈ f.returnType, type ≠ "" → Supported (some (elementOf type))
  shapes : ∀ x ∈ r.mappings, ∀ t, r.storage.resolveTable? x.table = some t →
    ∀ k ∈ t.foreignKeys, ¬ (k.source.isMany = true ∧ k.destination.isMany = true)
  constants : ∀ base, schemaConstants c r ≠ .error (.noFreeName base)

/-- The three kinds of faults that can stop emission. -/
def StopsEmission (f : Fault) : Prop :=
  (∃ type owner, f = .unsupportedType type owner) ∨
    (∃ source destination table key, f = .unsupportedShape source destination table key) ∨
    ∃ base, f = .noFreeName base

def EmissionFault (c : Config) (r : ResolvedModel) (f : Fault) : Prop :=
  StopsEmission f ∧ ¬ Emittable c r

def ConversionFault (c : Config) (f : Fault) : Prop :=
  ∃ rules, c.naming = .ok rules ∧ Naming.RefusedAcronym rules f

def EmissionStop (c : Config) (r : ResolvedModel) (f : Fault) : Prop :=
  EmissionFault c r f ∨ ConversionFault c f

section types

theorem resolve_fails (type owner : Option String) :
    FailsWith (fun f => StopsEmission f ∧ ¬ Supported type) (builtinTypes.resolve type owner) := by
  unfold TypeTable.resolve Supported
  split
  · exact failsWith_ok _
  · rename_i missing
    exact failsWith_error.2 ⟨.inl ⟨_, _, rfl⟩, by simp [missing]⟩

theorem resolve_ok {type owner : Option String} {t : CodeType} :
    builtinTypes.resolve type owner = .ok t ↔
      builtinTypes.lookup (primitiveName (type.getD "")) = some t := by
  unfold TypeTable.resolve
  split
  · rename_i known
    rw [known]
    simp
  · rename_i unknown
    rw [unknown]
    simp

theorem supported_of_resolve {type owner : Option String} {t : CodeType}
    (found : builtinTypes.resolve type owner = .ok t) : Supported type := by
  rw [Supported, resolve_ok.1 found]
  rfl

theorem declaration_fails (type owner : Option String) (nullable : Bool) :
    FailsWith (fun f => StopsEmission f ∧ ¬ Supported type)
      (builtinTypes.declaration type nullable owner) :=
  (resolve_fails type owner).map

theorem supported_of_declaration {type owner : Option String} {nullable : Bool} {t : String}
    (found : builtinTypes.declaration type nullable owner = .ok t) : Supported type := by
  obtain ⟨_, resolved, _⟩ := map_ok.1 found
  exact supported_of_resolve resolved

theorem scalarReturnType_given {f : FunctionImport} {type : String}
    (returned : f.returnType = some type) (filled : type ≠ "") :
    scalarReturnType f = builtinTypes.declaration (some (elementOf type)) true (some f.name) := by
  rw [scalarReturnType, returned]
  split
  · contradiction
  · rename_i empty
    exact absurd (Option.some.inj empty) filled
  · rename_i same
    cases same
    rfl

end types

section labels

variable {c : Config} {schema : Label}

theorem isDefaultSchema_total (texts : c.Texts) (optional : schema.IsOptionalText) :
    ∃ isDefault, c.isDefaultSchema schema = .ok isDefault := by
  unfold Config.isDefaultSchema
  rcases optional with rfl | text
  · exact ⟨true, rfl⟩
  · split
    · rw [text.letters, texts.defaultSchema.letters]
      exact ⟨_, rfl⟩
    · exact ⟨true, rfl⟩

theorem text_of_other (optional : schema.IsOptionalText)
    (other : c.isDefaultSchema schema = .ok false) : schema.IsText := by
  rcases optional with rfl | text
  · cases other
  · exact text

theorem bucket_total (texts : c.Texts) (optional : schema.IsOptionalText) :
    ∃ bucket, c.bucket schema = .ok bucket := by
  obtain ⟨isDefault, kind⟩ := isDefaultSchema_total texts optional
  exact ⟨_, bind_ok.2 ⟨isDefault, kind, rfl⟩⟩

theorem bucket_text (texts : c.Texts) (optional : schema.IsOptionalText) {bucket : Label}
    (found : c.bucket schema = .ok bucket) : bucket.IsText := by
  obtain ⟨isDefault, kind, found⟩ := bind_ok.1 found
  rw [← pure_ok.1 found]
  cases isDefault with
  | true => exact texts.defaultBucket
  | false => exact text_of_other optional kind

theorem path_total (texts : c.Texts) {u : SourceUnit}
    (parts : ∀ l ∈ u.pathParts c.unitNames, l.IsText) : ∃ path, u.path c = .ok path := by
  unfold SourceUnit.path
  rw [texts.fileExtension.text]
  refine succeeds_iff.2 (.bind (.mapM fun l member => ?_) fun _ _ => failsWith_ok _)
  rw [(parts l member).text]
  exact failsWith_ok _

theorem path_alone (texts : c.Texts) {u : SourceUnit} {name : String}
    (parts : u.pathParts c.unitNames = [.str name]) : ∃ path, u.path c = .ok path := by
  refine path_total texts fun l member => ?_
  rw [parts] at member
  exact ⟨name, List.mem_singleton.1 member⟩

theorem path_in_bucket (texts : c.Texts) {u : SourceUnit} {folder : String} {bucket name : Label}
    (parts : u.pathParts c.unitNames = [.str folder, bucket, name]) (placed : bucket.IsText)
    (named : name.IsText) : ∃ path, u.path c = .ok path := by
  refine path_total texts fun l member => ?_
  simp only [parts, List.mem_cons, List.not_mem_nil, or_false] at member
  rcases member with rfl | rfl | rfl
  · exact Label.isText_str folder
  · exact placed
  · exact named

end labels

section constants

variable {c : Config} {r : ResolvedModel}

theorem schemaName_fails (texts : c.Texts) (schema : String) :
    FailsWith (ConversionFault c) (c.schemaName schema) := by
  obtain ⟨rules, naming, ruleTexts⟩ := texts.naming
  rw [Config.schemaName, naming]
  exact (Naming.normalize_fails ruleTexts schema false).imp
    fun f refused => ⟨rules, naming, refused⟩

/-- A constant has no name: none is free, or the schema has no fixed name. -/
def ConstantFault (c : Config) (f : Fault) : Prop :=
  (∃ base, f = .noFreeName base) ∨ ConversionFault c f

theorem addConstants_fails (texts : c.Texts) (made : List SchemaConstant)
    (schemas : List String) : FailsWith (ConstantFault c) (addConstants c made schemas) := by
  induction schemas generalizing made with
  | nil => exact failsWith_ok _
  | cons s rest ih =>
    obtain ⟨isDefault, kind⟩ := isDefaultSchema_total texts (.inr (Label.isText_str s))
    rw [addConstants]
    refine .bind (failsWith_of_ok kind) fun _ _ => ?_
    split
    · exact ih made
    · refine .bind ((schemaName_fails texts s).imp fun _ => .inr) fun base named => ?_
      refine .bind ?_ fun _ _ => ih _
      exact (Naming.freeLabel_fails (schemaName_text texts named) _).imp
        fun f overflow => .inl ⟨_, overflow.1⟩

theorem schemaInUse_text (prepared : Prepared r) {schema : Label}
    (inUse : SchemaInUse r schema) : schema.IsText := by
  rcases inUse with ⟨t, used, rfl⟩ | ⟨f, _, g, called, rfl⟩
  · exact prepared.tableSchemas t (List.mem_filter.1 used).1
  · obtain ⟨_, _, found⟩ := Option.bind_eq_some_iff.1 called
    exact prepared.functionSchemas g (Catalog.mem_of_find? found)

theorem schemaConstants_fails (texts : c.Texts) (prepared : Prepared r) :
    FailsWith (ConstantFault c) (schemaConstants c r) := by
  have inUse : ∀ l ∈ (schemasInUse r).filter Label.isGiven, l.IsText := fun l member =>
    schemaInUse_text prepared (mem_schemasInUse.1 (List.mem_filter.1 member).1)
  have sorted : ∃ schemas, sortedSchemas r = .ok schemas := by
    refine succeeds_iff.2 (.bind (.mapM fun l member => ?_) fun given walked => ?_)
    · exact failsWith_of_ok (inUse l member).atom
    · refine .bind (.mapM fun l member => ?_) fun _ _ => failsWith_ok _
      obtain ⟨label, listed, own⟩ := source_of_mapM walked member
      rw [Label.atom_ok own]
      exact failsWith_of_ok (inUse label listed).letters
  obtain ⟨schemas, sorted⟩ := sorted
  rw [schemaConstants, texts.defaultBucket.atom, sorted]
  exact addConstants_fails texts [] schemas

theorem constants_stop (texts : c.Texts) (prepared : Prepared r) :
    FailsWith (EmissionStop c r) (schemaConstants c r) := by
  intro f failed
  rcases schemaConstants_fails texts prepared f failed with ⟨base, rfl⟩ | conversion
  · exact .inl ⟨.inr (.inr ⟨base, rfl⟩), fun all => all.constants base failed⟩
  · exact .inr conversion

end constants

section emitters

variable {c : Config} {r : ResolvedModel}

theorem emitSchema_stops (texts : c.Texts) (prepared : Prepared r) :
    (emitSchema c r).StopsWith (EmissionStop c r) := by
  refine .ofExcept (.map ?_)
  cases computed : schemaConstants c r with
  | error f =>
    have stopped : schemaUnit c r = .error f := by
      simp only [schemaUnit, sortedConstants, computed, bind, Except.bind]
    rw [stopped]
    exact failsWith_error.2 (constants_stop texts prepared f computed)
  | ok made =>
    obtain ⟨u, written⟩ := schemaUnit_total texts computed
    exact failsWith_of_ok written

theorem orderedEntities_total (prepared : Prepared r) :
    ∃ entities, r.orderedEntities = .ok entities := by
  unfold ResolvedModel.orderedEntities ConceptualModel.orderedEntities
  refine succeeds_iff.2 (.bind (.forM fun e member => ?_) fun _ _ => failsWith_ok _)
  rcases prepared.schemas e (List.mem_filter.1 member).1 with none | text
  · rw [none]
    exact failsWith_ok _
  · split
    · rw [text.letters]
      exact failsWith_ok _
    · exact failsWith_ok _

theorem used_of_ordered {entities : List Entity} (ordered : r.orderedEntities = .ok entities) :
    ∀ e ∈ entities, e ∈ r.usedEntities := by
  have same : entities = r.usedEntities := orderedEntities_ok ordered
  exact fun e member => same ▸ member

theorem memberOf_fails (owner : String) (p : Property) :
    FailsWith (fun f => StopsEmission f ∧ ¬ Supported (some p.type)) (memberOf owner p) :=
  .bind (declaration_fails _ _ _) fun _ _ => failsWith_ok _

theorem members_fails {owner : String} {ps : List Property}
    (needed : Emittable c r → ∀ p ∈ ps, Supported (some p.type)) :
    FailsWith (EmissionStop c r) (ps.mapM (memberOf owner)) := by
  refine .mapM fun p member => (memberOf_fails owner p).imp ?_
  rintro f ⟨kind, missing⟩
  exact .inl ⟨kind, fun all => missing (needed all p member)⟩

theorem schema_of_used (prepared : Prepared r) {e : Entity} (inUse : e ∈ r.usedEntities) :
    e.schema.IsOptionalText :=
  prepared.schemas e (mem_usedEntities.1 inUse).1

theorem entityClass_fails (texts : c.Texts) (prepared : Prepared r) {e : Entity}
    (inUse : e ∈ r.usedEntities) : FailsWith (EmissionStop c r) (entityClass c e) := by
  obtain ⟨bucket, placed⟩ := bucket_total texts (schema_of_used prepared inUse)
  refine .bind (failsWith_of_ok placed) fun bucket _ => ?_
  refine .bind (.bind (.mapM fun n member => ?_) fun _ _ => failsWith_ok _) fun _ _ => ?_
  · obtain ⟨target, found⟩ := bucket_total texts (prepared.targets e inUse n member)
    exact failsWith_of_ok found
  · exact .bind (members_fails fun all => all.properties e inUse) fun _ _ => failsWith_ok _

theorem complexClass_fails {t : ComplexType} (returned : t ∈ r.returnedComplexTypes) :
    FailsWith (EmissionStop c r) (complexClass c t) :=
  .bind (members_fails fun all => all.complexProperties t returned) fun _ _ => failsWith_ok _

theorem emitDomain_stops (texts : c.Texts) (prepared : Prepared r) :
    (emitDomain c r).StopsWith (EmissionStop c r) := by
  refine .append (.after ?_ fun entities ordered => ?_) ?_
  · obtain ⟨entities, ordered⟩ := orderedEntities_total prepared
    exact failsWith_of_ok ordered
  · rw [orderedEntities_ok ordered]
    exact .forEach fun e inUse => .ofExcept (entityClass_fails texts prepared inUse).map
  · exact .forEach fun t returned => .ofExcept (complexClass_fails returned).map

theorem constantReference_fails (texts : c.Texts)
    (prepared : Prepared r) {schema : Label} (optional : schema.IsOptionalText) :
    FailsWith (EmissionStop c r) (constantReference c r schema) := by
  obtain ⟨isDefault, kind⟩ := isDefaultSchema_total texts optional
  refine .map (.bind (failsWith_of_ok kind) fun found same => ?_)
  cases kind.symm.trans same
  cases isDefault with
  | true => exact failsWith_ok _
  | false =>
    obtain ⟨s, rfl⟩ := text_of_other optional kind
    refine .bind (failsWith_ok s) fun _ same => ?_
    cases same
    refine .bind ((schemaName_fails texts s).imp fun _ => .inr) fun _ _ => ?_
    exact .bind (constants_stop texts prepared) fun _ _ => failsWith_ok _

theorem shapeOf_eq_none {k : ForeignKey} :
    shapeOf k = none ↔ k.source.isMany = true ∧ k.destination.isMany = true := by
  unfold shapeOf
  cases k.source.isMany <;> cases k.destination.isMany <;> simp

theorem relationship_fails {t : Table} {entityType : String} {k : ForeignKey}
    (needed : Emittable c r → ¬ (k.source.isMany = true ∧ k.destination.isMany = true)) :
    FailsWith (EmissionStop c r) (relationship r t entityType k) := by
  unfold relationship
  split
  · exact failsWith_ok _
  · rename_i shapeless
    exact failsWith_error.2 <|
      .inl ⟨.inr (.inl ⟨_, _, _, _, rfl⟩), fun all => needed all (shapeOf_eq_none.1 shapeless)⟩

theorem mappingConfiguration_fails (texts : c.Texts)
    (prepared : Prepared r) {x : Mapping} (member : x ∈ r.mappings) :
    FailsWith (EmissionStop c r) (mappingConfiguration c r x) := by
  obtain ⟨t, reached, columns⟩ := prepared.mapped x member
  have schema : t.schema.IsOptionalText :=
    .inr (prepared.tableSchemas t (Binding.mem_of_resolveTable reached))
  obtain ⟨bucket, placed⟩ := bucket_total texts schema
  simp only [mappingConfiguration, reached]
  refine .bind (failsWith_of_ok placed) fun _ _ => .bind (.mapM fun y listed => ?_) fun _ _ => ?_
  · obtain ⟨d, found⟩ :=
      Option.isSome_iff_exists.1 ((Catalog.find?_isSome_iff _ _).2 (columns y listed))
    rw [facetsFor, found]
    exact failsWith_ok _
  · refine .bind (.bind (constantReference_fails texts prepared schema)
      fun _ _ => failsWith_ok _) fun _ _ => ?_
    refine .bind (.mapM fun k inTable => ?_) fun _ _ => failsWith_ok _
    exact relationship_fails fun all => all.shapes x member t reached k inTable

theorem bucket_of_configuration {x : Mapping} {v : EntityConfiguration} (texts : c.Texts)
    (prepared : Prepared r) (made : mappingConfiguration c r x = .ok v) : v.bucket.IsText := by
  unfold mappingConfiguration at made
  split at made
  · rename_i t reached
    simp only [tableConfiguration, bind_ok, pure_ok] at made
    obtain ⟨bucket, placed, _, _, _, _, _, _, rfl⟩ := made
    exact bucket_text texts
      (.inr (prepared.tableSchemas t (Binding.mem_of_resolveTable reached))) placed
  · cases made

theorem mappingUnit_fails (texts : c.Texts) (prepared : Prepared r)
    {x : Mapping} (member : x ∈ r.mappings) :
    FailsWith (EmissionStop c r) (mappingUnit c r x) := by
  refine .bind (mappingConfiguration_fails texts prepared member) fun v made => ?_
  have bucket := bucket_of_configuration texts prepared made
  obtain ⟨path, placed⟩ : ∃ path, (SourceUnit.entityConfiguration v).path c = .ok path :=
    path_in_bucket texts rfl bucket (Label.isText_str _)
  exact .bind (failsWith_of_ok placed) fun _ _ => failsWith_ok _

theorem emitMappings_stops {P : Fault → Prop} {mappings : List Mapping}
    (each : ∀ x ∈ mappings, FailsWith P (mappingUnit c r x)) (emitted : List String) :
    (emitMappings c r emitted mappings).StopsWith P := by
  -- What has been emitted only decides which units are left out, never whether the walk goes on.
  induction mappings generalizing emitted with
  | nil => exact Trace.stopsWith_of_done rfl
  | cons x rest ih =>
    have others := fun y later => each y (List.mem_cons_of_mem x later)
    have own := each x (by simp)
    rw [emitMappings]
    cases found : mappingUnit c r x with
    | error f =>
      intro g stopped
      cases stopped
      exact own _ found
    | ok placed =>
      obtain ⟨unit, path⟩ := placed
      simp only
      split
      · exact (Trace.stopsWith_of_done rfl).append (ih others emitted)
      · exact (Trace.stopsWith_one unit).append (ih others (path :: emitted))

theorem emitConfigurations_stops (texts : c.Texts)
    (prepared : Prepared r) : (emitConfigurations c r).StopsWith (EmissionStop c r) := by
  refine .append (emitMappings_stops (fun x member => ?_) []) ?_
  · exact mappingUnit_fails texts prepared member
  · exact .forEach fun t _ => Trace.stopsWith_one _

theorem rowType_total (texts : c.Texts) (prepared : Prepared r) {f : FunctionImport}
    (member : f ∈ r.conceptual.functions.entries) (rows : f.returnsRows = true) :
    ∃ row, (rowType c r f).outcome = .ok row := by
  unfold rowType
  split
  · rename_i given
    cases declared : f.returnComplexType with
    | none => simp [isGiven, declared] at given
    | some name =>
      obtain ⟨t, found⟩ := Option.isSome_iff_exists.1 ((Catalog.find?_isSome_iff _ _).2
        (prepared.returnedTypes f member name declared))
      simp only [Option.getD_some, found]
      exact ⟨_, rfl⟩
  · rename_i other
    have given : isGiven f.returnEntityType = true := by
      simpa [FunctionImport.returnsRows, other] using rows
    cases declared : f.returnEntityType with
    | none => simp [isGiven, declared] at given
    | some name =>
      obtain ⟨e, found⟩ := Option.isSome_iff_exists.1 ((Catalog.find?_isSome_iff _ _).2
        (prepared.returnedEntities f member name declared))
      obtain ⟨bucket, placed⟩ :=
        bucket_total texts (prepared.schemas e (Catalog.mem_of_find? found))
      simp only [Option.getD_some, found]
      rw [placed]
      cases e.isUsed <;> exact ⟨_, rfl⟩

theorem typedParameters_fails {f : FunctionImport} (member : f ∈ r.conceptual.functions.entries) :
    FailsWith (EmissionStop c r) (typedParameters f) := by
  refine .mapM fun p inImport => .map ((resolve_fails _ _).imp ?_)
  rintro g ⟨kind, missing⟩
  exact .inl ⟨kind, fun all => missing (all.parameters f member p inImport)⟩

theorem scalarReturnType_fails {f : FunctionImport} (member : f ∈ r.conceptual.functions.entries)
    (composable : f.isComposable = true) (scalar : f.returnsRows = false) :
    FailsWith (EmissionStop c r) (scalarReturnType f) := by
  unfold scalarReturnType
  split
  · exact failsWith_ok _
  · exact failsWith_ok _
  · rename_i type filled declared
    refine (declaration_fails _ _ _).imp ?_
    rintro g ⟨kind, missing⟩
    refine .inl ⟨kind, fun all => missing (all.returns f member composable scalar type declared ?_)⟩
    exact fun empty => filled empty

theorem storeTarget_total (prepared : Prepared r) (texts : c.Texts) (f : FunctionImport) :
    ∃ target, (storeTarget c r f).outcome = .ok target ∧ target.schema.IsText := by
  unfold storeTarget
  split
  · rename_i g called
    obtain ⟨_, _, found⟩ := Option.bind_eq_some_iff.1 called
    exact ⟨_, rfl, prepared.functionSchemas g (Catalog.mem_of_find? found)⟩
  · exact ⟨_, rfl, texts.defaultSchema⟩

theorem functionMethod_fails (texts : c.Texts) (prepared : Prepared r)
    {f : FunctionImport} (member : f ∈ r.conceptual.functions.entries)
    (composable : f.isComposable = true) :
    FailsWith (EmissionStop c r) (functionMethod c r f).outcome := by
  obtain ⟨target, called, text⟩ := storeTarget_total prepared texts f
  have referred := constantReference_fails texts prepared (.inr text)
  simp only [functionMethod, Noted.outcome_bind]
  refine .bind (failsWith_of_ok called) fun _ same => ?_
  cases called.symm.trans same
  refine .bind (typedParameters_fails member) fun _ _ => ?_
  split
  · rename_i rows
    obtain ⟨row, found⟩ := rowType_total texts prepared member rows
    simp only [Noted.outcome_bind]
    refine .bind (.bind (failsWith_of_ok found) fun _ _ => failsWith_ok _) fun _ _ => ?_
    exact .bind referred fun _ _ => failsWith_ok _
  · rename_i scalar
    simp only [Noted.outcome_bind]
    refine .bind (scalarReturnType_fails member composable (by simpa using scalar)) fun _ _ => ?_
    exact .bind referred fun _ _ => failsWith_ok _

theorem callReturn_fails (texts : c.Texts) (prepared : Prepared r) {f : FunctionImport}
    (member : f ∈ r.conceptual.functions.entries) :
    FailsWith (EmissionStop c r) (callReturn c r f (callKind f)).outcome := by
  unfold callReturn
  split
  · cases outputs : outputsOf f with
    | nil => exact failsWith_ok _
    | cons p rest =>
      have inImport : p ∈ f.parameters :=
        (List.mem_filter.1 (show p ∈ outputsOf f by simp [outputs])).1
      simp only [Noted.outcome_bind, Noted.outcome_liftM]
      refine .bind ((resolve_fails _ _).imp ?_) fun _ _ => failsWith_ok _
      rintro g ⟨kind, missing⟩
      exact .inl ⟨kind, fun all => missing (all.parameters f member p inImport)⟩
  · rename_i kind
    have rows : f.returnsRows = true := by
      unfold callKind at kind
      split at kind
      · cases kind
      · split at kind
        · assumption
        · cases kind
    obtain ⟨row, found⟩ := rowType_total texts prepared member rows
    simp only [Noted.outcome_bind]
    exact .bind (failsWith_of_ok found) fun _ _ => failsWith_ok _
  · exact failsWith_ok _

theorem procedureMethod_fails (texts : c.Texts) (prepared : Prepared r) {f : FunctionImport}
    (member : f ∈ r.conceptual.functions.entries) :
    FailsWith (EmissionStop c r) (procedureMethod c r f).outcome := by
  obtain ⟨target, called, _⟩ := storeTarget_total prepared texts f
  simp only [procedureMethod, Noted.outcome_bind]
  refine .bind (failsWith_of_ok called) fun _ _ => ?_
  refine .bind (callReturn_fails texts prepared member) fun _ _ => ?_
  exact .bind (typedParameters_fails member) fun _ _ => failsWith_ok _

theorem importMethod_fails (texts : c.Texts) (prepared : Prepared r)
    {f : FunctionImport} (member : f ∈ r.conceptual.functions.entries) :
    FailsWith (EmissionStop c r) (importMethod c r f).outcome := by
  unfold importMethod
  split
  · rename_i composable
    rw [Noted.outcome_bind]
    exact .bind (functionMethod_fails texts prepared member composable)
      fun _ _ => failsWith_ok _
  · rw [Noted.outcome_bind]
    exact .bind (procedureMethod_fails texts prepared member) fun _ _ => failsWith_ok _

theorem bucket_of_used (texts : c.Texts) (prepared : Prepared r) {e : Entity}
    (inUse : e ∈ r.usedEntities) : ∃ bucket, c.bucket e.schema = .ok bucket ∧ bucket.IsText := by
  have optional := schema_of_used prepared inUse
  obtain ⟨bucket, placed⟩ := bucket_total texts optional
  exact ⟨bucket, placed, bucket_text texts optional placed⟩

theorem contextUnit_fails (texts : c.Texts) (prepared : Prepared r) :
    FailsWith (EmissionStop c r) (contextUnit c r).outcome := by
  obtain ⟨entities, ordered⟩ := orderedEntities_total prepared
  have inUse := used_of_ordered ordered
  simp only [contextUnit, Noted.outcome_bind, Noted.outcome_mapM, Noted.outcome_liftM,
    Noted.outcome_lift, ordered]
  refine .bind (failsWith_ok entities) fun _ same => ?_
  cases same
  refine .bind (.mapM fun e member => ?_) fun _ _ => .bind (.bind (.mapM fun e member => ?_)
    fun _ _ => failsWith_ok _) fun _ _ => .bind (.mapM fun f member => ?_) fun _ _ => failsWith_ok _
  · obtain ⟨bucket, placed, _⟩ := bucket_of_used texts prepared (inUse e member)
    obtain ⟨s, named⟩ := prepared.fixedNames e (mem_usedEntities.1 (inUse e member)).1
    rw [entitySetMember, entityTypeOf, placed, named]
    exact failsWith_ok _
  · obtain ⟨bucket, placed, _⟩ := bucket_of_used texts prepared (inUse e member)
    rw [entityConfigurationType, placed]
    exact failsWith_ok _
  · exact importMethod_fails texts prepared member

theorem emitContext_stops (texts : c.Texts) (prepared : Prepared r) :
    (emitContext c r).StopsWith (EmissionStop c r) := by
  refine .ofNoted ?_
  rw [Noted.outcome_bind]
  exact .bind (contextUnit_fails texts prepared) fun _ _ => failsWith_ok _

theorem emitRepositories_stops (texts : c.Texts) (prepared : Prepared r) :
    (emitRepositories c r).StopsWith (EmissionStop c r) := by
  obtain ⟨entities, ordered⟩ := orderedEntities_total prepared
  refine .after (failsWith_of_ok ordered) fun listed found => .forEach fun e member => ?_
  obtain ⟨bucket, placed, _⟩ := bucket_of_used texts prepared (used_of_ordered found e member)
  refine .after (.bind (failsWith_of_ok placed) fun _ _ => failsWith_ok _) fun u _ => ?_
  exact (Trace.stopsWith_one _).append (Trace.stopsWith_one _)

theorem domainUnit_path (texts : c.Texts) (prepared : Prepared r) {u : SourceUnit}
    (made : u ∈ (emitDomain c r).items) : ∃ path, u.path c = .ok path := by
  rcases Trace.mem_items_append made with inUse | returned
  · obtain ⟨entities, ordered, inUse⟩ := Trace.mem_items_after inUse
    obtain ⟨e, member, made⟩ := Trace.mem_items_forEach inUse
    obtain ⟨d, own, rfl⟩ := map_ok.1 (Trace.mem_items_ofExcept made)
    have used := used_of_ordered ordered e member
    obtain ⟨bucket, placed, text⟩ := bucket_of_used texts prepared used
    obtain ⟨found, className, _⟩ := entityClass_ok own
    cases placed.symm.trans found
    exact path_in_bucket texts rfl text
      (className ▸ prepared.fixedNames e (mem_usedEntities.1 used).1)
  · obtain ⟨t, member, made⟩ := Trace.mem_items_forEach returned
    obtain ⟨d, own, rfl⟩ := map_ok.1 (Trace.mem_items_ofExcept made)
    obtain ⟨bucket, className, _⟩ := complexClass_ok own
    obtain ⟨name, _, found⟩ := List.mem_filterMap.1 member
    exact path_in_bucket texts rfl (bucket ▸ texts.defaultBucket)
      (className ▸ prepared.complexNames t (Catalog.mem_of_find? found))

theorem configurationUnit_path (texts : c.Texts) {u : SourceUnit}
    (made : u ∈ (emitConfigurations c r).items) : ∃ path, u.path c = .ok path := by
  rcases Trace.mem_items_append made with mapped | returned
  · obtain ⟨x, _, path, own⟩ := mem_items_emitMappings mapped
    obtain ⟨v, _, own⟩ := bind_ok.1 own
    obtain ⟨path, placed, same⟩ := bind_ok.1 own
    cases pure_ok.1 same
    exact ⟨path, placed⟩
  · obtain ⟨t, _, made⟩ := Trace.mem_items_forEach returned
    rw [Trace.mem_items_one made]
    exact path_in_bucket texts rfl texts.defaultBucket (Label.isText_str _)

theorem repositoryUnit_path (texts : c.Texts) (prepared : Prepared r) {u : SourceUnit}
    (made : u ∈ (emitRepositories c r).items) : ∃ path, u.path c = .ok path := by
  obtain ⟨entities, ordered, made⟩ := Trace.mem_items_after made
  obtain ⟨e, member, made⟩ := Trace.mem_items_forEach made
  obtain ⟨v, own, made⟩ := Trace.mem_items_after made
  obtain ⟨bucket, placed, text⟩ :=
    bucket_of_used texts prepared (used_of_ordered ordered e member)
  obtain ⟨found, located, rfl⟩ := repositoryOf_ok own
  cases placed.symm.trans located
  rcases Trace.mem_items_append made with interface | own
  · rw [Trace.mem_items_one interface]
    exact path_in_bucket texts rfl text (Label.isText_str _)
  · rw [Trace.mem_items_one own]
    exact path_in_bucket texts rfl text (Label.isText_str _)

theorem unit_path (texts : c.Texts) (prepared : Prepared r) (e : Emitter) {u : SourceUnit}
    (made : u ∈ (e.units c r).items) : ∃ path, u.path c = .ok path := by
  cases e with
  | schemaConstants =>
    obtain ⟨constants, _, rfl⟩ := map_ok.1 (Trace.mem_items_ofExcept made)
    exact path_alone texts rfl
  | domainModel => exact domainUnit_path texts prepared made
  | mappingConfiguration => exact configurationUnit_path texts made
  | context =>
    obtain ⟨context, _, same⟩ := Noted.outcome_bind_eq_ok.1 (Trace.mem_items_ofNoted made)
    cases Noted.outcome_pure_ok.1 same
    exact path_alone texts rfl
  | repository => exact repositoryUnit_path texts prepared made

theorem units_stop (texts : c.Texts) (prepared : Prepared r)
    (e : Emitter) : (e.units c r).StopsWith (EmissionStop c r) := by
  cases e with
  | schemaConstants => exact emitSchema_stops texts prepared
  | domainModel => exact emitDomain_stops texts prepared
  | mappingConfiguration => exact emitConfigurations_stops texts prepared
  | context => exact emitContext_stops texts prepared
  | repository => exact emitRepositories_stops texts prepared

theorem emitModel_stopsWith (texts : c.Texts) (prepared : Prepared r) :
    (emitModel c r).StopsWith (EmissionStop c r) := by
  refine .append (.append (Trace.stopsWith_one _) (.forEach fun e _ => ?_)) (Trace.stopsWith_one _)
  refine .append (Trace.stopsWith_one _) (.map (.tryMap ?_ fun u made => ?_))
  · exact units_stop texts prepared e
  · obtain ⟨path, placed⟩ := unit_path texts prepared e made
    exact .bind (failsWith_of_ok placed) fun _ _ => failsWith_ok _

theorem not_conversionFault (unescaped : c.Unescaped) (f : Fault) : ¬ ConversionFault c f := by
  rintro ⟨rules, naming, a, refused, _⟩
  exact Naming.not_refused (unescaped rules naming) a refused

theorem emitModel_stops (texts : c.Texts) (unescaped : c.Unescaped) (prepared : Prepared r) :
    (emitModel c r).StopsWith (EmissionFault c r) :=
  fun f stopped =>
    (emitModel_stopsWith texts prepared f stopped).resolve_right (not_conversionFault unescaped f)

end emitters

end EntityScaffold.Emission
