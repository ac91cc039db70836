import EntityScaffold.Proofs.Binding.Reordering
import EntityScaffold.Run

/-!
Emission from models in another order. What is emitted depends on what names find in a model, on its
entities in their own order, on its schemas sorted, and on its mappings and function imports as they
come; a model whose tables and entities stand elsewhere emits the same, up to the same fault.
-/
namespace EntityScaffold.Emission
open Source

/-- All that emission asks of a model. -/
structure Alike (m n : ResolvedModel) : Prop where
  entities : m.orderedEntities = n.orderedEntities
  schemas : sortedSchemas m = sortedSchemas n
  table : m.storage.tables.find? = n.storage.tables.find?
  resolve : m.storage.resolveTable? = n.storage.resolveTable?
  entity : m.conceptual.entities.find? = n.conceptual.entities.find?
  complexType : m.conceptual.complexTypes.find? = n.conceptual.complexTypes.find?
  stored : m.storedFunctionFor? = n.storedFunctionFor?
  returned : m.returnedComplexTypes = n.returnedComplexTypes
  functions : m.conceptual.functions = n.conceptual.functions
  mappings : m.mappings = n.mappings

section alike

variable {m n : ResolvedModel} (alike : Alike m n) (c : Config)
include alike

theorem schemaConstants_alike : schemaConstants c m = schemaConstants c n := by
  rw [schemaConstants, schemaConstants, alike.schemas]

theorem schemaUnit_alike : schemaUnit c m = schemaUnit c n := by
  rw [schemaUnit, schemaUnit, sortedConstants, sortedConstants, schemaConstants_alike alike]

theorem constantReference_alike : constantReference c m = constantReference c n := by
  funext schema
  rw [constantReference, constantReference, constantName, constantName, schemaConstants_alike alike]

theorem relationship_alike : relationship m = relationship n := by
  funext t entityType k
  have others : otherMembers m k = otherMembers n k := by
    rw [otherMembers, otherMembers, alike.table]
  cases shaped : shapeOf k with
  | none => rw [relationship, relationship, shaped]
  | some shape =>
    have calls : callsFor m t entityType k shape = callsFor n t entityType k shape := by
      cases shape with
      | oneToMany => simp only [callsFor, others]
      | manyToOne => rfl
      | oneToOne => rfl
    simp only [relationship, shaped, calls]

theorem tableConfiguration_alike : tableConfiguration c m = tableConfiguration c n := by
  funext t x
  simp only [tableConfiguration, tableBinding, constantReference_alike alike,
    relationship_alike alike]

theorem mappingUnit_alike : mappingUnit c m = mappingUnit c n := by
  funext x
  simp only [mappingUnit, mappingConfiguration, alike.resolve, tableConfiguration_alike alike]

theorem emitMappings_alike (emitted : List String) (mappings : List Mapping) :
    emitMappings c m emitted mappings = emitMappings c n emitted mappings := by
  induction mappings generalizing emitted with
  | nil => rfl
  | cons x rest ih => simp only [emitMappings, mappingUnit_alike alike, ih]

theorem storeTarget_alike : storeTarget c m = storeTarget c n := by
  funext f
  simp only [storeTarget, alike.stored]

theorem rowType_alike : rowType c m = rowType c n := by
  funext f
  simp only [rowType, alike.complexType, alike.entity]

theorem functionMethod_alike : functionMethod c m = functionMethod c n := by
  funext f
  simp only [functionMethod, storeTarget_alike alike, rowType_alike alike,
    constantReference_alike alike]

theorem procedureMethod_alike : procedureMethod c m = procedureMethod c n := by
  have answer : callReturn c m = callReturn c n := by
    funext f kind
    cases kind with
    | rows => simp only [callReturn, rowType_alike alike]
    | scalar => rfl
    | execute => rfl
  funext f
  simp only [procedureMethod, storeTarget_alike alike, answer]

theorem contextUnit_alike : contextUnit c m = contextUnit c n := by
  have methods : importMethod c m = importMethod c n := by
    funext f
    rw [importMethod, importMethod, functionMethod_alike alike, procedureMethod_alike alike]
  have registered : registeredConfigurations c m = registeredConfigurations c n := by
    funext entities
    rw [registeredConfigurations, registeredConfigurations, alike.returned]
  rw [contextUnit, contextUnit, alike.entities, alike.functions, methods, registered]

theorem units_alike (e : Emitter) : e.units c m = e.units c n := by
  cases e with
  | schemaConstants => rw [Emitter.units, Emitter.units, emitSchema, emitSchema,
      schemaUnit_alike alike]
  | domainModel => rw [Emitter.units, Emitter.units, emitDomain, emitDomain, alike.entities,
      alike.returned]
  | mappingConfiguration => rw [Emitter.units, Emitter.units, emitConfigurations,
      emitConfigurations, alike.returned, alike.mappings, emitMappings_alike alike]
  | context => rw [Emitter.units, Emitter.units, emitContext, emitContext, contextUnit_alike alike]
  | repository => rw [Emitter.units, Emitter.units, emitRepositories, emitRepositories,
      alike.entities]

theorem artifacts_alike (e : Emitter) : e.artifacts c m = e.artifacts c n := by
  rw [Emitter.artifacts, Emitter.artifacts, units_alike alike]

end alike

section reordered

variable {r s : ResolvedModel} (same : r.Reordered s)
include same

theorem stored_reordered : r.storedFunctionFor? = s.storedFunctionFor? := by
  funext f
  simp only [ResolvedModel.storedFunctionFor?, same.functionMappings, same.storage.find_function]

theorem returned_reordered : r.returnedComplexTypes = s.returnedComplexTypes := by
  have find : r.conceptual.complexTypes.find? = s.conceptual.complexTypes.find? :=
    funext same.conceptual.find_complexType
  simp only [ResolvedModel.returnedComplexTypes, ResolvedModel.returnedTypeNames, Catalog.contains,
    same.conceptual.functions, find]

theorem schemasInUse_reordered : (schemasInUse r).Perm (schemasInUse s) := by
  rw [schemasInUse, schemasInUse, stored_reordered same, same.conceptual.functions]
  exact ((same.storage.tables.filter _).map _).append_right _

theorem sortedSchemas_reordered {odd : Label} (own : r.storage.Schemas odd) :
    sortedSchemas r = sortedSchemas s := by
  have schema (l : Label) (inUse : l ∈ schemasInUse r) : l.IsSchema odd := by
    rcases List.mem_append.1 inUse with ofTable | ofFunction
    · obtain ⟨t, used, rfl⟩ := List.mem_map.1 ofTable
      exact own.tables t (List.mem_filter.1 used).1
    · obtain ⟨g, called, rfl⟩ := List.mem_map.1 ofFunction
      obtain ⟨f, _, stored⟩ := List.mem_filterMap.1 called
      obtain ⟨x, _, found⟩ := Option.bind_eq_some_iff.1 stored
      exact own.functions g (Catalog.mem_of_find? found)
  have given := (schemasInUse_reordered same).filter Label.isGiven
  -- One value alone can be refused, so the fault does not tell which table came first.
  refine Agree.eq ((mapM_agree (Fault.wrongForm odd.display) given fun l member => ?_).bind
    fun atoms others walked reordered => ?_)
  · rcases schema l (List.mem_filter.1 member).1 with ⟨text, rfl⟩ | missing | rfl
    · exact failsWith_ok _
    · rw [(List.mem_filter.1 member).2] at missing
      cases missing
    · intro f failed
      unfold Label.atom at failed
      split at failed
      · cases failed
      · exact (Except.error.inj failed).symm
  · refine (mapM_agree (Fault.notText odd.display) reordered fun l member => ?_).bind
      fun texts textsToo _ reordered => .ok ?_
    · obtain ⟨before, inUse, kept⟩ := source_of_mapM walked member
      rw [Label.atom_ok kept]
      exact letters_fails (schema before (List.mem_filter.1 inUse).1) (List.mem_filter.1 inUse).2
    · exact sortBy_byKeys_perm Text.lower id (eraseDups_perm reordered)
        fun _ _ _ _ equal => equal

theorem alike_of_reordered {odd : Label} (own : r.storage.Schemas odd)
    (schemas : r.conceptual.Schemas odd) : Alike r s where
  entities := same.conceptual.orderedEntities schemas
  schemas := sortedSchemas_reordered same own
  table := funext same.storage.find_table
  resolve := funext same.storage.resolveTable
  entity := funext same.conceptual.find_entity
  complexType := funext same.conceptual.find_complexType
  stored := stored_reordered same
  returned := returned_reordered same
  functions := same.conceptual.functions
  mappings := same.mappings

end reordered

structure SameRuns (r s : ResolvedModel) : Prop where
  tables : ∀ name, r.storage.tables.find? name = s.storage.tables.find? name
  entities : ∀ name, r.conceptual.entities.find? name = s.conceptual.entities.find? name
  reordered : r.Reordered s
  artifacts : ∀ (c : Config) (e : Emitter), e.artifacts c r = e.artifacts c s
  emission : ∀ c : Config, emitModel c r = emitModel c s

theorem sameRuns_of_reordered {r s : ResolvedModel} {odd : Label} (same : r.Reordered s)
    (own : r.storage.Schemas odd) (schemas : r.conceptual.Schemas odd) : SameRuns r s := by
  have alike := alike_of_reordered same own schemas
  refine ⟨same.storage.find_table, same.conceptual.find_entity, same,
    fun c e => artifacts_alike alike c e, fun c => ?_⟩
  have items : emissionItems c r = emissionItems c s := by
    have each : emitterItems c r = emitterItems c s := by
      funext e
      rw [emitterItems, emitterItems, artifacts_alike alike]
    rw [emissionItems, emissionItems, each]
  have entities : r.usedEntities = s.usedEntities := same.conceptual.usedEntities
  have tables : r.usedTables.length = s.usedTables.length :=
    (same.storage.tables.filter _).length_eq
  rw [emitModel, emitModel, items, entities, tables]

/-- The order in which models list their contents has no part in binding and emission. -/
theorem runs_reordered {m n : StorageModel} {k l : ConceptualModel} {odd : Label}
    (tables : m.Reordered n) (entities : k.Reordered l) (own : m.Schemas odd)
    (schemas : k.Schemas odd) (mappings : List Mapping) (functionMappings : List FunctionMapping) :
    let here := Binding.bind m k mappings functionMappings
    let there := Binding.bind n l mappings functionMappings
    here.notices = there.notices ∧ Agree SameRuns here.outcome there.outcome := by
  obtain ⟨notices, bound⟩ :=
    Binding.bind_reordered tables entities own schemas mappings functionMappings
  refine ⟨notices, bound.imp fun r s here same => ?_⟩
  obtain ⟨links, named, stages⟩ := Binding.bind_stages here
  obtain ⟨stored, known⟩ := stages.schemas own schemas
  exact sameRuns_of_reordered same stored known

section depot

/-- Crates and barrels in schemas that have one name, listed in an order that `turn` gives. -/
def depotStorage (turn : {α : Type} → List α → List α) : StorageModel where
  tables := .ofList (turn
    [{ name := "Crates", fixedName := .str "Crates", schema := .str "dry_goods" },
      { name := "Barrels", fixedName := .str "Barrels", schema := .str "dry goods" },
      { name := "Sacks", fixedName := .str "Sacks" }])
  functions := .ofList (turn
    [{ name := "Weigh", fixedName := .str "Weigh", schema := .str "dry-goods" },
      { name := "Count", fixedName := .str "Count" }])
  entitySets := .ofList (turn [⟨"CrateSet", "Crates"⟩, ⟨"BarrelSet", "Barrels"⟩])

def depotEntity (name target : String) : Entity where
  name := name
  fixedName := .str name
  properties := [{ name := "Id", type := "Int32" }]
  navigations := [{
    entityName := name, targetName := target, multiplicity := .one, association := "Holds" }]

def depotEntities (turn : {α : Type} → List α → List α) : ConceptualModel where
  entities := .ofList (turn [depotEntity "Crate" "Barrel", depotEntity "Barrel" "Crate"])
  complexTypes := .ofList (turn
    [{ name := "Weight", fixedName := .str "Weight" }, { name := "Size", fixedName := .str "Size" }])
  functions := .ofList
    [{ name := "Weight", fixedName := .str "Weight", returnComplexType := some "Weight",
        isComposable := true }]

def depotMappings : List Mapping := [⟨"CrateSet", "Crate", []⟩, ⟨"BarrelSet", "Barrel", []⟩]

def DepotBound (r : ResolvedModel) : Prop :=
  (schemaConstants (.ofSettings .defaults) r).toOption =
      some [⟨.str "DryGoods", "dry goods"⟩, ⟨.str "DryGoods1", "dry-goods"⟩,
        ⟨.str "DryGoods2", "dry_goods"⟩] ∧
    (Emitter.all.map fun e =>
      (e.artifacts (.ofSettings .defaults) r).stopped.isNone) = [true, true, true, true, true]

instance : DecidablePred DepotBound := fun _ => inferInstanceAs (Decidable (_ ∧ _))

set_option maxRecDepth 100000 in
theorem depot_bound :
    ∃ r, (Binding.bind (depotStorage id) (depotEntities id) depotMappings
      [⟨"Weight", "Weigh"⟩]).outcome = .ok r ∧ DepotBound r :=
  ok_of_any (by decide +kernel)

theorem depot_reordered :
    ∃ r s, (Binding.bind (depotStorage id) (depotEntities id) depotMappings
        [⟨"Weight", "Weigh"⟩]).outcome = .ok r ∧
      (Binding.bind (depotStorage List.reverse) (depotEntities List.reverse) depotMappings
        [⟨"Weight", "Weigh"⟩]).outcome = .ok s ∧ DepotBound r ∧ SameRuns r s := by
  obtain ⟨r, bound, depot⟩ := depot_bound
  have tables : (depotStorage id).Reordered (depotStorage List.reverse) :=
    ⟨(List.reverse_perm _).symm, (List.reverse_perm _).symm, (List.reverse_perm _).symm⟩
  have entities : (depotEntities id).Reordered (depotEntities List.reverse) :=
    ⟨(List.reverse_perm _).symm, (List.reverse_perm _).symm, rfl⟩
  have own : (depotStorage id).Schemas .null :=
    ⟨Catalog.forall_ofList (by simp [Label.IsSchema, Label.IsText]),
      Catalog.forall_ofList (by simp [Label.IsSchema, Label.IsText])⟩
  have schemas : (depotEntities id).Schemas .null :=
    Catalog.forall_ofList (by simp [Label.IsSchema, Label.IsText, depotEntity])
  obtain ⟨_, same⟩ := runs_reordered tables entities own schemas depotMappings [⟨"Weight", "Weigh"⟩]
  rw [bound] at same
  obtain ⟨s, boundToo, runs⟩ := same.of_ok
  exact ⟨r, s, bound, boundToo, depot, runs⟩

end depot

end EntityScaffold.Emission
