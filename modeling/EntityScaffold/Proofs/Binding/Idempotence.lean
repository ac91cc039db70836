import EntityScaffold.Proofs.Binding.Rebinding
import Mathlib.Data.List.Find

/-!
Binding twice. Every pass leaves the models of a binding as they are: each is traced back to what
the first binding did there, and then done once more.
-/
namespace EntityScaffold

def ResolvedModel.pair (r : ResolvedModel) : Binding.ModelPair := ⟨r.storage, r.conceptual⟩

namespace Binding

theorem nameEntities_source {p q : ModelPair} (ok : nameEntities p = .ok q) {name : String}
    {d : Entity} (found : q.conceptual.entities.find? name = some d) (used : d.isUsed = true) :
    ∃ e, p.conceptual.entities.find? name = some e ∧ nameEntity p e = .ok d := by
  have related := (nameEntities_ok ok).entities name
  rw [found] at related
  generalize inRead : p.conceptual.entities.find? name = reached at related
  cases related with
  | @some e _ own =>
    refine ⟨e, rfl, ?_⟩
    simp only [nameEntities, bind_ok, pure_ok] at ok
    obtain ⟨ordered, listed, named, walked, rfl⟩ := ok
    rw [orderedEntities_ok listed] at walked
    have inUse : e ∈ p.conceptual.usedEntities :=
      mem_usedEntities.2 ⟨Catalog.mem_of_find? inRead, own.keeps.1.trans used⟩
    obtain ⟨made, inNamed, ran⟩ := result_of_mapM walked inUse
    have keys : named.map (fun e => Keyed.key e) = p.conceptual.usedEntities.map fun e =>
        Keyed.key e := Catalog.map_key_of_mapM (fun _ _ => key_nameEntity) walked
    have distinct : (named.map fun e => Keyed.key e).Nodup := by
      rw [keys]
      exact nodup_usedEntities p.conceptual
    have inserted := Catalog.find?_insertAll_of_mem p.conceptual.entities distinct inNamed
    rw [key_nameEntity ran, Catalog.key_of_find? inRead, found] at inserted
    rw [ran, Option.some.inj inserted]

/-- An entity in use, `f`, and what it was when it had its names, but not yet those of the ways
back. -/
structure GivenEntity (p : ModelPair) (m : ConceptualModel) (d f : Entity) : Prop where
  inNamed : m.entities.find? f.name = some d
  used : d.isUsed = true
  named : ∃ e taken, memberScope f = .ok taken ∧
    nameNavigations p e taken e.navigations = .ok d.navigations
  made : f = { d with navigations := d.navigations.map (linkNavigation m d) }

theorem GivenEntity.navigations {p : ModelPair} {m : ConceptualModel} {d f : Entity}
    (given : GivenEntity p m d f) : f.navigations = d.navigations.map (linkNavigation m d) :=
  congrArg Entity.navigations given.made

/-- Learning of the ways back, navigations stay apart: one that leads to `d` is the same as one of
`d` before just when it is so afterwards. -/
theorem linkNavigation_inj {m : ConceptualModel} {d target : Entity} {c n : Navigation}
    (own : m.entities.find? d.name = some d) (distinct : (d.navigations.map (·.identifier)).Nodup)
    (member : n ∈ d.navigations) (reached : m.entities.find? n.targetName = some target)
    (candidate : c ∈ target.navigations) (back : c.targetName = d.name) :
    linkNavigation m target c = linkNavigation m d n ↔ c = n := by
  have home (same : c.targetName = n.targetName) : target = d := by
    rw [← back, same, reached] at own
    exact Option.some.inj own
  constructor
  · intro equal
    have same : c.targetName = n.targetName := by
      simpa using congrArg Navigation.targetName equal
    have named : c.identifier = n.identifier := by
      simpa using congrArg Navigation.identifier equal
    rw [home same] at candidate
    exact List.inj_on_of_nodup_map distinct candidate member named
  · rintro rfl
    rw [home rfl]

namespace Stages

variable {storage : StorageModel} {conceptual : ConceptualModel} {mappings : List Mapping}
  {links : List Link} {named : ModelPair} {r : ResolvedModel}

theorem marked_again (stages : Stages storage conceptual mappings links named r) :
    markAll r.pair links = r.pair := by
  -- Marking does not look at keys and navigations, which is all that was named since.
  have tables : (markAll r.pair links).storage.tables = r.storage.tables := by
    refine Catalog.eq_of_find? (keys_tables_markAll links r.pair) fun name => ?_
    rw [find_table_markAll]
    cases found : r.pair.storage.tables.find? name with
    | none => exact found.symm
    | some u =>
      obtain ⟨t, keys, _, rfl⟩ := stages.table_source found
      rw [Option.map_some, markedTable_foreignKeys, markedTable_again]
      exact found.symm
  have entities : (markAll r.pair links).conceptual.entities = r.conceptual.entities := by
    refine Catalog.eq_of_find? (keys_entities_markAll links r.pair) fun name => ?_
    rw [find_entity_markAll]
    cases found : r.pair.conceptual.entities.find? name with
    | none => exact found.symm
    | some f =>
      obtain ⟨e, navigations, _, rfl⟩ := stages.entity_source found
      rw [Option.map_some, markedEntity_navigations, markedEntity_again]
      exact found.symm
  obtain ⟨complexTypes, functions⟩ := others_markAll links r.pair
  calc markAll r.pair links
      = ⟨⟨(markAll r.pair links).storage.tables, (markAll r.pair links).storage.functions,
            (markAll r.pair links).storage.entitySets⟩,
          ⟨(markAll r.pair links).conceptual.entities,
            (markAll r.pair links).conceptual.complexTypes,
            (markAll r.pair links).conceptual.functions⟩⟩ := rfl
    _ = r.pair := by
      rw [tables, entities, complexTypes, functions, entitySets_markAll, functions_markAll]
      rfl

theorem tables_names (stages : Stages storage conceptual mappings links named r) (name : String) :
    Option.Rel SameNames ((markAll ⟨storage, conceptual⟩ links).storage.tables.find? name)
      (r.storage.tables.find? name) := by
  rw [find_table_markAll]
  cases found : r.storage.tables.find? name with
  | none =>
    have absent := (Catalog.find?_eq_none_iff _ _).1 found
    rw [stages.keys_tables, ← Catalog.find?_eq_none_iff] at absent
    rw [show (⟨storage, conceptual⟩ : ModelPair).storage.tables.find? name = none from absent]
    exact .none
  | some u =>
    obtain ⟨t, keys, inRead, rfl⟩ := stages.table_source found
    rw [show (⟨storage, conceptual⟩ : ModelPair).storage.tables.find? name = some t from inRead]
    exact .some ⟨rfl, rfl⟩

theorem retargets (stages : Stages storage conceptual mappings links named r) :
    Retargets (markAll ⟨storage, conceptual⟩ links) r.pair := by
  intro n target table reached
  obtain ⟨name, remembered, resolved⟩ := reached.table
  have related := stages.entities.entities n.targetName
  rw [reached.entity] at related
  generalize inNamed : named.conceptual.entities.find? n.targetName = given at related
  cases related with
  | @some _ given own =>
    obtain ⟨_, navigations, _, _, rfl⟩ := own.used reached.used
    have tables := resolveTable_related stages.tables_names (fun set => by
      rw [entitySets_markAll, stages.entitySets]) name
    rw [resolved] at tables
    generalize again : r.storage.resolveTable? name = reachedTable at tables
    cases tables with
    | @some _ table' names =>
      refine ⟨linkEntity named.conceptual { target with navigations := navigations }, table',
        ⟨?_, ?_, name, ?_, again⟩, ?_, names⟩
      · show r.conceptual.entities.find? n.targetName = _
        rw [stages.find_entity, inNamed]
        rfl
      · rw [isUsed_linkEntity]
        exact reached.used
      · rw [linkEntity]
        split <;> exact remembered
      · rw [linkEntity]
        split <;> rfl

theorem given_entity (stages : Stages storage conceptual mappings links named r)
    (ran : nameEntities (markAll ⟨storage, conceptual⟩ links) = .ok named) {f : Entity}
    (inUse : f ∈ r.usedEntities) :
    ∃ d, GivenEntity (markAll ⟨storage, conceptual⟩ links) named.conceptual d f := by
  obtain ⟨inModel, used⟩ := mem_usedEntities.1 inUse
  have found := Catalog.find?_of_mem inModel
  rw [stages.find_entity] at found
  obtain ⟨d, inNamed, rfl⟩ := Option.map_eq_some_iff.1 found
  rw [isUsed_linkEntity] at used
  obtain ⟨e, _, own⟩ := nameEntities_source ran inNamed used
  simp only [nameEntity, bind_ok, pure_ok] at own
  obtain ⟨taken, scope, navigations, walked, rfl⟩ := own
  have made : linkEntity named.conceptual { e with navigations := navigations } =
      { e with navigations := navigations.map (linkNavigation named.conceptual
        { e with navigations := navigations }) } := if_pos used
  exact ⟨_, inNamed, used, ⟨e, taken, made ▸ scope, walked⟩, made⟩

theorem ordered_again (stages : Stages storage conceptual mappings links named r)
    (ran : nameEntities (markAll ⟨storage, conceptual⟩ links) = .ok named) :
    r.conceptual.orderedEntities = .ok r.conceptual.usedEntities := by
  obtain ⟨ordered, listed, _⟩ := bind_ok.1 ran
  refine orderedEntities_of_schemas listed fun f inUse => ?_
  obtain ⟨inModel, used⟩ := mem_usedEntities.1 inUse
  obtain ⟨e, navigations, inRead, rfl⟩ := stages.entity_source (Catalog.find?_of_mem inModel)
  have marked : (markAll ⟨storage, conceptual⟩ links).conceptual.entities.find? _ =
      some (markedEntity links e) := (find_entity_markAll ..).trans (congrArg (Option.map _) inRead)
  exact ⟨_, mem_usedEntities.2 ⟨Catalog.mem_of_find? marked, used⟩, rfl⟩

theorem named_again (stages : Stages storage conceptual mappings links named r)
    (ran : nameEntities (markAll ⟨storage, conceptual⟩ links) = .ok named) :
    nameEntities r.pair = .ok r.pair := by
  have each : r.conceptual.usedEntities.mapM (nameEntity r.pair) =
      .ok r.conceptual.usedEntities := by
    refine mapM_ok.2 (List.forall₂_same.2 fun f inUse => ?_)
    obtain ⟨d, given⟩ := stages.given_entity ran inUse
    obtain ⟨e, taken, scope, walked⟩ := given.named
    have again := nameNavigations_again (d := f) stages.retargets
      (fun n => ⟨_, linkNavigation_eq named.conceptual d n⟩) walked
    rw [← given.navigations] at again
    rw [nameEntity, scope]
    show (nameNavigations r.pair f taken f.navigations >>= fun navigations =>
      pure { f with navigations := navigations }) = .ok f
    rw [again]
    rfl
  have present : r.conceptual.entities.insertAll r.conceptual.usedEntities =
      r.conceptual.entities :=
    Catalog.insertAll_of_mem fun e inUse => (mem_usedEntities.1 inUse).1
  rw [nameEntities, show r.pair.conceptual.orderedEntities = _ from stages.ordered_again ran]
  simp only [Bind.bind, Except.bind, pure, Except.pure, each]
  exact congrArg (fun entities => Except.ok (⟨r.storage, { r.conceptual with entities }⟩ :
    ModelPair)) present

theorem target_used (stages : Stages storage conceptual mappings links named r) {d f : Entity}
    (given : GivenEntity (markAll ⟨storage, conceptual⟩ links) named.conceptual d f)
    {n : Navigation} (member : n ∈ d.navigations) {target : Entity}
    (reached : named.conceptual.entities.find? n.targetName = some target) :
    target.isUsed = true := by
  obtain ⟨e, taken, _, walked⟩ := given.named
  obtain ⟨before, _, own⟩ := related_of_mem_right (nameNavigations_ok walked).each member
  obtain ⟨marked, _, aim, _⟩ := own.target
  have related := stages.entities.entities n.targetName
  rw [own.targetName, aim.entity, ← own.targetName, reached] at related
  cases related with
  | some naming => exact naming.keeps.1.symm.trans aim.used

theorem inverse_again (stages : Stages storage conceptual mappings links named r) {d f : Entity}
    (given : GivenEntity (markAll ⟨storage, conceptual⟩ links) named.conceptual d f)
    {n : Navigation} (member : n ∈ d.navigations) :
    (inverse? r.conceptual f (linkNavigation named.conceptual d n)).map (·.identifier) =
      (inverse? named.conceptual d n).map (·.identifier) := by
  have name : f.name = d.name := by rw [given.made]
  have own := given.inNamed
  rw [name] at own
  obtain ⟨_, _, _, walked⟩ := given.named
  have distinct := (nameNavigations_ok walked).distinct
  rw [inverse?, inverse?, targetName_linkNavigation, stages.find_entity]
  cases reached : named.conceptual.entities.find? n.targetName with
  | none => rfl
  | some target =>
    have navigations : (linkEntity named.conceptual target).navigations =
        target.navigations.map (linkNavigation named.conceptual target) := by
      rw [linkEntity, if_pos (stages.target_used given member reached)]
    rw [Option.map_some, Option.bind_some, Option.bind_some, navigations, List.find?_map,
      Option.map_map]
    refine congr (congrArg Option.map (funext fun c => ?_)) (List.find?_congr fun c candidate => ?_)
    · exact identifier_linkNavigation named.conceptual target c
    · -- A candidate is another navigation afterwards if it was one before.
      simp only [Function.comp, association_linkNavigation, targetName_linkNavigation, name]
      by_cases back : c.targetName = d.name
      · have same := linkNavigation_inj own distinct member reached candidate back
        have apart : (linkNavigation named.conceptual target c !=
            linkNavigation named.conceptual d n) = (c != n) := by
          rw [Bool.eq_iff_iff, bne_iff_ne, bne_iff_ne, ne_eq, same]
        rw [apart]
      · rw [beq_false_of_ne back, Bool.and_false, Bool.and_false]

theorem linked_again (stages : Stages storage conceptual mappings links named r)
    (ran : nameEntities (markAll ⟨storage, conceptual⟩ links) = .ok named) :
    linkInverses r.pair = r.pair := by
  have still : r.conceptual.entities.mapEntries (linkEntity r.conceptual)
      (key_linkEntity r.conceptual) = r.conceptual.entities := by
    refine Catalog.mapEntries_eq_self fun f inModel => ?_
    by_cases used : f.isUsed = true
    · obtain ⟨d, given⟩ := stages.given_entity ran (mem_usedEntities.2 ⟨inModel, used⟩)
      have kept : f.navigations.map (linkNavigation r.conceptual f) = f.navigations := by
        rw [given.navigations, List.map_map]
        refine List.map_congr_left fun n member => ?_
        rw [Function.comp, linkNavigation_eq r.conceptual f, stages.inverse_again given member,
          linkNavigation_eq named.conceptual d]
        cases (inverse? named.conceptual d n).map (·.identifier) <;> rfl
      rw [linkEntity, if_pos used, kept]
    · rw [linkEntity, if_neg used]
  exact congrArg (fun entities => (⟨r.storage, { r.conceptual with entities }⟩ : ModelPair)) still

theorem nameTable_again (stages : Stages storage conceptual mappings links named r)
    {again : List Link} (related : List.Forall₂ Relinked links again) {k : Link}
    (first : again.find? (fun x => x.table.name == k.table.name) = some k) :
    ∃ t ∈ r.storage.tables.entries, (current r.pair k).1 = t ∧
      nameTable r.storage t (current r.pair k).2 = .ok t := by
  have before := find_of_related related (p := fun l => l.table.name == k.table.name)
    (q := fun x => x.table.name == k.table.name) fun l x own => by rw [own.table]
  rw [first] at before
  generalize reached : links.find? (fun l => l.table.name == k.table.name) = found at before
  cases before with
  | @some l _ own =>
    rw [own.table] at reached
    obtain ⟨e, taken, keys, entity, scope, walked, table⟩ := stages.mapped_table reached
    have now : current r.pair k = ({ markedTable links l.table with foreignKeys := keys }, e) := by
      show ((r.storage.tables.find? k.table.name).getD k.table,
        (r.conceptual.entities.find? k.entity.name).getD k.entity) = _
      rw [own.table, own.entity, table, entity]
      rfl
    refine ⟨_, Catalog.mem_of_find? table, congrArg Prod.fst now, ?_⟩
    have scopeAgain : keyScope { markedTable links l.table with foreignKeys := keys } e =
        .ok taken := by
      rw [← scope, keyScope, keyScope, fixedName_markedTable]
    rw [stages.entities.storage] at walked
    have kept : nameForeignKeys r.storage { markedTable links l.table with foreignKeys := keys }
        taken e.navigations keys = .ok keys := nameForeignKeys_again stages.tables_names walked
    rw [now, nameTable, scopeAgain]
    show (nameForeignKeys r.storage _ taken e.navigations keys >>= fun foreignKeys =>
      pure { markedTable links l.table with foreignKeys := foreignKeys }) = _
    rw [kept]
    rfl

theorem keys_again (stages : Stages storage conceptual mappings links named r) {again : List Link}
    (related : List.Forall₂ Relinked links again) : nameTables r.pair again = .ok r.pair := by
  have each (k : Link) (first : k ∈ firstOfTable [] again) :=
    stages.nameTable_again related (mem_firstOfTable.1 first).2
  have walked : ((firstOfTable [] again).mapM fun k =>
      nameTable r.storage (current r.pair k).1 (current r.pair k).2) =
      .ok ((firstOfTable [] again).map fun k => (current r.pair k).1) := by
    refine mapM_ok.2 (List.forall₂_map_right_iff.2 (List.forall₂_same.2 fun k first => ?_))
    obtain ⟨t, _, rfl, kept⟩ := each k first
    exact kept
  have present : r.storage.tables.insertAll ((firstOfTable [] again).map fun k =>
      (current r.pair k).1) = r.storage.tables := by
    refine Catalog.insertAll_of_mem fun t member => ?_
    obtain ⟨k, first, rfl⟩ := List.mem_map.1 member
    obtain ⟨t, inTables, rfl, _⟩ := each k first
    exact inTables
  rw [nameTables, show r.pair.storage = r.storage from rfl, walked]
  exact congrArg (fun tables => Except.ok (⟨{ r.storage with tables }, r.conceptual⟩ : ModelPair))
    present

end Stages

/-- The models of a binding, bound again with the same mappings, are those models again. -/
theorem bindLinks_again {storage : StorageModel} {conceptual : ConceptualModel}
    {mappings : List Mapping} {links again : List Link} {named : ModelPair} {r : ResolvedModel}
    (stages : Stages storage conceptual mappings links named r)
    (ran : nameEntities (markAll ⟨storage, conceptual⟩ links) = .ok named)
    (related : List.Forall₂ Relinked links again) : bindLinks r.pair again = .ok r.pair := by
  rw [bindLinks, markAll_relinked related, stages.marked_again, stages.named_again ran]
  show nameTables (linkInverses r.pair) again = .ok r.pair
  rw [stages.linked_again ran, stages.keys_again related]

theorem bind_idempotent {storage : StorageModel} {conceptual : ConceptualModel}
    {mappings : List Mapping} {functionMappings : List FunctionMapping} {r : ResolvedModel}
    (bound : (bind storage conceptual mappings functionMappings).outcome = .ok r) :
    bind r.storage r.conceptual mappings functionMappings =
      ⟨(bind storage conceptual mappings functionMappings).notices, .ok r⟩ := by
  obtain ⟨links, named, run⟩ := bind_run bound
  obtain ⟨again, walked, related⟩ := Noted.mapM_again (R := Relinked)
    (fun x l member linked => run.stages.link_again member linked) run.linked
  have made : bindLinks ⟨r.storage, r.conceptual⟩ again = .ok ⟨r.storage, r.conceptual⟩ :=
    bindLinks_again run.stages run.entities related
  rw [bind_of_links functionMappings run.linked,
    bind_of_links functionMappings (congrArg Noted.outcome walked), walked, made]
  obtain ⟨rfl, rfl⟩ := mappings_of_bind bound
  rfl

section staff

/-- Employees that have managers and predecessors, and share their table with applicants; of the
predecessors the entities say nothing. -/
def staffDocument : Xml.Element :=
  document
    [.plain "EntityType" [("Name", "Employee")]
      [.plain "Property" [("Name", "Id"), ("Type", "int")] [],
       .plain "Property" [("Name", "ManagerId"), ("Type", "int")] []],
     .plain "Association" [("Name", "Manages")]
      [.plain "End" [("Role", "Report"), ("Type", "Employee"), ("Multiplicity", "*")] [],
       .plain "End" [("Role", "Manager"), ("Type", "Employee"), ("Multiplicity", "0..1")] [],
       .plain "ReferentialConstraint" []
        [.plain "Principal" [("Role", "Manager")] [.plain "PropertyRef" [("Name", "Id")] []],
         .plain "Dependent" [("Role", "Report")]
          [.plain "PropertyRef" [("Name", "ManagerId")] []]]],
     .plain "Association" [("Name", "Replaces")]
      [.plain "End" [("Role", "New"), ("Type", "Employee"), ("Multiplicity", "*")] [],
       .plain "End" [("Role", "Old"), ("Type", "Employee"), ("Multiplicity", "1")] [],
       .plain "ReferentialConstraint" []
        [.plain "Principal" [("Role", "Old")] [.plain "PropertyRef" [("Name", "Id")] []],
         .plain "Dependent" [("Role", "New")] [.plain "PropertyRef" [("Name", "Id")] []]]]]
    [.plain "EntityType" [("Name", "Employee")]
      [.plain "Property" [("Name", "Number"), ("Type", "Int32")] []],
     .plain "EntityType" [("Name", "Applicant")]
      [.plain "Property" [("Name", "Key"), ("Type", "Int32")] []],
     .plain "Association" [("Name", "Manages")]
      [.plain "End" [("Type", "Employee"), ("Multiplicity", "0..1")] [],
       .plain "End" [("Type", "Employee"), ("Multiplicity", "*")] []]]
    [.plain "EntitySetMapping" [("TypeName", "Employee"), ("StoreEntitySet", "Employee")]
      [.plain "ScalarProperty" [("ColumnName", "Id"), ("Name", "Number")] []],
     .plain "EntitySetMapping" [("TypeName", "Applicant"), ("StoreEntitySet", "Employee")]
      [.plain "ScalarProperty" [("ColumnName", "Id"), ("Name", "Key")] []]]

/-- The keys of the managers have taken the two ways between employees, those of the predecessors
have names of their own; the last correspondence of the shared table has been written. -/
def StaffBound (r : ResolvedModel) : Prop :=
  (r.storage.tables.entries.map fun t => (t.entityName, t.columns.entries.map (·.propertyName))) =
      [(.str "Applicant", [some "Key", none])] ∧
    (r.storage.tables.entries.flatMap fun t =>
      t.foreignKeys.map fun k => (k.identifier, k.inverseIdentifier)) =
      [(.str "Employee2", .str "Employee1"), (.str "Employee1", .str "Employee2"),
        (.str "Employee3", .null), (.str "Employee4", .null)] ∧
    (r.conceptual.entities.entries.map fun e =>
      (e.isUsed, e.navigations.map fun n => (n.identifier, n.inverseIdentifier))) =
      [(true, [(.str "Employee1", .str "Employee2"), (.str "Employee2", .str "Employee1")]),
        (true, [])]

instance : DecidablePred StaffBound := fun _ => inferInstanceAs (Decidable (_ ∧ _))

set_option maxRecDepth 100000 in
theorem staff_bound :
    ∃ r, (readAndBind (.ofSettings .defaults) staffDocument).outcome = .ok r ∧ StaffBound r :=
  ok_of_any (by decide +kernel)

theorem staff_bound_again :
    ∃ rules storage conceptual r,
      Sections (.ofSettings .defaults) staffDocument rules storage conceptual r ∧ StaffBound r ∧
        (bind r.storage r.conceptual r.mappings r.functionMappings).outcome = .ok r := by
  obtain ⟨r, resolved, staff⟩ := staff_bound
  obtain ⟨rules, storage, conceptual, sections⟩ := readAndBind_sections resolved
  refine ⟨rules, storage, conceptual, r, sections, staff, ?_⟩
  rw [bind_idempotent sections.bound]

end staff

end Binding

end EntityScaffold
