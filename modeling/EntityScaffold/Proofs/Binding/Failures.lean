import EntityScaffold.Proofs.Binding.Stages
import EntityScaffold.Proofs.Binding.Targets
import EntityScaffold.Proofs.Reading.Promises

/-!
How binding fails. A mapping becomes a link unless it names a table, an entity or a column that is
not there; a navigation finds its target unless no mapping names it; and a name is free unless more
members crowd around it than suffixes are tried. Of models that have been read nothing else fails.
-/
namespace EntityScaffold.Binding
open Reading

/-- A table, an entity or a column that a mapping names is not there. -/
def Unlinkable (storage : StorageModel) (conceptual : ConceptualModel) (x : Mapping) : Prop :=
  storage.resolveTable? x.table = none ∨ conceptual.entities.find? x.entity = none ∨
    ∃ t, storage.resolveTable? x.table = some t ∧
      ∃ c ∈ x.correspondences, t.columns.find? c.column = none

/-- An entity that a mapping names leads to an entity that no mapping names. -/
def LeadsAstray (conceptual : ConceptualModel) (mappings : List Mapping) : Prop :=
  ∃ x ∈ mappings, ∃ e, conceptual.entities.find? x.entity = some e ∧
    ∃ n ∈ e.navigations, ∀ y ∈ mappings, y.entity ≠ n.targetName

def Unbindable (storage : StorageModel) (conceptual : ConceptualModel)
    (mappings : List Mapping) : Prop :=
  (∃ x ∈ mappings, Unlinkable storage conceptual x) ∨ LeadsAstray conceptual mappings

/-- Some mapping joins a table and an entity that have more members than suffixes are tried. -/
def Crowded (storage : StorageModel) (conceptual : ConceptualModel)
    (mappings : List Mapping) : Prop :=
  ∃ x ∈ mappings, ∃ t e, storage.resolveTable? x.table = some t ∧
    conceptual.entities.find? x.entity = some e ∧
      Fault.suffixLimit ≤ e.properties.length + e.navigations.length + t.foreignKeys.length

def MappingFault (f : Fault) : Prop :=
  (∃ m t, f = .reference (.mappedTable m t)) ∨ (∃ m e, f = .reference (.mappedEntity m e)) ∨
    ∃ m c t, f = .reference (.mappedColumn m c t)

def TargetFault (f : Fault) : Prop := ∃ e target, f = .reference (.unmappedTarget e target)

def OverflowFault (members : Nat) (f : Fault) : Prop :=
  (∃ base, f = .noFreeName base) ∧ Fault.suffixLimit ≤ members

section linking

variable {storage : StorageModel} {conceptual : ConceptualModel}

theorem checkCorrespondence_outcome (m : Mapping) (t : Table) (e : Entity) (c : Correspondence) :
    (checkCorrespondence m t e c).outcome =
      if t.columns.contains c.column then .ok ()
      else .error (.reference (.mappedColumn m.text c.column t.name)) := by
  unfold checkCorrespondence
  split
  · split <;> rfl
  · rfl

theorem link_fails (x : Mapping) : FailsWith MappingFault (link storage conceptual x).outcome := by
  unfold link
  split
  · exact failsWith_error.2 (.inl ⟨_, _, rfl⟩)
  · split
    · exact failsWith_error.2 (.inr (.inl ⟨_, _, rfl⟩))
    · rename_i t _ e _
      rw [Noted.outcome_bind, Noted.outcome_forM]
      refine .bind (.forM fun c _ => ?_) fun _ _ => failsWith_ok _
      rw [checkCorrespondence_outcome]
      split
      · exact failsWith_ok _
      · exact failsWith_error.2 (.inr (.inr ⟨_, _, _, rfl⟩))

theorem checkCorrespondence_ok_iff {m : Mapping} {t : Table} {e : Entity} {c : Correspondence} :
    (checkCorrespondence m t e c).outcome = .ok () ↔ t.columns.find? c.column ≠ none := by
  rw [checkCorrespondence_outcome, Catalog.contains]
  cases t.columns.find? c.column <;> simp

theorem link_ok_iff (x : Mapping) : (∃ l, (link storage conceptual x).outcome = .ok l) ↔
    ¬ Unlinkable storage conceptual x := by
  unfold link Unlinkable
  cases table : storage.resolveTable? x.table with
  | none => simp [Noted.fail]
  | some t =>
    cases entity : conceptual.entities.find? x.entity with
    | none => simp [Noted.fail]
    | some e =>
      simp only [Noted.outcome_bind, Noted.outcome_forM, bind_ok, forM_ok,
        checkCorrespondence_ok_iff, Noted.outcome_pure_ok]
      constructor
      · rintro ⟨_, _, checked, _⟩ (absurdly | absurdly | ⟨_, same, c, member, absent⟩)
        · cases absurdly
        · cases absurdly
        · cases same
          exact checked c member absent
      · intro linkable
        refine ⟨_, (), fun c member absent => linkable ?_, rfl⟩
        exact .inr (.inr ⟨t, rfl, c, member, absent⟩)

theorem links_ok_iff (mappings : List Mapping) :
    (∃ links, (mappings.mapM (link storage conceptual)).outcome = .ok links) ↔
      ∀ x ∈ mappings, ¬ Unlinkable storage conceptual x := by
  rw [Noted.outcome_mapM]
  constructor
  · rintro ⟨links, walked⟩ x member
    obtain ⟨l, _, own⟩ := result_of_mapM walked member
    exact (link_ok_iff x).1 ⟨l, own⟩
  · intro linkable
    refine succeeds_iff.2 (.mapM fun x member => ?_)
    exact succeeds_iff.1 ((link_ok_iff x).2 (linkable x member))

end linking

section naming

variable {storage : StorageModel} {conceptual : ConceptualModel} {mappings : List Mapping}
  {links : List Link}

def TextTables (m : StorageModel) : Prop := ∀ t ∈ m.tables.entries, t.fixedName.IsText

theorem textTables_marked (read : StorageRead storage) (links : List Link) :
    TextTables (markAll ⟨storage, conceptual⟩ links).storage :=
  fixedNames_markAll (P := Label.IsText) (p := ⟨storage, conceptual⟩) read.fixedNames links

theorem isUsed_marked (links : List Link) {e : Entity} (unused : e.isUsed = false) :
    (markedEntity links e).isUsed = (lastOf links e.name).isSome := by
  have bound := congrArg Prod.fst (bound_markedEntity links e)
  cases last : lastOf links e.name with
  | none => simpa [last, unused] using bound
  | some l => simpa [last] using bound

/-- A navigation of marked models misses its target only where no mapping names it. -/
theorem targetOf_fails (read : ConceptualRead conceptual)
    (linked : List.Forall₂ (Linked storage conceptual) mappings links) (e : Entity)
    {n : Navigation} (known : n.targetName ∈ conceptual.entities.keys) :
    FailsWith (fun f => TargetFault f ∧ ∀ y ∈ mappings, y.entity ≠ n.targetName)
      (targetOf (markAll ⟨storage, conceptual⟩ links) e n) := by
  obtain ⟨target, inRead⟩ :=
    Option.isSome_iff_exists.1 ((Catalog.find?_isSome_iff _ _).2 known)
  have own : target.name = n.targetName := Catalog.key_of_find? inRead
  have used := isUsed_marked links (read.unused target (Catalog.mem_of_find? inRead))
  have found : (markAll ⟨storage, conceptual⟩ links).conceptual.entities.find? n.targetName =
      some (markedEntity links target) := by
    rw [find_entity_markAll, inRead]
    rfl
  rw [targetOf, found]
  cases last : lastOf links target.name with
  | some l =>
    obtain ⟨member, _⟩ := last_link last
    obtain ⟨tableName, _⟩ := marked_by_last last
    have resolved : (markAll ⟨storage, conceptual⟩ links).storage.resolveTable? l.table.name =
        some (markedTable links l.table) := by
      rw [StorageModel.resolveTable?, find_table_markAll, table_of_link linked member]
      rfl
    rw [last, Option.isSome_some] at used
    simp only [tableName, used, Option.filter_some, ↓reduceIte, Option.bind_eq_bind,
      Option.bind_some, resolved]
    exact failsWith_ok _
  | none =>
    rw [last, Option.isSome_none] at used
    have hidden : (markedEntity links target).tableName.filter
        (fun _ => (markedEntity links target).isUsed) = none := by
      simp [used]
    simp only [hidden, Option.bind_eq_bind, Option.bind_none]
    refine failsWith_error.2 ⟨⟨_, _, rfl⟩, fun y member named => ?_⟩
    obtain ⟨l, inLinks, made⟩ := related_of_mem_left linked member
    have same : l.entity.name = y.entity := Catalog.key_of_find? made.entity
    have listed := lastOf_isSome.2 ⟨l, inLinks, same.trans (named.trans own.symm)⟩
    rw [last] at listed
    cases listed

theorem nameNavigations_fails {p : ModelPair} {e : Entity} {P : Fault → Prop}
    (texts : TextTables p.storage) {navigations : List Navigation}
    (targets : ∀ n ∈ navigations, FailsWith P (targetOf p e n)) (taken : List Label) :
    FailsWith (fun f => P f ∨
        OverflowFault (taken.length + navigations.length - 2) f)
      (nameNavigations p e taken navigations) := by
  induction navigations generalizing taken with
  | nil => exact failsWith_ok _
  | cons n rest ih =>
    rw [nameNavigations]
    refine .bind ((targets n (by simp)).imp fun _ => .inl) fun found aimed => ?_
    obtain ⟨target, table⟩ := found
    obtain ⟨_, _, resolved⟩ := (targetOf_ok aimed).table
    have text := texts table (mem_of_resolveTable resolved)
    refine .bind ((Naming.freeLabel_fails text taken).imp ?_) fun identifier _ => ?_
    · rintro f ⟨same, crowded⟩
      refine .inr ⟨⟨_, same⟩, ?_⟩
      simp only [List.length_cons]
      omega
    · refine .bind ((ih (fun m later => targets m (by simp [later])) (identifier :: taken)).imp ?_)
        fun _ _ => failsWith_ok _
      rintro f (missed | ⟨overflow, bound⟩)
      · exact .inl missed
      · refine .inr ⟨overflow, ?_⟩
        simp only [List.length_cons] at *
        omega

def NamingFault (storage : StorageModel) (conceptual : ConceptualModel) (mappings : List Mapping)
    (f : Fault) : Prop :=
  (TargetFault f ∧ LeadsAstray conceptual mappings) ∨
    ((∃ base, f = .noFreeName base) ∧ Crowded storage conceptual mappings)

theorem used_marked (read : ConceptualRead conceptual)
    (linked : List.Forall₂ (Linked storage conceptual) mappings links) {e : Entity}
    (inUse : e ∈ (markAll ⟨storage, conceptual⟩ links).conceptual.usedEntities) :
    ∃ l ∈ links, lastOf links l.entity.name = some l ∧ e = markedEntity links l.entity := by
  obtain ⟨inModel, used⟩ := mem_usedEntities.1 inUse
  have found := Catalog.find?_of_mem inModel
  rw [find_entity_markAll] at found
  obtain ⟨old, earlier, rfl⟩ := Option.map_eq_some_iff.1 found
  obtain ⟨l, last⟩ := last_of_used (read.unused old (Catalog.mem_of_find? earlier)) used
  obtain ⟨member, own⟩ := last_link last
  have same : l.entity = old := Catalog.eq_of_key_eq
    (Catalog.mem_of_find? (entity_of_link linked member)) (Catalog.mem_of_find? earlier) own
  exact ⟨l, member, same ▸ last, same ▸ rfl⟩

theorem nameEntity_fails (storageRead : StorageRead storage) (read : ConceptualRead conceptual)
    (linked : List.Forall₂ (Linked storage conceptual) mappings links) {e : Entity}
    (inUse : e ∈ (markAll ⟨storage, conceptual⟩ links).conceptual.usedEntities) :
    FailsWith (NamingFault storage conceptual mappings)
      (nameEntity (markAll ⟨storage, conceptual⟩ links) e) := by
  obtain ⟨l, member, _, rfl⟩ := used_marked read linked inUse
  obtain ⟨x, inMappings, made⟩ := related_of_mem_right linked member
  have inRead := Catalog.mem_of_find? (entity_of_link linked member)
  have scope : memberScope (markedEntity links l.entity) =
      .ok (l.entity.fixedName :: l.entity.properties.map fun p => .str p.name) := by
    rw [memberScope, fixedName_markedEntity, (read.fixedNames _ inRead).atom,
      properties_markedEntity]
    rfl
  have targets : ∀ n ∈ l.entity.navigations,
      FailsWith (fun f => TargetFault f ∧ LeadsAstray conceptual mappings)
        (targetOf (markAll ⟨storage, conceptual⟩ links) (markedEntity links l.entity) n) := by
    intro n inEntity
    refine (targetOf_fails read linked _ (read.navigations _ inRead n inEntity)).imp ?_
    rintro f ⟨missed, nowhere⟩
    exact ⟨missed, x, inMappings, l.entity, made.entity, n, inEntity, nowhere⟩
  rw [nameEntity, scope]
  refine .bind (failsWith_ok _) fun taken same => ?_
  cases same
  rw [navigations_markedEntity]
  refine .bind ((nameNavigations_fails (textTables_marked storageRead links) targets _).imp ?_)
    fun _ _ => failsWith_ok _
  rintro f (missed | ⟨overflow, bound⟩)
  · exact .inl missed
  · refine .inr ⟨overflow, x, inMappings, l.table, l.entity, made.table, made.entity, ?_⟩
    simp only [List.length_cons, List.length_map] at bound
    omega

theorem orderedEntities_marked (storageRead : StorageRead storage)
    (read : ConceptualRead conceptual)
    (linked : List.Forall₂ (Linked storage conceptual) mappings links) :
    (markAll ⟨storage, conceptual⟩ links).conceptual.orderedEntities =
      .ok (markAll ⟨storage, conceptual⟩ links).conceptual.usedEntities := by
  have lettered : ∀ e ∈ (markAll ⟨storage, conceptual⟩ links).conceptual.entities.entries.filter
      (·.isUsed), e.schema.IsText := by
    intro e member
    obtain ⟨inModel, used⟩ := List.mem_filter.1 member
    obtain ⟨l, inLinks, last, rfl⟩ :=
      used_marked read linked (mem_usedEntities.2 ⟨inModel, used⟩)
    rw [(marked_by_last last).2]
    exact storageRead.schemas _ (Catalog.mem_of_find? (table_of_link linked inLinks))
  rw [ConceptualModel.orderedEntities, bind_ok]
  refine ⟨(), forM_ok.2 fun e member => ?_, rfl⟩
  split
  · rw [(lettered e member).letters]
    rfl
  · rfl

theorem nameEntities_fails (storageRead : StorageRead storage) (read : ConceptualRead conceptual)
    (linked : List.Forall₂ (Linked storage conceptual) mappings links) :
    FailsWith (NamingFault storage conceptual mappings)
      (nameEntities (markAll ⟨storage, conceptual⟩ links)) := by
  rw [nameEntities, orderedEntities_marked storageRead read linked]
  refine .bind (failsWith_ok _) fun ordered same => ?_
  cases same
  refine .bind (.mapM fun e inUse => ?_) fun _ _ => failsWith_ok _
  exact nameEntity_fails storageRead read linked inUse

theorem nameForeignKeys_fails {m : StorageModel} (own : Table) (texts : TextTables m)
    {keys : List ForeignKey} (known : ∀ k ∈ keys, k.table ∈ m.tables.keys) (taken : List Label)
    (free : List Navigation) :
    FailsWith (OverflowFault (taken.length + keys.length - 2))
      (nameForeignKeys m own taken free keys) := by
  induction keys generalizing taken free with
  | nil => exact failsWith_ok _
  | cons k rest ih =>
    obtain ⟨target, found⟩ := Option.isSome_iff_exists.1
      ((Catalog.find?_isSome_iff _ _).2 (known k (by simp)))
    have others := fun g later => known g (List.mem_cons_of_mem k later)
    rw [nameForeignKeys]
    simp only [found]
    split
    · rename_i n _
      refine .bind ((ih others taken (free.erase n)).imp ?_) fun _ _ => failsWith_ok _
      rintro f ⟨overflow, bound⟩
      refine ⟨overflow, ?_⟩
      simp only [List.length_cons]
      omega
    · have text := texts target (Catalog.mem_of_find? found)
      refine .bind ((Naming.freeLabel_fails text taken).imp ?_) fun identifier _ => ?_
      · rintro f ⟨same, crowded⟩
        refine ⟨⟨_, same⟩, ?_⟩
        simp only [List.length_cons]
        omega
      · refine .bind ((ih others (identifier :: taken) free).imp ?_) fun _ _ => failsWith_ok _
        rintro f ⟨overflow, bound⟩
        refine ⟨overflow, ?_⟩
        simp only [List.length_cons] at *
        omega

/-- An entity that a link names, once its navigations have names and know their ways back. -/
structure Settled (e d : Entity) : Prop where
  fixedName : d.fixedName = e.fixedName
  properties : d.properties = e.properties
  navigations : d.navigations.length = e.navigations.length
  atoms : ∀ n ∈ d.navigations, n.identifier.atom = .ok n.identifier

theorem settled_of_link (linked : List.Forall₂ (Linked storage conceptual) mappings links)
    {named : ModelPair} (given : NamedModels (markAll ⟨storage, conceptual⟩ links) named)
    {l : Link} (member : l ∈ links) :
    ∃ d, (linkInverses named).conceptual.entities.find? l.entity.name = some d ∧
      Settled l.entity d := by
  have related := given.entities l.entity.name
  rw [find_entity_markAll] at related
  simp only [entity_of_link linked member, Option.map_some] at related
  generalize inNamed : named.conceptual.entities.find? l.entity.name = reached at related
  cases related with
  | @some _ d own =>
    have used : (markedEntity links l.entity).isUsed = true := isUsed_of_link member rfl
    obtain ⟨taken, navigations, _, walked, rfl⟩ := own.used used
    refine ⟨_, by rw [find_linkInverses, inNamed, Option.map_some], ?_⟩
    rw [linkEntity, if_pos (show (markedEntity links l.entity).isUsed = true from used)]
    rw [navigations_markedEntity] at walked
    refine ⟨fixedName_markedEntity .., properties_markedEntity .., ?_, ?_⟩
    · simpa using walked.each.length_eq.symm
    · intro n inLinked
      obtain ⟨before, inNavigations, rfl⟩ := List.mem_map.1 inLinked
      obtain ⟨_, _, naming⟩ := related_of_mem_right walked.each inNavigations
      rw [identifier_linkNavigation]
      exact naming.atom

theorem keyScope_total {t : Table} {e d : Entity} (own : t.fixedName.IsText)
    (name : e.fixedName.IsText) (settled : Settled e d) :
    ∃ taken, keyScope t d = .ok taken ∧
      taken.length ≤ 2 + e.properties.length + e.navigations.length := by
  have total : ∃ taken, keyScope t d = .ok taken := by
    rw [keyScope, memberScope, settled.fixedName, name.atom, own.atom]
    refine succeeds_iff.2 (.bind (.bind (failsWith_ok _) fun _ _ => failsWith_ok _) fun _ _ => ?_)
    refine .bind (failsWith_ok _) fun _ _ => .bind (.mapM fun label member => ?_)
      fun _ _ => failsWith_ok _
    obtain ⟨n, inEntity, rfl⟩ := List.mem_map.1 (List.mem_filter.1 member).1
    exact failsWith_of_ok (settled.atoms n inEntity)
  obtain ⟨taken, scope⟩ := total
  refine ⟨taken, scope, ?_⟩
  have bound := List.length_filter_le Label.isGiven (d.navigations.map (·.identifier))
  rw [List.length_map, settled.navigations] at bound
  rw [keyScope_ok scope, settled.properties]
  simp only [List.cons_append, List.length_cons, List.length_append, List.length_map]
  omega

theorem nameTables_fails (storageRead : StorageRead storage) (read : ConceptualRead conceptual)
    (linked : List.Forall₂ (Linked storage conceptual) mappings links) {named : ModelPair}
    (given : NamedModels (markAll ⟨storage, conceptual⟩ links) named) :
    FailsWith (fun f => (∃ base, f = .noFreeName base) ∧ Crowded storage conceptual mappings)
      (nameTables (linkInverses named) links) := by
  have tables : (linkInverses named).storage = (markAll ⟨storage, conceptual⟩ links).storage :=
    given.storage
  refine .bind (.mapM fun l first => ?_) fun _ _ => failsWith_ok _
  have member : l ∈ links := List.mem_of_find?_eq_some (mem_firstOfTable.1 first).2
  obtain ⟨x, inMappings, made⟩ := related_of_mem_right linked member
  have known := table_of_link linked member
  obtain ⟨d, found, settled⟩ := settled_of_link linked given member
  have now : current (linkInverses named) l = (markedTable links l.table, d) := by
    rw [current, found, tables, find_table_markAll]
    simp only [known, Option.map_some, Option.getD_some]
  have inRead := Catalog.mem_of_find? known
  obtain ⟨taken, scope, size⟩ := keyScope_total
    (fixedName_markedTable links l.table ▸ storageRead.fixedNames _ inRead)
    (read.fixedNames _ (Catalog.mem_of_find? made.entity)) settled
  rw [now, nameTable, scope]
  refine .bind (failsWith_ok _) fun _ same => ?_
  cases same
  rw [tables]
  refine .bind ((nameForeignKeys_fails _ (textTables_marked storageRead links)
    (fun k inKeys => ?_) taken d.navigations).imp ?_) fun _ _ => failsWith_ok _
  · rw [foreignKeys_markedTable] at inKeys
    rw [keys_tables_markAll]
    exact storageRead.foreignKeys _ inRead k inKeys
  · rintro f ⟨overflow, bound⟩
    refine ⟨overflow, x, inMappings, l.table, l.entity, made.table, made.entity, ?_⟩
    rw [foreignKeys_markedTable] at bound
    omega

end naming

section bound

variable {storage : StorageModel} {conceptual : ConceptualModel} {mappings : List Mapping}
  {functionMappings : List FunctionMapping}

theorem bindLinks_fails (storageRead : StorageRead storage) (read : ConceptualRead conceptual)
    {links : List Link} (linked : List.Forall₂ (Linked storage conceptual) mappings links) :
    FailsWith (NamingFault storage conceptual mappings)
      (bindLinks ⟨storage, conceptual⟩ links) := by
  refine .bind (nameEntities_fails storageRead read linked) fun named given => ?_
  exact (nameTables_fails storageRead read linked (nameEntities_ok given)).imp fun _ => .inr

theorem targets_mapped (unused : Unused conceptual) {r : ResolvedModel}
    (bound : (bind storage conceptual mappings functionMappings).outcome = .ok r) :
    ¬ LeadsAstray conceptual mappings := by
  obtain ⟨links, named, stages⟩ := bind_stages bound
  rintro ⟨x, member, e, entity, n, inEntity, nowhere⟩
  obtain ⟨l, inLinks, made⟩ := related_of_mem_left stages.linked member
  obtain rfl : l.entity = e := Option.some.inj (made.entity.symm.trans entity)
  obtain ⟨d, found⟩ := stages.find_linked_entity inLinks
  obtain ⟨read, navigations, settled⟩ :=
    stages.used_entity found (stages.used_of_link inLinks found)
  have known := stages.known_entity inLinks
  have same := settled.inRead
  rw [show d.name = l.entity.name from Catalog.key_of_find? found, known] at same
  obtain rfl : l.entity = read := Option.some.inj same
  obtain ⟨taken, _, given⟩ := settled.scope
  obtain ⟨after, _, naming⟩ := related_of_mem_left given.each inEntity
  obtain ⟨target, table, reached, _⟩ := naming.target
  obtain ⟨l', inLinks', _, named', _⟩ := stages.table_of_target unused reached
  obtain ⟨y, inMappings, madeToo⟩ := related_of_mem_right stages.linked inLinks'
  exact nowhere y inMappings ((Catalog.key_of_find? madeToo.entity).symm.trans named')

/-- What a fault of binding says about the models and the mappings. -/
def BindFault (storage : StorageModel) (conceptual : ConceptualModel) (mappings : List Mapping)
    (f : Fault) : Prop :=
  (MappingFault f ∧ ∃ x ∈ mappings, Unlinkable storage conceptual x) ∨
    ((∀ x ∈ mappings, ¬ Unlinkable storage conceptual x) ∧
      NamingFault storage conceptual mappings f)

theorem bind_fails (storageRead : StorageRead storage) (read : ConceptualRead conceptual) :
    FailsWith (BindFault storage conceptual mappings)
      (bind storage conceptual mappings functionMappings).outcome := by
  rw [bind, Noted.outcome_bind]
  cases walked : (mappings.mapM (link storage conceptual)).outcome with
  | error f =>
    have kind : MappingFault f := by
      rw [Noted.outcome_mapM] at walked
      exact FailsWith.mapM (fun x _ => link_fails x) f walked
    refine failsWith_error.2 (.inl ⟨kind, Classical.byContradiction fun none => ?_⟩)
    have linkable : ∀ x ∈ mappings, ¬ Unlinkable storage conceptual x :=
      fun x member missing => none ⟨x, member, missing⟩
    obtain ⟨links, linked⟩ := (links_ok_iff mappings).2 linkable
    cases walked.symm.trans linked
  | ok links =>
    have linkable := (links_ok_iff mappings).1 ⟨links, walked⟩
    refine .bind (failsWith_ok _) fun _ same => ?_
    cases same
    rw [Noted.outcome_bind]
    refine .bind ((bindLinks_fails storageRead read (linked_of_walk walked)).imp fun f given => ?_)
      fun _ _ => failsWith_ok _
    exact .inr ⟨linkable, given⟩

end bound

end EntityScaffold.Binding
