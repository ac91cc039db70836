import EntityScaffold.Binding.Link
import EntityScaffold.Proofs.Outcomes
import Mathlib.Data.List.Induction

/-!
Marking as a whole. A table and an entity go through the links one by one, and only the links that
name them write to them; so a table remembers the entity of its last link, an entity the table of
its own, and everything that reading found out stays as it was.
-/
namespace EntityScaffold.Binding

theorem mem_of_resolveTable {m : StorageModel} {name : String} {t : Table}
    (found : m.resolveTable? name = some t) : t ∈ m.tables.entries := by
  unfold StorageModel.resolveTable? at found
  split at found
  · rename_i own
    cases found
    exact Catalog.mem_of_find? own
  · obtain ⟨set, _, exposed⟩ := Option.bind_eq_some_iff.1 found
    exact Catalog.mem_of_find? exposed

/-- A link as it was made for a mapping. -/
structure Linked (storage : StorageModel) (conceptual : ConceptualModel) (x : Mapping)
    (l : Link) : Prop where
  mapping : l.mapping = x
  table : storage.resolveTable? x.table = some l.table
  entity : conceptual.entities.find? x.entity = some l.entity

theorem link_ok {storage : StorageModel} {conceptual : ConceptualModel} {x : Mapping} {l : Link}
    (linked : (link storage conceptual x).outcome = .ok l) : Linked storage conceptual x l := by
  unfold link at linked
  split at linked
  · cases linked
  · rename_i t table
    split at linked
    · cases linked
    · rename_i e entity
      obtain ⟨_, _, made⟩ := Noted.outcome_bind_eq_ok.1 linked
      rw [← Noted.outcome_pure_ok.1 made]
      exact ⟨rfl, table, entity⟩

theorem table_of_link {storage : StorageModel} {conceptual : ConceptualModel}
    {mappings : List Mapping} {links : List Link}
    (linked : List.Forall₂ (Linked storage conceptual) mappings links) {l : Link}
    (member : l ∈ links) : storage.tables.find? l.table.name = some l.table := by
  obtain ⟨x, _, own⟩ := related_of_mem_right linked member
  exact Catalog.find?_of_mem (mem_of_resolveTable own.table)

theorem entity_of_link {storage : StorageModel} {conceptual : ConceptualModel}
    {mappings : List Mapping} {links : List Link}
    (linked : List.Forall₂ (Linked storage conceptual) mappings links) {l : Link}
    (member : l ∈ links) : conceptual.entities.find? l.entity.name = some l.entity := by
  obtain ⟨x, _, own⟩ := related_of_mem_right linked member
  exact Catalog.find?_of_mem (Catalog.mem_of_find? own.entity)

def markedTable (links : List Link) (t : Table) : Table :=
  links.foldl (fun t l => if t.name = l.table.name then l.markTable t else t) t

def markedEntity (links : List Link) (e : Entity) : Entity :=
  links.foldl (fun e l => if e.name = l.entity.name then l.markEntity e else e) e

theorem markedTable_cons (l : Link) (rest : List Link) (t : Table) :
    markedTable (l :: rest) t =
      markedTable rest (if t.name = l.table.name then l.markTable t else t) := rfl

theorem markedEntity_cons (l : Link) (rest : List Link) (e : Entity) :
    markedEntity (l :: rest) e =
      markedEntity rest (if e.name = l.entity.name then l.markEntity e else e) := rfl

theorem find_table_markAll (links : List Link) (p : ModelPair) (name : String) :
    (markAll p links).storage.tables.find? name =
      (p.storage.tables.find? name).map (markedTable links) := by
  induction links generalizing p with
  | nil => exact (Option.map_id_apply ..).symm
  | cons l rest ih =>
    have step : (l.mark p).storage.tables.find? name =
        (p.storage.tables.find? name).map fun t =>
          if t.name = l.table.name then l.markTable t else t :=
      Catalog.find?_modify _ _ _ l.markTable fun _ => rfl
    show (markAll (l.mark p) rest).storage.tables.find? name = _
    rw [ih, step, Option.map_map]
    rfl

theorem find_entity_markAll (links : List Link) (p : ModelPair) (name : String) :
    (markAll p links).conceptual.entities.find? name =
      (p.conceptual.entities.find? name).map (markedEntity links) := by
  induction links generalizing p with
  | nil => exact (Option.map_id_apply ..).symm
  | cons l rest ih =>
    have step : (l.mark p).conceptual.entities.find? name =
        (p.conceptual.entities.find? name).map fun e =>
          if e.name = l.entity.name then l.markEntity e else e :=
      Catalog.find?_modify _ _ _ l.markEntity fun _ => rfl
    show (markAll (l.mark p) rest).conceptual.entities.find? name = _
    rw [ih, step, Option.map_map]
    rfl

theorem keys_tables_markAll (links : List Link) (p : ModelPair) :
    (markAll p links).storage.tables.keys = p.storage.tables.keys := by
  induction links generalizing p with
  | nil => rfl
  | cons l rest ih =>
    have step : (l.mark p).storage.tables.keys = p.storage.tables.keys :=
      Catalog.keys_modify _ _ l.markTable fun _ => rfl
    exact (ih (l.mark p)).trans step

theorem keys_entities_markAll (links : List Link) (p : ModelPair) :
    (markAll p links).conceptual.entities.keys = p.conceptual.entities.keys := by
  induction links generalizing p with
  | nil => rfl
  | cons l rest ih =>
    have step : (l.mark p).conceptual.entities.keys = p.conceptual.entities.keys :=
      Catalog.keys_modify _ _ l.markEntity fun _ => rfl
    exact (ih (l.mark p)).trans step

theorem entitySets_markAll (links : List Link) (p : ModelPair) :
    (markAll p links).storage.entitySets = p.storage.entitySets := by
  induction links generalizing p with
  | nil => rfl
  | cons l rest ih => exact ih (l.mark p)

theorem functions_markAll (links : List Link) (p : ModelPair) :
    (markAll p links).storage.functions = p.storage.functions := by
  induction links generalizing p with
  | nil => rfl
  | cons l rest ih => exact ih (l.mark p)

theorem others_markAll (links : List Link) (p : ModelPair) :
    (markAll p links).conceptual.complexTypes = p.conceptual.complexTypes ∧
      (markAll p links).conceptual.functions = p.conceptual.functions := by
  induction links generalizing p with
  | nil => exact ⟨rfl, rfl⟩
  | cons l rest ih => exact ih (l.mark p)

theorem markedTable_keeps {κ : Type} (part : Table → κ)
    (step : ∀ (l : Link) (t : Table), part (l.markTable t) = part t) (links : List Link)
    (t : Table) : part (markedTable links t) = part t := by
  induction links generalizing t with
  | nil => rfl
  | cons l rest ih =>
    rw [markedTable_cons, ih]
    split
    · exact step l t
    · rfl

theorem markedEntity_keeps {κ : Type} (part : Entity → κ)
    (step : ∀ (l : Link) (e : Entity), part (l.markEntity e) = part e) (links : List Link)
    (e : Entity) : part (markedEntity links e) = part e := by
  induction links generalizing e with
  | nil => rfl
  | cons l rest ih =>
    rw [markedEntity_cons, ih]
    split
    · exact step l e
    · rfl

@[simp] theorem name_markedTable (links : List Link) (t : Table) :
    (markedTable links t).name = t.name := markedTable_keeps Table.name (fun _ _ => rfl) links t

@[simp] theorem fixedName_markedTable (links : List Link) (t : Table) :
    (markedTable links t).fixedName = t.fixedName :=
  markedTable_keeps Table.fixedName (fun _ _ => rfl) links t

theorem fixedNames_markAll {P : Label → Prop} {p : ModelPair}
    (all : ∀ t ∈ p.storage.tables.entries, P t.fixedName) (links : List Link) :
    ∀ t ∈ (markAll p links).storage.tables.entries, P t.fixedName := by
  intro t member
  have found := Catalog.find?_of_mem member
  rw [find_table_markAll] at found
  obtain ⟨read, inRead, rfl⟩ := Option.map_eq_some_iff.1 found
  rw [fixedName_markedTable]
  exact all read (Catalog.mem_of_find? inRead)

@[simp] theorem schema_markedTable (links : List Link) (t : Table) :
    (markedTable links t).schema = t.schema :=
  markedTable_keeps Table.schema (fun _ _ => rfl) links t

@[simp] theorem foreignKeys_markedTable (links : List Link) (t : Table) :
    (markedTable links t).foreignKeys = t.foreignKeys :=
  markedTable_keeps Table.foreignKeys (fun _ _ => rfl) links t

@[simp] theorem name_markedEntity (links : List Link) (e : Entity) :
    (markedEntity links e).name = e.name := markedEntity_keeps Entity.name (fun _ _ => rfl) links e

@[simp] theorem fixedName_markedEntity (links : List Link) (e : Entity) :
    (markedEntity links e).fixedName = e.fixedName :=
  markedEntity_keeps Entity.fixedName (fun _ _ => rfl) links e

@[simp] theorem properties_markedEntity (links : List Link) (e : Entity) :
    (markedEntity links e).properties = e.properties :=
  markedEntity_keeps Entity.properties (fun _ _ => rfl) links e

@[simp] theorem navigations_markedEntity (links : List Link) (e : Entity) :
    (markedEntity links e).navigations = e.navigations :=
  markedEntity_keeps Entity.navigations (fun _ _ => rfl) links e

def lastTo (links : List Link) (table : String) : Option Link :=
  links.reverse.find? fun l => l.table.name == table

def lastOf (links : List Link) (entity : String) : Option Link :=
  links.reverse.find? fun l => l.entity.name == entity

theorem lastTo_isSome {links : List Link} {name : String} :
    (lastTo links name).isSome = true ↔ ∃ l ∈ links, l.table.name = name := by
  simp [lastTo, List.find?_isSome]

theorem lastOf_isSome {links : List Link} {name : String} :
    (lastOf links name).isSome = true ↔ ∃ l ∈ links, l.entity.name = name := by
  simp [lastOf, List.find?_isSome]

theorem bound_markedTable (links : List Link) (t : Table) :
    ((markedTable links t).isUsed, (markedTable links t).entityName) =
      ((lastTo links t.name).map fun l =>
        (true, l.entity.fixedName)).getD (t.isUsed, t.entityName) := by
  induction links using List.reverseRecOn with
  | nil => rfl
  | append_singleton rest l ih =>
    rw [markedTable, List.foldl_append]
    show ((fun t : Table => (t.isUsed, t.entityName))
      (if (markedTable rest t).name = l.table.name then l.markTable (markedTable rest t)
        else markedTable rest t)) = _
    rw [name_markedTable]
    by_cases own : t.name = l.table.name
    · simp [lastTo, own, Link.markTable]
    · simpa [lastTo, own, Ne.symm own] using ih

theorem entityName_markedTable (links : List Link) (t : Table) :
    (markedTable links t).entityName =
      ((lastTo links t.name).map (·.entity.fixedName)).getD t.entityName := by
  have bound := congrArg Prod.snd (bound_markedTable links t)
  cases last : lastTo links t.name with
  | none => simpa [last] using bound
  | some l => simpa [last] using bound

theorem markedTable_eq (links : List Link) (t : Table) : markedTable links t =
    { t with
      isUsed := (markedTable links t).isUsed
      entityName := (markedTable links t).entityName
      columns := (markedTable links t).columns } := by
  induction links generalizing t with
  | nil => rfl
  | cons l rest ih =>
    simp only [markedTable_cons]
    split
    · exact ih (l.markTable t)
    · exact ih t

theorem markedEntity_eq (links : List Link) (e : Entity) : markedEntity links e =
    { e with
      isUsed := (markedEntity links e).isUsed
      tableName := (markedEntity links e).tableName
      schema := (markedEntity links e).schema } := by
  induction links generalizing e with
  | nil => rfl
  | cons l rest ih =>
    simp only [markedEntity_cons]
    split
    · exact ih (l.markEntity e)
    · exact ih e

theorem bound_markedEntity (links : List Link) (e : Entity) :
    ((markedEntity links e).isUsed, (markedEntity links e).tableName,
        (markedEntity links e).schema) =
      ((lastOf links e.name).map fun l =>
        (true, some l.table.name, l.table.schema)).getD (e.isUsed, e.tableName, e.schema) := by
  induction links using List.reverseRecOn with
  | nil => rfl
  | append_singleton rest l ih =>
    rw [markedEntity, List.foldl_append]
    show ((fun e : Entity => (e.isUsed, e.tableName, e.schema))
      (if (markedEntity rest e).name = l.entity.name then l.markEntity (markedEntity rest e)
        else markedEntity rest e)) = _
    rw [name_markedEntity]
    by_cases own : e.name = l.entity.name
    · simp [lastOf, own, Link.markEntity]
    · simpa [lastOf, own, Ne.symm own] using ih

theorem isUsed_of_link {links : List Link} {l : Link} {e : Entity} (member : l ∈ links)
    (own : l.entity.name = e.name) : (markedEntity links e).isUsed = true := by
  obtain ⟨last, found⟩ := Option.isSome_iff_exists.1 (lastOf_isSome.2 ⟨l, member, own⟩)
  have bound := bound_markedEntity links e
  rw [found] at bound
  exact (Prod.mk.inj bound).1

theorem markedTable_of_unlinked {links : List Link} {t : Table}
    (unlinked : lastTo links t.name = none) : markedTable links t = t := by
  induction links using List.reverseRecOn with
  | nil => rfl
  | append_singleton rest l ih =>
    have apart : l.table.name ≠ t.name := fun own => by simp [lastTo, own] at unlinked
    have before : lastTo rest t.name = none := by simpa [lastTo, apart] using unlinked
    rw [markedTable, List.foldl_append]
    show (if (markedTable rest t).name = l.table.name then l.markTable (markedTable rest t)
      else markedTable rest t) = t
    rw [ih before, if_neg (Ne.symm apart)]

theorem markedEntity_of_unlinked {links : List Link} {e : Entity}
    (unlinked : lastOf links e.name = none) : markedEntity links e = e := by
  induction links using List.reverseRecOn with
  | nil => rfl
  | append_singleton rest l ih =>
    have apart : l.entity.name ≠ e.name := fun own => by simp [lastOf, own] at unlinked
    have before : lastOf rest e.name = none := by simpa [lastOf, apart] using unlinked
    rw [markedEntity, List.foldl_append]
    show (if (markedEntity rest e).name = l.entity.name then l.markEntity (markedEntity rest e)
      else markedEntity rest e) = e
    rw [ih before, if_neg (Ne.symm apart)]

section columns

theorem entries_assignProperties (given : List Correspondence) (columns : Catalog Column) :
    (given.foldl assignProperty columns).entries = columns.entries.map fun d =>
      { d with propertyName :=
          ((given.reverse.find? (·.column == d.name)).map (·.property)).or d.propertyName } := by
  induction given using List.reverseRecOn with
  | nil => simp
  | append_singleton before c ih =>
    rw [List.foldl_append]
    show ((before.foldl assignProperty columns).entries.map fun d =>
      if d.name = c.column then { d with propertyName := some c.property } else d) = _
    rw [ih, List.map_map]
    refine List.map_congr_left fun d _ => ?_
    by_cases own : d.name = c.column
    · simp [own]
    · simp [own, Ne.symm own]

def correspondencesTo (links : List Link) (table : String) : List Correspondence :=
  (links.filter (·.table.name == table)).flatMap (·.mapping.correspondences)

theorem columns_markedTable (links : List Link) (t : Table) :
    (markedTable links t).columns =
      (correspondencesTo links t.name).foldl assignProperty t.columns := by
  induction links generalizing t with
  | nil => rfl
  | cons l rest ih =>
    rw [markedTable_cons]
    by_cases own : t.name = l.table.name
    · rw [if_pos own, ih]
      simp [correspondencesTo, own, Link.markTable, List.foldl_append]
    · rw [if_neg own, ih]
      simp [correspondencesTo, Ne.symm own]

end columns

end EntityScaffold.Binding
