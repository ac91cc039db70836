import EntityScaffold.Proofs.Binding.Changes
import EntityScaffold.Proofs.Binding.LastMappings
import EntityScaffold.Proofs.Catalogs

/-!
Binding once more. What binding has written is just what it writes again: marking goes by the
mappings alone, naming by what the targets are called, and linking and the naming of keys by names
that stand already. So a bound model is one that binding leaves as it is.
-/
namespace EntityScaffold.Binding

section marking

theorem markedTable_foreignKeys (links : List Link) (t : Table) (keys : List ForeignKey) :
    markedTable links { t with foreignKeys := keys } =
      { markedTable links t with foreignKeys := keys } := by
  induction links generalizing t with
  | nil => rfl
  | cons l rest ih =>
    rw [markedTable_cons, markedTable_cons]
    by_cases own : t.name = l.table.name
    · rw [if_pos own, if_pos own]
      exact ih (l.markTable t)
    · rw [if_neg own, if_neg own]
      exact ih t

theorem markedEntity_navigations (links : List Link) (e : Entity) (navigations : List Navigation) :
    markedEntity links { e with navigations := navigations } =
      { markedEntity links e with navigations := navigations } := by
  induction links generalizing e with
  | nil => rfl
  | cons l rest ih =>
    rw [markedEntity_cons, markedEntity_cons]
    by_cases own : e.name = l.entity.name
    · rw [if_pos own, if_pos own]
      exact ih (l.markEntity e)
    · rw [if_neg own, if_neg own]
      exact ih e

theorem columns_markedTable_again (links : List Link) (t : Table) :
    (markedTable links (markedTable links t)).columns = (markedTable links t).columns := by
  refine Catalog.ext ?_
  simp only [columns_markedTable, name_markedTable, entries_assignProperties, List.map_map]
  refine List.map_congr_left fun d _ => ?_
  simp only [Function.comp]
  cases ((correspondencesTo links t.name).reverse.find? (·.column == d.name)) <;> rfl

theorem markedTable_again (links : List Link) (t : Table) :
    markedTable links (markedTable links t) = markedTable links t := by
  cases last : lastTo links t.name with
  | none => rw [markedTable_of_unlinked last, markedTable_of_unlinked last]
  | some l =>
    have once := bound_markedTable links t
    have twice := bound_markedTable links (markedTable links t)
    rw [last] at once
    rw [name_markedTable, last] at twice
    obtain ⟨used, entityName⟩ := Prod.mk.inj (twice.trans once.symm)
    rw [markedTable_eq links (markedTable links t), used, entityName, columns_markedTable_again]

theorem markedEntity_again (links : List Link) (e : Entity) :
    markedEntity links (markedEntity links e) = markedEntity links e := by
  cases last : lastOf links e.name with
  | none => rw [markedEntity_of_unlinked last, markedEntity_of_unlinked last]
  | some l =>
    have once := bound_markedEntity links e
    have twice := bound_markedEntity links (markedEntity links e)
    rw [last] at once
    rw [name_markedEntity, last] at twice
    obtain ⟨used, rest⟩ := Prod.mk.inj (twice.trans once.symm)
    obtain ⟨tableName, schema⟩ := Prod.mk.inj rest
    rw [markedEntity_eq links (markedEntity links e), used, tableName, schema]

end marking

/-- Two links that mark alike: of their tables and entities they differ in what marking leaves. -/
structure Relinked (l k : Link) : Prop where
  mapping : k.mapping = l.mapping
  table : k.table.name = l.table.name
  schema : k.table.schema = l.table.schema
  entity : k.entity.name = l.entity.name
  fixedName : k.entity.fixedName = l.entity.fixedName

theorem mark_relinked {l k : Link} (again : Relinked l k) (p : ModelPair) : k.mark p = l.mark p := by
  have tables : k.markTable = l.markTable := by
    funext t
    simp only [Link.markTable, again.mapping, again.fixedName]
  have entities : k.markEntity = l.markEntity := by
    funext e
    simp only [Link.markEntity, again.table, again.schema]
  simp only [Link.mark, tables, entities, again.table, again.entity]

theorem markAll_relinked {links again : List Link} (related : List.Forall₂ Relinked links again)
    (p : ModelPair) : markAll p again = markAll p links := by
  induction related generalizing p with
  | nil => rfl
  | @cons l k rest others own _ ih =>
    show markAll (k.mark p) others = markAll (l.mark p) rest
    rw [mark_relinked own, ih]

section linking

variable {storage : StorageModel} {conceptual : ConceptualModel} {mappings : List Mapping}
  {links : List Link} {named : ModelPair} {r : ResolvedModel}

theorem checkCorrespondence_congr (x : Mapping) {t u : Table} {e f : Entity}
    (table : u.name = t.name) (columns : u.columns.keys = t.columns.keys) (entity : f.name = e.name)
    (properties : f.properties = e.properties) :
    checkCorrespondence x u f = checkCorrespondence x t e := by
  funext c
  have known : u.columns.contains c.column = t.columns.contains c.column := by
    rw [Bool.eq_iff_iff, Catalog.contains_iff, Catalog.contains_iff, columns]
  rw [checkCorrespondence, checkCorrespondence, Entity.property?, Entity.property?, known, table,
    entity, properties]

theorem keys_columns_markedTable (links : List Link) (t : Table) :
    (markedTable links t).columns.keys = t.columns.keys := by
  rw [Catalog.keys, columns_markedTable, entries_assignProperties, List.map_map]
  rfl

namespace Stages

theorem entity_of_linked (stages : Stages storage conceptual mappings links named r) {l : Link}
    (member : l ∈ links) : ∃ f, r.conceptual.entities.find? l.entity.name = some f ∧
      f.name = l.entity.name ∧ f.fixedName = l.entity.fixedName ∧
      f.properties = l.entity.properties := by
  obtain ⟨f, found⟩ := stages.find_linked_entity member
  obtain ⟨read, navigations, bound⟩ := stages.used_entity found (stages.used_of_link member found)
  have same : f.name = l.entity.name := Catalog.key_of_find? found
  have own := bound.inRead
  rw [same, stages.known_entity member] at own
  refine ⟨f, found, same, ?_, ?_⟩
  · rw [bound.made, Option.some.inj own]
    exact fixedName_markedEntity links read
  · rw [bound.made, Option.some.inj own]
    exact properties_markedEntity links read

theorem link_again (stages : Stages storage conceptual mappings links named r) {x : Mapping}
    {l : Link} (member : l ∈ links) (linked : (link storage conceptual x).outcome = .ok l) :
    ∃ k, link r.storage r.conceptual x = ⟨(link storage conceptual x).notices, .ok k⟩ ∧
      Relinked l k := by
  obtain ⟨mapping, table, entity⟩ := link_ok linked
  obtain ⟨keys, resolved⟩ := stages.table_of_linked member ⟨mapping, table, entity⟩
  obtain ⟨f, found, name, fixedName, properties⟩ := stages.entity_of_linked member
  have own : l.entity.name = x.entity := Catalog.key_of_find? entity
  rw [own] at found
  refine ⟨⟨x, { markedTable links l.table with foreignKeys := keys }, f⟩, ?_, ?_⟩
  · have checks : checkCorrespondence x { markedTable links l.table with foreignKeys := keys } f =
        checkCorrespondence x l.table l.entity :=
      checkCorrespondence_congr x (name_markedTable links l.table)
        (keys_columns_markedTable links l.table) name properties
    simp only [link, table, entity] at linked ⊢
    obtain ⟨_, checked, _⟩ := Noted.outcome_bind_eq_ok.1 linked
    simp only [resolved, found, checks]
    rw [Noted.bind_of_ok _ checked, Noted.bind_of_ok _ checked]
    rfl
  · exact ⟨mapping.symm, name_markedTable links l.table, schema_markedTable links l.table, name,
      fixedName⟩

end Stages

end linking

section lookups

/-- Two tables that go by the same names where others lead to them. -/
structure SameNames (t u : Table) : Prop where
  fixedName : u.fixedName = t.fixedName
  schema : u.schema = t.schema

theorem resolveTable_related {R : Table → Table → Prop} {m n : StorageModel}
    (tables : ∀ name, Option.Rel R (m.tables.find? name) (n.tables.find? name))
    (sets : ∀ name, m.entitySets.find? name = n.entitySets.find? name) (name : String) :
    Option.Rel R (m.resolveTable? name) (n.resolveTable? name) := by
  have own := tables name
  unfold StorageModel.resolveTable?
  rw [sets]
  generalize m.tables.find? name = t at own
  generalize n.tables.find? name = u at own
  cases own with
  | some related => exact .some related
  | none =>
    cases n.entitySets.find? name with
    | none => exact .none
    | some set => exact tables set.table

theorem targetOf_of_target {p : ModelPair} {n : Navigation} {target : Entity} {table : Table}
    (reached : Target p n target table) (e : Entity) : targetOf p e n = .ok (target, table) := by
  obtain ⟨name, remembered, resolved⟩ := reached.table
  have known : (target.tableName.filter fun _ => target.isUsed) >>= p.storage.resolveTable? =
      some table := by
    rw [remembered, Option.filter_some, if_pos reached.used]
    exact resolved
  simp only [targetOf, reached.entity, known]

/-- Whatever a navigation leads to in the first pair of models, it leads to in the second, by the
same names. -/
def Retargets (p q : ModelPair) : Prop :=
  ∀ n target table, Target p n target table → ∃ target' table', Target q n target' table' ∧
    target'.fixedName = target.fixedName ∧ SameNames table table'

theorem nameNavigations_again {p q : ModelPair} (kept : Retargets p q) {e d : Entity}
    {taken : List Label} {read named : List Navigation} {change : Navigation → Navigation}
    (only : ∀ n, ∃ back, change n = { n with inverseIdentifier := back })
    (ok : nameNavigations p e taken read = .ok named) :
    nameNavigations q d taken (named.map change) = .ok (named.map change) := by
  induction read generalizing taken named with
  | nil =>
    cases ok
    rfl
  | cons n rest ih =>
    simp only [nameNavigations, bind_ok, pure_ok] at ok
    obtain ⟨⟨target, table⟩, aimed, identifier, freed, others, walked, rfl⟩ := ok
    -- Both walks have given the same names so far, so the same name is free.
    obtain ⟨target', table', reached, typeName, names⟩ := kept n target table (targetOf_ok aimed)
    rw [List.map_cons]
    generalize first : change _ = m
    obtain ⟨back, made⟩ := only { n with
      targetFixedName := table.fixedName
      targetTypeName := target.fixedName
      targetSchema := table.schema
      identifier := identifier }
    rw [first] at made
    subst made
    have again := targetOf_of_target (n := { n with
        targetFixedName := table.fixedName
        targetTypeName := target.fixedName
        targetSchema := table.schema
        identifier := identifier
        inverseIdentifier := back }) ⟨reached.entity, reached.used, reached.table⟩ d
    have later := ih walked
    simp only [nameNavigations, again, typeName, names.fixedName, names.schema, freed, later,
      Bind.bind, Except.bind, pure, Except.pure]

theorem chosen_congr {k g : ForeignKey} {target target' : Table} (free : List Navigation)
    (association : g.association = k.association) (destination : g.destination = k.destination)
    (fixedName : target'.fixedName = target.fixedName) :
    chosen? g target' free = chosen? k target free := by
  have fits : fitsEnd g target' = fitsEnd k target := by
    funext n
    rw [fitsEnd, fitsEnd, association, fixedName]
  rw [chosen?, chosen?, fits, destination]

theorem nameForeignKeys_again {s s' : StorageModel} {own own' : Table} {taken : List Label}
    {free : List Navigation} {read named : List ForeignKey}
    (tables : ∀ name, Option.Rel SameNames (s.tables.find? name) (s'.tables.find? name))
    (ok : nameForeignKeys s own taken free read = .ok named) :
    nameForeignKeys s' own' taken free named = .ok named := by
  induction read generalizing taken free named with
  | nil =>
    cases ok
    rfl
  | cons k rest ih =>
    rw [nameForeignKeys] at ok
    have related := tables k.table
    cases known : s.tables.find? k.table with
    | none => rw [known] at ok; cases ok
    | some target =>
      rw [known] at related
      generalize again : s'.tables.find? k.table = reached at related
      cases related with
      | @some _ target' names =>
        simp only [known] at ok
        cases chosen : chosen? k target free with
        | some n =>
          simp only [chosen, bind_ok, pure_ok] at ok
          obtain ⟨others, walked, rfl⟩ := ok
          have choice := chosen_congr (k := k) (g := { k with
            tableFixedName := target.fixedName
            tableSchema := target.schema
            identifier := n.identifier
            inverseIdentifier := n.inverseIdentifier }) free rfl rfl names.fixedName
          rw [nameForeignKeys]
          simp only [again, choice, chosen, names.fixedName, names.schema, ih walked, Bind.bind,
            Except.bind, pure, Except.pure]
        | none =>
          simp only [chosen, bind_ok, pure_ok] at ok
          obtain ⟨identifier, freed, others, walked, rfl⟩ := ok
          have choice := chosen_congr (k := k) (g := { k with
            tableFixedName := target.fixedName
            tableSchema := target.schema
            identifier := identifier }) free rfl rfl names.fixedName
          rw [nameForeignKeys]
          simp only [again, choice, chosen, names.fixedName, names.schema, freed, ih walked,
            Bind.bind, Except.bind, pure, Except.pure]

end lookups

end EntityScaffold.Binding
