import EntityScaffold.Proofs.Binding.Stages

/-!
Names of relationship members. The navigations of an entity and the foreign keys of its table end up
as members of one class and one configuration, so their names must not meet.
-/
namespace EntityScaffold

/-- The names of an entity's class and of the members that are no relationships. -/
def Entity.ownNames (e : Entity) : List Label :=
  e.fixedName :: e.properties.map fun p => .str p.name

namespace Binding

/-- The entity after which the keys of a table are named: that of the first mapping to it. -/
def keyEntity? (r : ResolvedModel) (t : Table) : Option Entity :=
  (r.mappings.find? fun x => (r.storage.resolveTable? x.table).map (·.name) == some t.name).bind
    fun x => r.conceptual.entities.find? x.entity

structure DistinctNavigations (e : Entity) : Prop where
  distinct : (e.navigations.map (·.identifier)).Nodup
  free : ∀ n ∈ e.navigations, n.identifier ∉ e.ownNames

/-- A key is named after a navigation of its association, which no other key of the table is, or
its name is that of no navigation and not the table's. -/
def Borrows (t : Table) (e : Entity) (k : ForeignKey) : Prop :=
  (∃ n ∈ e.navigations, n.association = k.association ∧ n.identifier = k.identifier ∧
      t.foreignKeys.filter (·.identifier == n.identifier) = [k]) ∨
    (k.identifier ∉ e.navigations.map (·.identifier) ∧ k.identifier ≠ t.fixedName)

structure DistinctKeys (t : Table) (e : Entity) : Prop where
  distinct : (t.foreignKeys.map (·.identifier)).Nodup
  free : ∀ k ∈ t.foreignKeys, k.identifier ∉ e.ownNames
  source : ∀ k ∈ t.foreignKeys, Borrows t e k

theorem namesShow_markAll {storage : StorageModel} {conceptual : ConceptualModel}
    (shown : NamesShow storage) (links : List Link) :
    NamesShow (markAll ⟨storage, conceptual⟩ links).storage :=
  fixedNames_markAll (P := (Label.isGiven ·)) (p := ⟨storage, conceptual⟩) shown links

namespace BoundEntity

variable {storage : StorageModel} {conceptual : ConceptualModel} {links : List Link}
  {named : ModelPair} {read e : Entity} {navigations : List Navigation}

theorem identifiers (bound : BoundEntity storage conceptual links named read navigations e) :
    e.navigations.map (·.identifier) = navigations.map (·.identifier) := by
  rw [bound.made, List.map_map]
  exact List.map_congr_left fun n _ => identifier_linkNavigation ..

theorem distinctNavigations
    (bound : BoundEntity storage conceptual links named read navigations e) :
    DistinctNavigations e := by
  obtain ⟨taken, scope, given⟩ := bound.scope
  have own : taken = e.ownNames := memberScope_ok scope
  refine ⟨bound.identifiers ▸ given.distinct, fun n member => ?_⟩
  have listed : n.identifier ∈ e.navigations.map (·.identifier) := List.mem_map.2 ⟨n, member, rfl⟩
  rw [bound.identifiers] at listed
  obtain ⟨before, inNamed, same⟩ := List.mem_map.1 listed
  rw [← own, ← same]
  exact given.free before inNamed

theorem navigation_shows (bound : BoundEntity storage conceptual links named read navigations e)
    (shown : NamesShow storage) {n : Navigation} (member : n ∈ e.navigations) :
    n.identifier.isGiven := by
  obtain ⟨taken, _, given⟩ := bound.scope
  have listed : n.identifier ∈ e.navigations.map (·.identifier) := List.mem_map.2 ⟨n, member, rfl⟩
  rw [bound.identifiers] at listed
  obtain ⟨before, inNamed, same⟩ := List.mem_map.1 listed
  obtain ⟨_, _, own⟩ := related_of_mem_right given.each inNamed
  rw [← same]
  exact own.shows (namesShow_markAll shown links)

end BoundEntity

theorem distinctKeys {storage : StorageModel} {t : Table} {e : Entity} {own : Table}
    {taken : List Label} {read keys : List ForeignKey} (navigations : DistinctNavigations e)
    (shown : ∀ n ∈ e.navigations, n.identifier.isGiven) (scope : keyScope t e = .ok taken)
    (walked : nameForeignKeys storage own taken e.navigations read = .ok keys) :
    DistinctKeys { t with foreignKeys := keys } e := by
  have all := keyScope_ok scope
  have members : ∀ label ∈ e.ownNames, label ∈ taken := by
    intro label member
    rw [all]
    exact List.mem_append_left _ (List.mem_cons_of_mem _ member)
  have listed : ∀ n ∈ e.navigations, n.identifier ∈ taken := by
    intro n member
    rw [all]
    refine List.mem_append_right _ (List.mem_filter.2 ⟨List.mem_map.2 ⟨n, member, rfl⟩, ?_⟩)
    exact shown n member
  have table : t.fixedName ∈ taken := by simp [all]
  obtain ⟨distinct, sourced⟩ := nameForeignKeys_distinct navigations.distinct listed walked
  refine ⟨distinct, ?_, ?_⟩
  · intro k member own
    rcases sourced k member with ⟨n, inNavigations, _, same⟩ | fresh
    · exact navigations.free n inNavigations (same ▸ own)
    · exact fresh (members _ own)
  · intro k member
    rcases sourced k member with ⟨n, inNavigations, association, same⟩ | fresh
    · refine .inl ⟨n, inNavigations, association, same, ?_⟩
      rw [same]
      exact filter_of_nodup_map distinct member
    · refine .inr ⟨?_, fun same => fresh (same ▸ table)⟩
      intro borrowed
      obtain ⟨n, inNavigations, same⟩ := List.mem_map.1 borrowed
      exact fresh (same ▸ listed n inNavigations)

namespace Stages

variable {storage : StorageModel} {conceptual : ConceptualModel} {mappings : List Mapping}
  {links : List Link} {named : ModelPair} {r : ResolvedModel}

theorem first_link (stages : Stages storage conceptual mappings links named r) {x : Mapping}
    {t : Table} (member : x ∈ r.mappings) (resolved : r.storage.resolveTable? x.table = some t) :
    ∃ l, links.find? (fun l => l.table.name == t.name) = some l ∧
      keyEntity? r t = r.conceptual.entities.find? l.entity.name := by
  have same : ∀ x l, Linked storage conceptual x l →
      ((r.storage.resolveTable? x.table).map (·.name) == some t.name) =
        (l.table.name == t.name) := by
    intro x l linked
    rw [stages.name_resolveTable, linked.table]
    rfl
  have related := find_of_related stages.linked same
  rw [← stages.mappings] at related
  cases found : r.mappings.find? fun x =>
      (r.storage.resolveTable? x.table).map (·.name) == some t.name with
  | none =>
    have absent := List.find?_eq_none.1 found x member
    rw [resolved] at absent
    simp at absent
  | some first =>
    rw [found] at related
    generalize located : links.find? (fun l => l.table.name == t.name) = reached at related
    cases related with
    | some linked =>
      refine ⟨_, rfl, ?_⟩
      rw [keyEntity?, found]
      show r.conceptual.entities.find? first.entity = _
      rw [← Catalog.key_of_find? linked.entity]
      rfl

end Stages

theorem relationship_names_distinct {storage : StorageModel} {conceptual : ConceptualModel}
    {mappings : List Mapping} {functionMappings : List FunctionMapping} {r : ResolvedModel}
    (shown : NamesShow storage)
    (bound : (bind storage conceptual mappings functionMappings).outcome = .ok r) :
    (∀ e ∈ r.usedEntities, DistinctNavigations e) ∧
      ∀ x ∈ r.mappings, ∀ t, r.storage.resolveTable? x.table = some t →
        ∃ e, keyEntity? r t = some e ∧ DistinctKeys t e := by
  obtain ⟨links, named, stages⟩ := bind_stages bound
  constructor
  · intro e inUse
    obtain ⟨member, used⟩ := mem_usedEntities.1 inUse
    obtain ⟨_, _, entity⟩ := stages.used_entity (Catalog.find?_of_mem member) used
    exact entity.distinctNavigations
  · intro x member t resolved
    obtain ⟨l, first, named_after⟩ := stages.first_link member resolved
    have own : l.table.name = t.name := by simpa using List.find?_some first
    rw [← own] at first
    obtain ⟨e, taken, keys, found, scope, walked, inResult⟩ := stages.mapped_table first
    have used := stages.used_of_link (List.mem_of_find?_eq_some first) found
    obtain ⟨_, _, entity⟩ := stages.used_entity found used
    have table := Catalog.find?_of_mem (mem_of_resolveTable resolved)
    have same : t = { markedTable links l.table with foreignKeys := keys } := by
      have equal : some t = some { markedTable links l.table with foreignKeys := keys } := by
        rw [← inResult, own, ← table]
        rfl
      exact Option.some.inj equal
    have after : keyScope (markedTable links l.table) e = .ok taken := by
      rw [← scope, keyScope, keyScope, fixedName_markedTable]
    refine ⟨e, named_after.trans found, ?_⟩
    rw [same]
    exact distinctKeys entity.distinctNavigations
      (fun n inEntity => entity.navigation_shows shown inEntity) after walked

section orders

def orderTables : StorageModel where
  tables := .ofList
    [{ name := "Orders", fixedName := .str "Order",
       foreignKeys := ["Buyer", "Payer", "Archive"].map fun association =>
         { source := .many, destination := .one, table := "Customers",
           association := association } },
     { name := "Customers", fixedName := .str "Customer" }]

def orderEntities : ConceptualModel where
  entities := .ofList
    [{ name := "Order", fixedName := .str "Order",
       properties := [{ name := "Customer", type := "String" }],
       navigations := ["Buyer", "Payer"].map fun association =>
         { entityName := "Order", targetName := "Customer", multiplicity := .one,
           association := association } },
     { name := "Customer", fixedName := .str "Customer" }]

def orderMappings : List Mapping := [⟨"Orders", "Order", []⟩, ⟨"Customers", "Customer", []⟩]

def orderKeyNames (r : ResolvedModel) : List Label :=
  ((r.storage.tables.find? "Orders").map (·.foreignKeys.map (·.identifier))).getD []

theorem order_names_distinct :
    NamesShow orderTables ∧
      ∃ r, (bind orderTables orderEntities orderMappings []).outcome = .ok r ∧
        orderKeyNames r = [.str "Customer1", .str "Customer2", .str "Customer3"] ∧
        (∀ e ∈ r.usedEntities, DistinctNavigations e) ∧
          ∀ x ∈ r.mappings, ∀ t, r.storage.resolveTable? x.table = some t →
            ∃ e, keyEntity? r t = some e ∧ DistinctKeys t e := by
  have shown : NamesShow orderTables := by
    unfold NamesShow
    decide
  have ran : ∃ r, (bind orderTables orderEntities orderMappings []).outcome = .ok r ∧
      orderKeyNames r = [.str "Customer1", .str "Customer2", .str "Customer3"] :=
    ok_of_any (by decide +kernel)
  obtain ⟨r, bound, names⟩ := ran
  exact ⟨shown, r, bound, names, relationship_names_distinct shown bound⟩

end orders

end Binding

end EntityScaffold
