import EntityScaffold.Proofs.Binding.Changes
import EntityScaffold.Proofs.Catalogs

/-!
The order of the mappings. Where no two of them meet on a table or on an entity, marking them in
another order comes to the same, and what is named afterwards is named table by table.
-/
namespace EntityScaffold.Binding

def resolvedTables (storage : StorageModel) (mappings : List Mapping) : List String :=
  mappings.filterMap fun x => (storage.resolveTable? x.table).map (·.name)

/-- No two mappings resolve to one table, and no two name one entity. -/
structure Apart (storage : StorageModel) (mappings : List Mapping) : Prop where
  tables : (resolvedTables storage mappings).Nodup
  entities : (mappings.map (·.entity)).Nodup

theorem Apart.perm {storage : StorageModel} {mappings others : List Mapping}
    (apart : Apart storage mappings) (perm : mappings.Perm others) : Apart storage others :=
  ⟨(perm.filterMap _).nodup_iff.1 apart.tables, (perm.map _).nodup_iff.1 apart.entities⟩

structure ApartLinks (links : List Link) : Prop where
  tables : (links.map (·.table.name)).Nodup
  entities : (links.map (·.entity.name)).Nodup

theorem resolvedTables_of_linked {storage : StorageModel} {conceptual : ConceptualModel}
    {mappings : List Mapping} {links : List Link}
    (linked : List.Forall₂ (Linked storage conceptual) mappings links) :
    resolvedTables storage mappings = links.map (·.table.name) := by
  induction linked with
  | nil => rfl
  | cons own _ ih => rw [resolvedTables, List.filterMap_cons_some (by rw [own.table]; rfl),
      List.map_cons, ← ih, resolvedTables]

theorem Apart.links {storage : StorageModel} {conceptual : ConceptualModel}
    {mappings : List Mapping} {links : List Link} (apart : Apart storage mappings)
    (linked : List.Forall₂ (Linked storage conceptual) mappings links) : ApartLinks links := by
  have entities : mappings.map (·.entity) = links.map (·.entity.name) :=
    map_eq_of_related linked fun _ _ own => (Catalog.key_of_find? own.entity).symm
  exact ⟨resolvedTables_of_linked linked ▸ apart.tables, entities ▸ apart.entities⟩

theorem mark_comm {l k : Link} (tables : l.table.name ≠ k.table.name)
    (entities : l.entity.name ≠ k.entity.name) (p : ModelPair) :
    k.mark (l.mark p) = l.mark (k.mark p) := by
  have stored := Catalog.modify_comm (c := p.storage.tables) tables l.markTable k.markTable
    (fun _ => rfl) (fun _ => rfl)
  have known := Catalog.modify_comm (c := p.conceptual.entities) entities l.markEntity
    k.markEntity (fun _ => rfl) (fun _ => rfl)
  exact congrArg₂ ModelPair.mk (congrArg (fun tables => { p.storage with tables }) stored)
    (congrArg (fun entities => { p.conceptual with entities }) known)

theorem markAll_perm {links others : List Link} (perm : links.Perm others)
    (apart : ApartLinks links) (p : ModelPair) : markAll p links = markAll p others := by
  refine perm.foldl_eq' (fun l inLinks k inLinksToo p => ?_) p
  by_cases same : l = k
  · rw [same]
  · exact mark_comm
      (fun equal => same (List.inj_on_of_nodup_map apart.tables inLinks inLinksToo equal))
      (fun equal => same (List.inj_on_of_nodup_map apart.entities inLinks inLinksToo equal)) p

theorem firstOfTable_of_nodup {seen : List String} {links : List Link}
    (distinct : (links.map (·.table.name)).Nodup) (unseen : ∀ l ∈ links, l.table.name ∉ seen) :
    firstOfTable seen links = links := by
  induction links generalizing seen with
  | nil => rfl
  | cons l rest ih =>
    obtain ⟨apart, others⟩ := List.nodup_cons.1 distinct
    rw [firstOfTable, if_neg (unseen l (by simp)), ih others fun k later again => ?_]
    rcases List.mem_cons.1 again with same | met
    · exact apart (List.mem_map.2 ⟨k, later, same⟩)
    · exact unseen k (List.mem_cons_of_mem l later) met

theorem nameTables_perm {p q : ModelPair} {links others : List Link} (perm : links.Perm others)
    (distinct : (links.map (·.table.name)).Nodup)
    (known : ∀ l ∈ links, l.table.name ∈ p.storage.tables.keys)
    (ok : nameTables p links = .ok q) : nameTables p others = .ok q := by
  have distinctToo := (perm.map (·.table.name)).nodup_iff.1 distinct
  -- Every link is the first of its table, so tables are named in the order of the links.
  simp only [nameTables, firstOfTable_of_nodup distinct fun _ _ => List.not_mem_nil,
    firstOfTable_of_nodup distinctToo fun _ _ => List.not_mem_nil, bind_ok, pure_ok] at ok ⊢
  obtain ⟨named, walked, rfl⟩ := ok
  obtain ⟨again, walkedToo, reordered⟩ := mapM_perm perm walked
  have keys : links.map (·.table.name) = named.map fun t => Keyed.key t :=
    map_eq_of_related (mapM_ok.1 walked) fun l _ own =>
      ((name_nameTable own).trans (name_current_table p l)).symm
  have same := Catalog.insertAll_perm (c := p.storage.tables) reordered (keys ▸ distinct)
    fun t member => by
      have listed : Keyed.key t ∈ links.map (·.table.name) := keys ▸ List.mem_map_of_mem member
      obtain ⟨l, inLinks, name⟩ := List.mem_map.1 listed
      exact name ▸ known l inLinks
  exact ⟨again, walkedToo, by rw [same]⟩

theorem bindLinks_perm {p q : ModelPair} {links others : List Link} (perm : links.Perm others)
    (apart : ApartLinks links) (known : ∀ l ∈ links, l.table.name ∈ p.storage.tables.keys)
    (ok : bindLinks p links = .ok q) : bindLinks p others = .ok q := by
  simp only [bindLinks, bind_ok] at ok ⊢
  obtain ⟨named, ran, tables⟩ := ok
  refine ⟨named, markAll_perm perm apart p ▸ ran, nameTables_perm perm apart.tables ?_ tables⟩
  intro l member
  have storage : (linkInverses named).storage = (markAll p links).storage :=
    (nameEntities_ok ran).storage
  rw [storage, keys_tables_markAll]
  exact known l member

theorem bind_perm {storage : StorageModel} {conceptual : ConceptualModel}
    {mappings others : List Mapping} {functionMappings : List FunctionMapping} {r : ResolvedModel}
    (apart : Apart storage mappings) (perm : mappings.Perm others)
    (bound : (bind storage conceptual mappings functionMappings).outcome = .ok r) :
    (bind storage conceptual others functionMappings).outcome =
      .ok { r with mappings := others } := by
  obtain ⟨links, named, run⟩ := bind_run bound
  obtain ⟨again, walked, reordered⟩ :=
    mapM_perm perm ((Noted.outcome_mapM ..).symm.trans run.linked)
  rw [← Noted.outcome_mapM] at walked
  have known : ∀ l ∈ links, l.table.name ∈ storage.tables.keys := fun l member => by
    rw [← Catalog.find?_isSome_iff, run.stages.known_table member]
    rfl
  rw [bind_of_links functionMappings walked,
    bindLinks_perm reordered (apart.links run.stages.linked) known run.bindLinks]
  obtain ⟨rfl, rfl⟩ := mappings_of_bind bound
  rfl

/-- Mappings that do not meet are bound in any order or in none, and to the same models. -/
theorem bind_order {storage : StorageModel} {conceptual : ConceptualModel}
    {mappings others : List Mapping} (functionMappings : List FunctionMapping)
    (apart : Apart storage mappings) (perm : mappings.Perm others) :
    let here := (bind storage conceptual mappings functionMappings).outcome
    let there := (bind storage conceptual others functionMappings).outcome
    ((∃ r, here = .ok r) ↔ ∃ r, there = .ok r) ∧
      ∀ r s, here = .ok r → there = .ok s → r.storage = s.storage ∧ r.conceptual = s.conceptual := by
  refine ⟨⟨?_, ?_⟩, ?_⟩
  · rintro ⟨r, bound⟩
    exact ⟨_, bind_perm apart perm bound⟩
  · rintro ⟨r, bound⟩
    exact ⟨_, bind_perm (apart.perm perm) perm.symm bound⟩
  · intro r s bound boundToo
    rw [bind_perm apart perm bound] at boundToo
    cases boundToo
    exact ⟨rfl, rfl⟩

section letting

def lettingKey (table : String) (source destination : Multiplicity) (isPrincipal : Bool) :
    ForeignKey where
  source := source
  destination := destination
  table := table
  association := "In"
  isPrincipal := isPrincipal
  columns := [("HouseId", "HouseId")]

def lettingTable (name : String) (key : ForeignKey) : Table where
  name := name
  fixedName := .str name
  columns := .ofList [{ name := "HouseId", type := "int" }]
  foreignKeys := [key]

def lettingStorage : StorageModel where
  tables := .ofList
    [lettingTable "Rooms" (lettingKey "Houses" .many .one false),
      lettingTable "Houses" (lettingKey "Rooms" .one .many true)]
  entitySets := .ofList [⟨"RoomSet", "Rooms"⟩]

def lettingEntity (name target : String) (multiplicity : Multiplicity) : Entity where
  name := name
  fixedName := .str name
  properties := [{ name := "House", type := "Int32" }]
  navigations := [{
    entityName := name, targetName := target, multiplicity := multiplicity, association := "In" }]

def lettingEntities : ConceptualModel where
  entities := .ofList [lettingEntity "Room" "House" .one, lettingEntity "House" "Room" .many]

def lettingMappings : List Mapping :=
  [⟨"RoomSet", "Room", [⟨"HouseId", "House"⟩]⟩, ⟨"Houses", "House", [⟨"HouseId", "House"⟩]⟩]

def LettingBound (r : ResolvedModel) : Prop :=
  (r.storage.tables.entries.flatMap fun t =>
    t.foreignKeys.map fun k => (t.entityName, k.identifier, k.inverseIdentifier)) =
      [(.str "Room", .str "Houses", .str "Rooms"), (.str "House", .str "Rooms", .str "Houses")] ∧
    (r.conceptual.entities.entries.map fun e => (e.tableName, e.isUsed)) =
      [(some "Rooms", true), (some "Houses", true)]

instance : DecidablePred LettingBound := fun _ => inferInstanceAs (Decidable (_ ∧ _))

theorem letting_bound :
    ∃ r, (bind lettingStorage lettingEntities lettingMappings []).outcome = .ok r ∧
      LettingBound r :=
  ok_of_any (by decide +kernel)

theorem letting_apart : Apart lettingStorage lettingMappings :=
  ⟨by decide +kernel, by decide +kernel⟩

theorem letting_reordered :
    ∃ r s, (bind lettingStorage lettingEntities lettingMappings []).outcome = .ok r ∧
      (bind lettingStorage lettingEntities lettingMappings.reverse []).outcome = .ok s ∧
      LettingBound r ∧ r.storage = s.storage ∧ r.conceptual = s.conceptual := by
  obtain ⟨r, bound, letting⟩ := letting_bound
  have order := @bind_order lettingStorage lettingEntities _ _ [] letting_apart
    lettingMappings.reverse_perm.symm
  obtain ⟨s, boundToo⟩ := order.1.1 ⟨r, bound⟩
  exact ⟨r, s, bound, boundToo, letting, order.2 r s bound boundToo⟩

end letting

end EntityScaffold.Binding
