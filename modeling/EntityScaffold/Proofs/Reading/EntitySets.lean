import EntityScaffold.Proofs.Binding.Marking
import EntityScaffold.Proofs.Catalogs
import EntityScaffold.Proofs.Reading.AssociationElements

/-!
Entity sets and the tables they expose. A set is kept under its own name beside that of its table,
and a mapping finds a table by either. The two sorts of names are not kept apart: where a set is
called like a table, mappings reach that table, whatever the set exposes.
-/
namespace EntityScaffold.Reading
open Binding Xml

/-- An entity set as its element states it, with the plain name of its type. -/
structure StatedSet where
  name : String
  type : String
  deriving DecidableEq, Repr

def statedSet (node : Element) : Except Fault StatedSet := do
  return ⟨← node.attributeD "Name", unqualified (← node.attributeD "EntityType")⟩

def statedSets (schema : Element) : Except Fault (List StatedSet) := do
  match ← schema.first? "EntityContainer" with
  | none => return []
  | some container => (← container.childrenNamed "EntitySet").mapM statedSet

def StatedSet.exposed? (x : StatedSet) (m : StorageModel) : Option Table :=
  exposedTable? m x.name x.type

section exposing

variable {rules : StorageRules} {m n : StorageModel}

theorem StatedSet.exposed_of_keys (x : StatedSet) (same : m.tables.keys = n.tables.keys) :
    (x.exposed? m).map (·.name) = (x.exposed? n).map (·.name) := by
  have names (name : String) :
      (m.tables.find? name).map (·.name) = (n.tables.find? name).map (·.name) :=
    Catalog.key_find?_congr same name
  have own := names (if x.type = "" then x.name else x.type)
  unfold exposed? exposedTable?
  cases inM : m.tables.find? (if x.type = "" then x.name else x.type) with
  | some t =>
    cases inN : n.tables.find? (if x.type = "" then x.name else x.type) with
    | some u => simpa [inM, inN] using own
    | none => simp [inM, inN] at own
  | none =>
    cases inN : n.tables.find? (if x.type = "" then x.name else x.type) with
    | some u => simp [inM, inN] at own
    | none => exact names x.name

theorem StatedSet.exposed_known {x : StatedSet} {t : Table} (exposed : x.exposed? m = some t) :
    m.tables.find? t.name = some t := by
  unfold exposed? exposedTable? at exposed
  have member : t ∈ m.tables.entries := by
    split at exposed
    · rename_i found
      exact Option.some.inj exposed ▸ Catalog.mem_of_find? found
    · exact Catalog.mem_of_find? exposed
  exact Catalog.find?_of_mem member

/-- What reading a set leaves of a model: its tables are placed anew under their names, and the set
is kept unless it is called like its table. -/
structure Enters (x : StatedSet) (m n : StorageModel) : Prop where
  tables : n.tables.keys = m.tables.keys
  own : ∀ t, x.exposed? m = some t → t.name ≠ x.name →
    n.entitySets.find? x.name = some ⟨x.name, t.name⟩
  others : ∀ name, name ≠ x.name → n.entitySets.find? name = m.entitySets.find? name

theorem find_enterSet (sets : Catalog EntitySet) (set table other : String) :
    (if set = table then sets else sets.insert ⟨set, table⟩).find? other =
      if set ≠ table ∧ set = other then some ⟨set, table⟩ else sets.find? other := by
  by_cases same : set = table
  · rw [if_pos same, if_neg fun both => both.1 same]
  · rw [if_neg same, Catalog.find?_insert]
    simp only [ne_eq, same, not_false_eq_true, true_and]
    rfl

theorem readEntitySet_enters {node : Element}
    (read : (readEntitySet rules m node).outcome = .ok n) :
    ∃ x, statedSet node = .ok x ∧ Enters x m n := by
  simp only [readEntitySet, Noted.outcome_bind_eq_ok, Noted.outcome_liftM] at read
  obtain ⟨name, named, type, typed, read⟩ := read
  refine ⟨⟨name, unqualified type⟩, ?_, ?_⟩
  · rw [statedSet, named]
    show (node.attributeD "EntityType" >>= _) = _
    rw [typed]
    rfl
  · split at read
    · rename_i unmatched
      simp only [Noted.outcome_bind_eq_ok, Noted.outcome_pure_ok] at read
      obtain ⟨_, _, rfl⟩ := read
      refine ⟨rfl, fun t exposed => ?_, fun _ _ => rfl⟩
      cases unmatched.symm.trans exposed
    · rename_i t matched
      simp only [Noted.outcome_bind_eq_ok, Noted.outcome_pure_ok, Noted.outcome_liftM] at read
      obtain ⟨schema, _, kind, _, rfl⟩ := read
      refine ⟨?_, fun u exposed apart => ?_, fun other apart => ?_⟩
      · rw [Catalog.keys_modify]
      · cases matched.symm.trans exposed
        exact (find_enterSet ..).trans (if_pos ⟨Ne.symm apart, rfl⟩)
      · exact (find_enterSet ..).trans (if_neg fun both => apart both.2.symm)

structure EntersAll (sets : List StatedSet) (m n : StorageModel) : Prop where
  tables : n.tables.keys = m.tables.keys
  own : (sets.map (·.name)).Nodup → ∀ x ∈ sets, ∀ t, x.exposed? m = some t → t.name ≠ x.name →
    n.entitySets.find? x.name = some ⟨x.name, t.name⟩
  others : ∀ name, name ∉ sets.map (·.name) → n.entitySets.find? name = m.entitySets.find? name

theorem entersAll_nil (m : StorageModel) : EntersAll [] m m :=
  ⟨rfl, fun _ _ member => absurd member List.not_mem_nil, fun _ _ => rfl⟩

theorem Enters.before {x : StatedSet} {sets : List StatedSet} {u : StorageModel}
    (first : Enters x m u) (rest : EntersAll sets u n) : EntersAll (x :: sets) m n where
  tables := rest.tables.trans first.tables
  own := by
    intro distinct y listed t exposed apart
    rw [List.map_cons, List.nodup_cons] at distinct
    rcases List.mem_cons.1 listed with rfl | later
    · rw [rest.others y.name distinct.1]
      exact first.own t exposed apart
    · have matched := y.exposed_of_keys first.tables
      rw [exposed] at matched
      obtain ⟨v, found, same⟩ := Option.map_eq_some_iff.1 matched
      rw [rest.own distinct.2 y later v found (same.trans_ne apart), same]
  others := by
    intro name absent
    rw [List.map_cons, List.mem_cons, not_or] at absent
    rw [rest.others name absent.2, first.others name absent.1]

theorem readEntitySets_enter {nodes : List Element}
    (walked : nodes.foldlM (fun m node => (readEntitySet rules m node).outcome) m = .ok n) :
    ∃ sets, nodes.mapM statedSet = .ok sets ∧ EntersAll sets m n := by
  induction nodes generalizing m with
  | nil =>
    cases walked
    exact ⟨[], rfl, entersAll_nil n⟩
  | cons node rest ih =>
    rw [List.foldlM_cons] at walked
    obtain ⟨u, first, others⟩ := bind_ok.1 walked
    obtain ⟨x, stated, entered⟩ := readEntitySet_enters first
    obtain ⟨sets, listed, enteredAll⟩ := ih others
    exact ⟨x :: sets, mapM_ok.2 (.cons stated (mapM_ok.1 listed)), entered.before enteredAll⟩

theorem readContainer_enters {schema : Element}
    (read : (readContainer rules schema m).outcome = .ok n) :
    ∃ sets, statedSets schema = .ok sets ∧ EntersAll sets m n := by
  simp only [readContainer, Noted.outcome_bind_eq_ok, Noted.outcome_liftM] at read
  obtain ⟨container, located, read⟩ := read
  simp only [statedSets, bind_ok]
  split at read
  · simp only [Noted.outcome_bind_eq_ok, Noted.outcome_pure_ok] at read
    obtain ⟨_, _, rfl⟩ := read
    exact ⟨[], ⟨none, located, rfl⟩, entersAll_nil _⟩
  · simp only [Noted.outcome_bind_eq_ok, Noted.outcome_foldlM, Noted.outcome_liftM] at read
    obtain ⟨nodes, listed, walked⟩ := read
    obtain ⟨sets, stated, entered⟩ := readEntitySets_enter walked
    exact ⟨sets, ⟨_, located, bind_ok.2 ⟨nodes, listed, stated⟩⟩, entered⟩

theorem EntersAll.keeps {sets : List StatedSet} {u : StorageModel} (entered : EntersAll sets m u)
    (tables : n.tables.keys = u.tables.keys) (kept : n.entitySets = u.entitySets) :
    EntersAll sets m n :=
  ⟨tables.trans entered.tables, kept ▸ entered.own, kept ▸ entered.others⟩

theorem keys_fixNames (fixed : fixNames rules m = .ok n) :
    n.tables.keys = m.tables.keys ∧ n.entitySets = m.entitySets := by
  obtain ⟨tables, walked, rfl⟩ := map_ok.1 fixed
  exact ⟨Catalog.map_key_of_mapM (fun _ _ own => key_of_fixName own)
    (Catalog.entries_of_tryMap walked), rfl⟩

theorem entitySets_joined (associations : List TableAssociation) (m : StorageModel) :
    (associations.foldl joinTables m).entitySets = m.entitySets := by
  induction associations generalizing m with
  | nil => rfl
  | cons a rest ih => exact ih (joinTables m a)

theorem readStorageSchema_enters {schema : Element} {s : StorageModel}
    (read : (readStorageSchema rules schema).outcome = .ok s) :
    ∃ start sets, readTables rules schema = .ok start.tables ∧ statedSets schema = .ok sets ∧
      EntersAll sets start s := by
  rw [outcome_readStorageSchema, bind_ok] at read
  obtain ⟨m, tablesRead, joined⟩ := read
  obtain ⟨associations, _, made⟩ := bind_ok.1 joined
  cases pure_ok.1 made
  simp only [schemaTables, Noted.outcome_bind_eq_ok, Noted.outcome_liftM] at tablesRead
  obtain ⟨tables, declared, _, _, functions, _, placed, contained, fixed⟩ := tablesRead
  obtain ⟨sets, stated, entered⟩ := readContainer_enters contained
  obtain ⟨names, kept⟩ := keys_fixNames fixed
  refine ⟨_, sets, declared, stated, entered.keeps ?_ ?_⟩
  · rw [keys_joined, names]
  · rw [entitySets_joined, kept]

end exposing

section resolving

variable {m s : StorageModel}

/-- The name of a set leads to the table, and so does every mapping that gives it as its own. -/
structure LeadsTo (s : StorageModel) (x : StatedSet) (t : Table) : Prop where
  resolved : s.resolveTable? x.name = some t
  linked : ∀ conceptual y l, y.table = x.name → (link s conceptual y).outcome = .ok l → l.table = t

theorem leadsTo_iff {x : StatedSet} {t : Table} :
    LeadsTo s x t ↔ s.resolveTable? x.name = some t := by
  refine ⟨LeadsTo.resolved, fun resolved => ⟨resolved, fun conceptual y l named linked => ?_⟩⟩
  have reached := (link_ok linked).table
  rw [named, resolved] at reached
  exact (Option.some.inj reached).symm

theorem resolve_entered {x : StatedSet} {t : Table} (found : s.tables.find? t.name = some t)
    (entered : t.name ≠ x.name → s.entitySets.find? x.name = some ⟨x.name, t.name⟩) :
    s.resolveTable? x.name = some t ↔ t.name = x.name ∨ x.name ∉ s.tables.keys := by
  unfold StorageModel.resolveTable?
  cases own : s.tables.find? x.name with
  | some u =>
    have called : u.name = x.name := Catalog.key_of_find? own
    have known : x.name ∈ s.tables.keys := (Catalog.find?_isSome_iff ..).1 (by rw [own]; rfl)
    simp only [Option.some.injEq, known, not_true_eq_false, or_false]
    constructor
    · rintro rfl
      exact called
    · intro same
      rw [same, own] at found
      exact Option.some.inj found
  | none =>
    have unknown : x.name ∉ s.tables.keys := (Catalog.find?_eq_none_iff ..).1 own
    have apart : t.name ≠ x.name := by
      intro same
      rw [same, own] at found
      cases found
    simp only [entered apart, Option.bind_some, found, unknown, not_false_eq_true, or_true]

end resolving

/-- Entity sets of distinct names that a schema states: the name of one that is matched to a table
leads to this table just when it is the table's own name or that of none. The names of tables stay
as they are declared, so the match is made among these. -/
theorem sets_resolve_iff {rules : StorageRules} {schema : Element} {s : StorageModel}
    {sets : List StatedSet} (read : (readStorageSchema rules schema).outcome = .ok s)
    (stated : statedSets schema = .ok sets) (distinct : (sets.map (·.name)).Nodup) :
    ∃ tables, readTables rules schema = .ok tables ∧ s.tables.keys = tables.keys ∧
      ∀ x ∈ sets, ∀ matched, x.exposed? { tables := tables } = some matched →
        ∃ t, s.tables.find? matched.name = some t ∧
          (LeadsTo s x t ↔ matched.name = x.name ∨ x.name ∉ tables.keys) := by
  obtain ⟨start, own, declared, statedToo, entered⟩ := readStorageSchema_enters read
  cases stated.symm.trans statedToo
  refine ⟨start.tables, declared, entered.tables, fun x listed matched exposed => ?_⟩
  have known : matched.name ∈ s.tables.keys := by
    rw [entered.tables, ← Catalog.find?_isSome_iff, StatedSet.exposed_known exposed]
    rfl
  obtain ⟨t, found⟩ := Option.isSome_iff_exists.1 ((Catalog.find?_isSome_iff ..).2 known)
  have called : t.name = matched.name := Catalog.key_of_find? found
  refine ⟨t, found, ?_⟩
  rw [leadsTo_iff, ← called, ← entered.tables]
  refine resolve_entered (called ▸ found) fun apart => ?_
  rw [entered.own distinct x listed matched exposed (called ▸ apart), called]

section orders

def setsSchema (tables : List String) (sets : List StatedSet) : Element :=
  .plain "Schema" []
    (tables.map (fun name => .plain "EntityType" [("Name", name)] []) ++
      [.plain "EntityContainer" [] (sets.map fun x =>
        .plain "EntitySet" [("Name", x.name), ("EntityType", "Store." ++ x.type)] [])])

def SetTables (x : StatedSet) (resolved exposed : String) (s : StorageModel) : Prop :=
  (s.resolveTable? x.name).map (·.name) = some resolved ∧
    (x.exposed? s).map (·.name) = some exposed

instance (x : StatedSet) (resolved exposed : String) :
    DecidablePred (SetTables x resolved exposed) :=
  fun _ => inferInstanceAs (Decidable (_ ∧ _))

def orders : StatedSet := ⟨"Orders", "Order"⟩

def items : StatedSet := ⟨"Item", "Item"⟩

def archive : StatedSet := ⟨"Archive", "Orders"⟩

theorem orders_read : ∃ s,
    (readStorageSchema plainRules (setsSchema ["Order", "Item"] [orders, items])).outcome = .ok s ∧
      SetTables orders "Order" "Order" s := ok_of_any (by decide +kernel)

theorem archive_read : ∃ s,
    (readStorageSchema plainRules (setsSchema ["Order", "Orders"] [orders, archive])).outcome =
        .ok s ∧
      SetTables orders "Orders" "Order" s := ok_of_any (by decide +kernel)

theorem orders_lead : ∃ s t,
    (readStorageSchema plainRules (setsSchema ["Order", "Item"] [orders, items])).outcome = .ok s ∧
      statedSets (setsSchema ["Order", "Item"] [orders, items]) = .ok [orders, items] ∧
      ([orders, items].map (·.name)).Nodup ∧ t.name = "Order" ∧ LeadsTo s orders t := by
  obtain ⟨s, read, _⟩ := orders_read
  obtain ⟨tables, declared, _, each⟩ := sets_resolve_iff read (by rfl) (by decide)
  cases declared
  obtain ⟨t, found, leads⟩ := each orders (List.mem_cons_self ..) _ rfl
  exact ⟨s, t, read, rfl, by decide, Catalog.key_of_find? found, leads.2 (.inr (by decide))⟩

/-- The orders are exposed by a set that is called like the table of those in the archive: its name
leads there. -/
theorem orders_lead_to_archive : ∃ s t,
    (readStorageSchema plainRules (setsSchema ["Order", "Orders"] [orders, archive])).outcome =
        .ok s ∧
      statedSets (setsSchema ["Order", "Orders"] [orders, archive]) = .ok [orders, archive] ∧
      ([orders, archive].map (·.name)).Nodup ∧ orders.exposed? s = some t ∧
      (s.resolveTable? orders.name).map (·.name) = some "Orders" ∧ t.name = "Order" ∧
      ¬ LeadsTo s orders t := by
  obtain ⟨s, read, resolved, matched⟩ := archive_read
  obtain ⟨t, exposed, called⟩ := Option.map_eq_some_iff.1 matched
  refine ⟨s, t, read, rfl, by decide, exposed, resolved, called, fun leads => ?_⟩
  rw [leads.resolved, Option.map_some, called] at resolved
  exact absurd (Option.some.inj resolved) (by decide)

end orders

end EntityScaffold.Reading
