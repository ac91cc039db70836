import EntityScaffold.Proofs.Reading.AssociationElements

/-!
How the keys of an association are shared out between its ends. A constraint that names one end on
its dependent side and the other on its principal side leaves each with a key of its own. Nothing
keeps a constraint from naming one end on both sides: the table of that end is then given both keys,
and the other end none.
-/
namespace EntityScaffold.Reading
open Xml Xml.Element

/-- The keys of an association, each with the table it is put on. -/
def TableAssociation.placed (a : TableAssociation) : List (String × ForeignKey) :=
  [(a.dependent.table, a.dependentKey), (a.principal.table, a.principalKey)]

def keysOn (table : String) (placed : List (String × ForeignKey)) : List ForeignKey :=
  (placed.filter fun p => p.1 = table).map Prod.snd

theorem keysOn_placed (table : String) (a : TableAssociation) :
    keysOn table a.placed = a.keysAt table := by
  by_cases dependent : a.dependent.table = table <;> by_cases principal : a.principal.table = table
    <;> simp [keysOn, TableAssociation.placed, TableAssociation.keysAt, dependent, principal]

theorem keysOn_all (table : String) (associations : List TableAssociation) :
    keysOn table (associations.flatMap (·.placed)) = associations.flatMap (·.keysAt table) := by
  rw [keysOn, List.filter_flatMap, List.map_flatMap]
  exact congrArg (associations.flatMap ·) (funext (keysOn_placed table))

/-- The key is one for an end that has another end opposite. -/
structure StandsAt (e opposite : AssociationEnd) (p : String × ForeignKey) : Prop where
  table : p.1 = e.table
  source : p.2.source = e.multiplicity
  destination : p.2.destination = opposite.multiplicity

/-- Of the keys, each of two ends is given exactly one. -/
def SharedOut (first second : AssociationEnd) (placed : List (String × ForeignKey)) : Prop :=
  ∃ k l, placed.Perm [k, l] ∧ StandsAt first second k ∧ StandsAt second first l

/-- The ends differ in their roles alone. -/
def Alike (first second : AssociationEnd) : Prop :=
  first.table = second.table ∧ first.multiplicity = second.multiplicity

section ends

variable {first second : AssociationEnd} {a : TableAssociation}

theorem SharedOut.symm {placed : List (String × ForeignKey)}
    (shared : SharedOut first second placed) : SharedOut second first placed := by
  obtain ⟨k, l, perm, here, there⟩ := shared
  exact ⟨l, k, perm.trans (.swap l k []), there, here⟩

theorem sharedOut_between (a : TableAssociation) : SharedOut a.dependent a.principal a.placed :=
  ⟨_, _, .refl _, ⟨rfl, rfl, rfl⟩, ⟨rfl, rfl, rfl⟩⟩

theorem sharedOut_one {e other : AssociationEnd} (dependent : a.dependent = e)
    (principal : a.principal = e) : SharedOut e other a.placed ↔ Alike e other := by
  have each : ∀ p ∈ a.placed, p.1 = e.table ∧ p.2.source = e.multiplicity ∧
      p.2.destination = e.multiplicity := by
    simp [TableAssociation.placed, TableAssociation.dependentKey, TableAssociation.principalKey,
      dependent, principal]
  constructor
  · rintro ⟨k, l, perm, _, there⟩
    obtain ⟨table, source, _⟩ := each l (perm.symm.subset (by simp))
    exact ⟨table.symm.trans there.table, source.symm.trans there.source⟩
  · rintro ⟨table, multiplicity⟩
    refine ⟨_, _, .refl _, ?_, ?_⟩
    · obtain ⟨own, source, destination⟩ := each _ (List.mem_cons_self ..)
      exact ⟨own, source, destination.trans multiplicity⟩
    · obtain ⟨own, source, destination⟩ := each _ (List.mem_cons_of_mem _ (List.mem_cons_self ..))
      exact ⟨own.trans table, source.trans multiplicity, destination⟩

theorem sharedOut_iff (apart : first.role ≠ second.role)
    (dependent : a.dependent ∈ [first, second]) (principal : a.principal ∈ [first, second]) :
    SharedOut first second a.placed ↔
      a.dependent.role ≠ a.principal.role ∨ Alike first second := by
  have distinct := sharedOut_between a
  rw [List.mem_pair] at dependent principal
  rcases dependent with atFirst | atSecond <;> rcases principal with toFirst | toSecond
  · simp [sharedOut_one atFirst toFirst, atFirst, toFirst]
  · rw [atFirst, toSecond] at distinct ⊢
    simp [distinct, apart]
  · rw [atSecond, toFirst] at distinct ⊢
    simp [distinct.symm, apart.symm]
  · have turned : SharedOut first second a.placed ↔ SharedOut second first a.placed :=
      ⟨.symm, .symm⟩
    rw [turned, sharedOut_one atSecond toSecond]
    simp [atSecond, toSecond, Alike, eq_comm]

end ends

/-- An end gets exactly one of the keys of the association, and the other end the other, just when
the sides of the constraint have different roles or the ends are alike. -/
def SharesKeys (m : StorageModel) (node : Element) (a : TableAssociation) : Prop :=
  ∃ x y first second, node.childrenNamed "End" = .ok [x, y] ∧ ReadsEnd m x first ∧
    ReadsEnd m y second ∧ (SharedOut first second a.placed ↔
      a.dependent.role ≠ a.principal.role ∨ Alike first second)

theorem sharesKeys_of_read {m : StorageModel} {node : Element} {a : TableAssociation}
    (read : readAssociation m node = .ok a) : SharesKeys m node a := by
  obtain ⟨x, y, first, second, asked, firstRead, secondRead, apart, dependent, principal⟩ :=
    (readAssociation_ok.1 read).ends
  exact ⟨x, y, first, second, asked, firstRead, secondRead,
    sharedOut_iff apart dependent principal⟩

theorem find_placed (stored : List TableAssociation) (m : StorageModel) (name : String) :
    (stored.foldl joinTables m).tables.find? name = (m.tables.find? name).map fun t =>
      { t with foreignKeys := t.foreignKeys ++ keysOn name (stored.flatMap (·.placed)) } := by
  rw [find_joined, keysOn_all]

/-- Associations that are accepted, one after the other, each share their keys out so, and put them
on the tables in that order; where they are all those of a schema, this is what reading it makes of
its tables. -/
theorem keys_shared_out {m : StorageModel} {nodes : List Element} {stored : List TableAssociation}
    (accepted : nodes.mapM (readAssociation m) = .ok stored) :
    List.Forall₂ (SharesKeys m) nodes stored ∧
      (∀ name, (stored.foldl joinTables m).tables.find? name = (m.tables.find? name).map fun t =>
        { t with foreignKeys := t.foreignKeys ++ keysOn name (stored.flatMap (·.placed)) }) ∧
      ∀ rules schema, (schemaTables rules schema).outcome = .ok m →
        schema.childrenNamed "Association" = .ok nodes →
          (readStorageSchema rules schema).outcome = .ok (stored.foldl joinTables m) := by
  refine ⟨(mapM_ok.1 accepted).imp fun _ _ => sharesKeys_of_read, find_placed stored m, ?_⟩
  intro rules schema tables asked
  rw [outcome_of_associations tables asked, accepted]
  rfl

section visits

def person : AssociationEnd := ⟨"Person", "Persons", .one⟩

def visit : AssociationEnd := ⟨"Visit", "Visits", .many⟩

def endNode (e : AssociationEnd) : Element :=
  .plain "End" [("Role", e.role), ("Type", e.table), ("Multiplicity", e.multiplicity.token)] []

def paysNode (dependent : AssociationEnd) : Element :=
  .plain "Association" [("Name", "Pays")]
    [endNode person, endNode visit,
     .plain "ReferentialConstraint" []
      [.plain "Principal" [("Role", person.role)] [.plain "PropertyRef" [("Name", "Id")] []],
       .plain "Dependent" [("Role", dependent.role)]
        [.plain "PropertyRef" [("Name", "PersonId")] []]]]

def pays (dependent : AssociationEnd) : TableAssociation :=
  ⟨"Pays", dependent, person, ["PersonId"], ["Id"]⟩

def visitsSchema (dependent : AssociationEnd) : Element :=
  .plain "Schema" []
    [.plain "EntityType" [("Name", "Persons")] [], .plain "EntityType" [("Name", "Visits")] [],
     paysNode dependent]

def VisitsRead (dependent : AssociationEnd) (m : StorageModel) : Prop :=
  ([person, visit].map fun e => (readEnd m "Pays" (endNode e)).toOption) =
      [some person, some visit] ∧
    (readAssociation m (paysNode dependent)).toOption = some (pays dependent)

instance (dependent : AssociationEnd) : DecidablePred (VisitsRead dependent) :=
  fun _ => inferInstanceAs (Decidable (_ ∧ _))

theorem visits_read :
    ∃ m, (schemaTables plainRules (visitsSchema visit)).outcome = .ok m ∧ VisitsRead visit m :=
  ok_of_any (by decide +kernel)

theorem visits_keys_shared_out :
    ∃ m s, (schemaTables plainRules (visitsSchema visit)).outcome = .ok m ∧
      [paysNode visit].mapM (readAssociation m) = .ok [pays visit] ∧
      SharesKeys m (paysNode visit) (pays visit) ∧ SharedOut person visit (pays visit).placed ∧
      (readStorageSchema plainRules (visitsSchema visit)).outcome = .ok s ∧
      ∀ name, s.tables.find? name = (m.tables.find? name).map fun t =>
        { t with foreignKeys := t.foreignKeys ++ keysOn name (pays visit).placed } := by
  obtain ⟨m, tables, _, read⟩ := visits_read
  have accepted : [paysNode visit].mapM (readAssociation m) = .ok [pays visit] :=
    mapM_ok.2 (.cons (ok_of_toOption read) .nil)
  obtain ⟨shares, placed, made⟩ := keys_shared_out accepted
  obtain ⟨own, _⟩ := List.forall₂_cons.1 shares
  exact ⟨m, _, tables, accepted, own, (sharedOut_between (pays visit)).symm,
    made plainRules (visitsSchema visit) tables rfl, placed⟩

def keyCounts (s : StorageModel) : List (String × Nat) :=
  s.tables.entries.map fun t => (t.name, t.foreignKeys.length)

theorem persons_read :
    ∃ s, (readStorageSchema plainRules (visitsSchema person)).outcome = .ok s ∧
      VisitsRead person s ∧ keyCounts s = [("Persons", 2), ("Visits", 0)] :=
  ok_of_any (by decide +kernel)

/-- Where the constraint names persons on both sides, the association is accepted all the same:
persons get both keys, and visits none. -/
theorem visits_left_out :
    ∃ s, (readStorageSchema plainRules (visitsSchema person)).outcome = .ok s ∧
      readAssociation s (paysNode person) = .ok (pays person) ∧
      (paysNode person).childrenNamed "End" = .ok [endNode person, endNode visit] ∧
      ReadsEnd s (endNode person) person ∧ ReadsEnd s (endNode visit) visit ∧
      keyCounts s = [("Persons", 2), ("Visits", 0)] ∧
      ¬ SharedOut person visit (pays person).placed := by
  obtain ⟨s, made, ⟨ends, read⟩, counts⟩ := persons_read
  obtain ⟨first, others⟩ := List.cons.inj ends
  obtain ⟨second, _⟩ := List.cons.inj others
  have unlike : ¬ Alike person visit := fun same => absurd same.1 (by decide)
  refine ⟨s, made, ok_of_toOption read, rfl, readEnd_ok.1 (ok_of_toOption first),
    readEnd_ok.1 (ok_of_toOption second), counts, ?_⟩
  exact fun shared => unlike ((sharedOut_one rfl rfl).1 shared)

end visits

end EntityScaffold.Reading
