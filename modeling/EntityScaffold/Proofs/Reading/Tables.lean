import EntityScaffold.Proofs.Outcomes
import EntityScaffold.Reading.Storage

/-!
Tables before their associations. A table is declared, placed by the entity sets that expose it, and
given its fixed name; what the first of these steps brings and the second keeps holds of every table
when the third one comes.
-/
namespace EntityScaffold.Reading
open Xml

/-- What a table has as it is declared, and keeps wherever an entity set places it. -/
structure KeptByPlacing (rules : StorageRules) (P : Table → Prop) : Prop where
  declared : ∀ node t, readTable rules node = .ok t → P t
  placed : ∀ node schema kind t, schemaOf rules node = .ok schema → P t →
    P { t with schema := schema, kind := kind }

section placing

variable {rules : StorageRules} {P : Table → Prop}

theorem readTables_keeps (kept : KeptByPlacing rules P) {schema : Element}
    {tables : Catalog Table} (read : readTables rules schema = .ok tables) :
    ∀ t ∈ tables.entries, P t := by
  simp only [readTables, bind_ok, pure_ok] at read
  obtain ⟨nodes, _, listed, walked, rfl⟩ := read
  intro t member
  obtain ⟨node, _, own⟩ := source_of_mapM walked (Catalog.mem_of_mem_ofList member)
  exact kept.declared node t own

theorem readEntitySet_keeps (kept : KeptByPlacing rules P) {m n : StorageModel} {node : Element}
    (held : ∀ t ∈ m.tables.entries, P t) (read : (readEntitySet rules m node).outcome = .ok n) :
    (∀ t ∈ n.tables.entries, P t) ∧ n.functions = m.functions := by
  simp only [readEntitySet, Noted.outcome_bind_eq_ok] at read
  obtain ⟨set, _, type, _, read⟩ := read
  split at read
  · simp only [Noted.outcome_bind_eq_ok, Noted.outcome_pure_ok] at read
    obtain ⟨_, _, rfl⟩ := read
    exact ⟨held, rfl⟩
  · simp only [Noted.outcome_bind_eq_ok, Noted.outcome_pure_ok, Noted.outcome_liftM] at read
    obtain ⟨schema, found, kind, _, rfl⟩ := read
    refine ⟨fun t member => ?_, rfl⟩
    obtain ⟨old, earlier, rfl⟩ := List.mem_map.1 member
    split
    · exact kept.placed node schema _ old found (held old earlier)
    · exact held old earlier

theorem readContainer_keeps (kept : KeptByPlacing rules P) {schema : Element}
    {m n : StorageModel} (held : ∀ t ∈ m.tables.entries, P t)
    (read : (readContainer rules schema m).outcome = .ok n) :
    (∀ t ∈ n.tables.entries, P t) ∧ n.functions = m.functions := by
  simp only [readContainer, Noted.outcome_bind_eq_ok] at read
  obtain ⟨container, _, read⟩ := read
  split at read
  · simp only [Noted.outcome_bind_eq_ok, Noted.outcome_pure_ok] at read
    obtain ⟨_, _, rfl⟩ := read
    exact ⟨held, rfl⟩
  · simp only [Noted.outcome_bind_eq_ok, Noted.outcome_foldlM] at read
    obtain ⟨nodes, _, walked⟩ := read
    refine foldlM_ok_invariant (fun n => (∀ t ∈ n.tables.entries, P t) ∧
      n.functions = m.functions) ⟨held, rfl⟩ ?_ walked
    rintro before node after _ ⟨holds, same⟩ own
    obtain ⟨holdsToo, sameToo⟩ := readEntitySet_keeps kept holds own
    exact ⟨holdsToo, sameToo.trans same⟩

end placing

def NameFixed (rules : StorageRules) (P : Table → Prop) (t : Table) : Prop :=
  ∃ old fixed, P old ∧ rules.naming.normalize old.name old.isView = .ok fixed ∧
    t = { old with fixedName := fixed }

theorem fixNames_ok {rules : StorageRules} {P : Table → Prop} {m n : StorageModel}
    (held : ∀ t ∈ m.tables.entries, P t) (ok : fixNames rules m = .ok n) :
    (∀ t ∈ n.tables.entries, NameFixed rules P t) ∧ n.functions = m.functions := by
  obtain ⟨tables, walked, rfl⟩ := map_ok.1 ok
  refine ⟨fun t member => ?_, rfl⟩
  obtain ⟨old, earlier, own⟩ := source_of_mapM (Catalog.entries_of_tryMap walked) member
  obtain ⟨fixed, found, rfl⟩ := map_ok.1 own
  exact ⟨old, fixed, held old earlier, found, rfl⟩

/-- A storage model that has been read, the one that its associations were read over, and these. -/
structure ReadParts (rules : StorageRules) (P : Table → Prop) (schema : Element)
    (s m : StorageModel) (associations : List TableAssociation) : Prop where
  tables : ∀ t ∈ m.tables.entries, NameFixed rules P t
  functions : ∀ f ∈ m.functions.entries,
    ∃ node, (readStoredFunction rules node).outcome = .ok f
  walked : readAssociations m schema = .ok associations
  joined : s = associations.foldl joinTables m

theorem readStorageSchema_parts {rules : StorageRules} {P : Table → Prop}
    (kept : KeptByPlacing rules P) {schema : Element} {s : StorageModel}
    (read : (readStorageSchema rules schema).outcome = .ok s) :
    ∃ m associations, ReadParts rules P schema s m associations := by
  simp only [readStorageSchema, Noted.outcome_bind_eq_ok, Noted.outcome_pure_ok,
    Noted.outcome_liftM, Noted.outcome_mapM] at read
  obtain ⟨tables, listed, nodes, _, functions, made, contained, container, m, fixed, associations,
    walked, rfl⟩ := read
  obtain ⟨held, same⟩ := readContainer_keeps kept (readTables_keeps kept listed) container
  obtain ⟨named, sameToo⟩ := fixNames_ok held fixed
  refine ⟨m, associations, named, fun f member => ?_, walked, rfl⟩
  rw [sameToo, same] at member
  obtain ⟨node, _, own⟩ := source_of_mapM made (Catalog.mem_of_mem_ofList member)
  exact ⟨node, own⟩

theorem readStorage_schema {rules : StorageRules} {root : Element} {s : StorageModel}
    (read : (readStorage rules root).outcome = .ok s) :
    ∃ schema, schemaIn? root "StorageModels" = .ok (some schema) ∧
      (readStorageSchema rules schema).outcome = .ok s := by
  simp only [readStorage, Noted.outcome_bind_eq_ok] at read
  obtain ⟨schema?, located, read⟩ := read
  cases schema? with
  | none => cases read
  | some schema => exact ⟨schema, located, read⟩

end EntityScaffold.Reading
