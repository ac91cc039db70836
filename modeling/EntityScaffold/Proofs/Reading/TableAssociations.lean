import EntityScaffold.Proofs.Reading.Tables

/-!
Foreign keys that reading leaves on tables. Every table begins without any; then each association
adds the keys of its two ends, so a table has the keys of all associations in document order. An
association is read from two ends that differ in their roles, and from a constraint that names one
of them on each of its sides.
-/
namespace EntityScaffold.Reading
open Xml

def TableAssociation.keysAt (table : String) (a : TableAssociation) : List ForeignKey :=
  (if a.dependent.table = table then [a.dependentKey] else []) ++
    (if a.principal.table = table then [a.principalKey] else [])

def tableAssociations (m : StorageModel) (root : Element) :
    Except Fault (List TableAssociation) := do
  match ← schemaIn? root "StorageModels" with
  | none => return []
  | some schema => readAssociations m schema

theorem association_of_key {a : TableAssociation} {table : String} {k : ForeignKey}
    (member : k ∈ a.keysAt table) : k.association = a.name := by
  simp only [TableAssociation.keysAt, List.mem_append] at member
  rcases member with dependent | principal
  · split at dependent
    · rw [List.mem_singleton.1 dependent]; rfl
    · cases dependent
  · split at principal
    · rw [List.mem_singleton.1 principal]; rfl
    · cases principal

theorem find_addForeignKey (m : StorageModel) (table : String) (k : ForeignKey) (name : String) :
    (addForeignKey m table k).tables.find? name =
      (m.tables.find? name).map fun t =>
        { t with foreignKeys := t.foreignKeys ++ if table = name then [k] else [] } := by
  simp only [addForeignKey, StorageModel.modifyTable, Catalog.find?_modify]
  cases found : m.tables.find? name with
  | none => rfl
  | some t =>
    have named : Keyed.key t = name := Catalog.key_of_find? found
    by_cases same : table = name
    · simp [named, same]
    · simp [named, same, Ne.symm same]

theorem find_joinTables (m : StorageModel) (a : TableAssociation) (name : String) :
    (joinTables m a).tables.find? name =
      (m.tables.find? name).map fun t =>
        { t with foreignKeys := t.foreignKeys ++ a.keysAt name } := by
  rw [joinTables, find_addForeignKey, find_addForeignKey]
  cases m.tables.find? name <;> simp [TableAssociation.keysAt]

theorem find_joined (associations : List TableAssociation) (m : StorageModel) (name : String) :
    (associations.foldl joinTables m).tables.find? name =
      (m.tables.find? name).map fun t =>
        { t with foreignKeys := t.foreignKeys ++ associations.flatMap (·.keysAt name) } := by
  induction associations generalizing m with
  | nil => cases h : m.tables.find? name <;> simp [h]
  | cons a rest ih =>
    rw [List.foldl_cons, ih, find_joinTables]
    cases m.tables.find? name <;> simp

theorem keys_addForeignKey (m : StorageModel) (table : String) (k : ForeignKey) :
    (addForeignKey m table k).tables.keys = m.tables.keys := by
  simp only [addForeignKey, StorageModel.modifyTable, Catalog.keys_modify]

theorem keys_joined (associations : List TableAssociation) (m : StorageModel) :
    (associations.foldl joinTables m).tables.keys = m.tables.keys := by
  induction associations generalizing m with
  | nil => rfl
  | cons a rest ih => rw [List.foldl_cons, ih, joinTables, keys_addForeignKey, keys_addForeignKey]

/-- Reading an association asks a model only which tables it has. -/
theorem readAssociations_of_keys {m n : StorageModel} (same : m.tables.keys = n.tables.keys)
    (schema : Element) : readAssociations m schema = readAssociations n schema := by
  have contains (table : String) : m.tables.contains table = n.tables.contains table := by
    rw [Bool.eq_iff_iff, Catalog.contains_iff, Catalog.contains_iff, same]
  have ends : readEnd m = readEnd n := by
    funext name node
    simp only [readEnd, contains]
  have associations : readAssociation m = readAssociation n := by
    funext node
    simp only [readAssociation, ends]
  simp only [readAssociations, associations]

theorem source_of_association {m : StorageModel} {schema : Element}
    {associations : List TableAssociation} (read : readAssociations m schema = .ok associations)
    {a : TableAssociation} (member : a ∈ associations) : ∃ node, readAssociation m node = .ok a := by
  obtain ⟨nodes, _, walked⟩ := bind_ok.1 read
  obtain ⟨node, _, own⟩ := source_of_mapM walked member
  exact ⟨node, own⟩

theorem source_of_tableAssociation {m : StorageModel} {root : Element}
    {associations : List TableAssociation} (read : tableAssociations m root = .ok associations)
    {a : TableAssociation} (member : a ∈ associations) : ∃ node, readAssociation m node = .ok a := by
  obtain ⟨schema?, _, read⟩ := bind_ok.1 read
  cases schema? with
  | none =>
    cases read
    cases member
  | some schema => exact source_of_association read member

theorem tableAssociations_of_keys {m n : StorageModel} (same : m.tables.keys = n.tables.keys)
    (root : Element) : tableAssociations m root = tableAssociations n root := by
  simp only [tableAssociations, readAssociations_of_keys same]

section acceptance

variable {m : StorageModel} {node : Element} {name : String}

theorem multiplicityOf_ok {token : Option String} {k : Multiplicity} :
    multiplicityOf name token = .ok k ↔ token = some k.token := by
  unfold multiplicityOf
  constructor
  · intro read
    split at read
    · rename_i given
      cases read
      obtain ⟨text, rfl, known⟩ := Option.bind_eq_some_iff.1 given
      rw [Multiplicity.token_of_ofToken? known]
    · cases read
  · rintro rfl
    rw [Option.bind_some, Multiplicity.ofToken?_token]

structure ReadsEnd (m : StorageModel) (node : Element) (e : AssociationEnd) : Prop where
  role : node.attributeD "Role" = .ok e.role
  table : ∃ type, node.attributeD "Type" = .ok type ∧ unqualified type = e.table
  known : e.table ∈ m.tables.keys
  multiplicity : node.attribute? "Multiplicity" = .ok (some e.multiplicity.token)

theorem readEnd_ok {e : AssociationEnd} : readEnd m name node = .ok e ↔ ReadsEnd m node e := by
  constructor
  · intro read
    simp only [readEnd, bind_ok] at read
    obtain ⟨type, typed, read⟩ := read
    split at read
    · obtain ⟨_, thrown, _⟩ := bind_ok.1 read
      cases thrown
    · rename_i known
      simp only [bind_ok, pure_ok] at read
      obtain ⟨token, given, k, counted, role, named, rfl⟩ := read
      obtain rfl := multiplicityOf_ok.1 counted
      exact ⟨named, ⟨type, typed, rfl⟩, Catalog.contains_iff.1 (by simpa using known), given⟩
  · rintro ⟨role, ⟨type, typed, table⟩, known, multiplicity⟩
    simp only [readEnd, bind_ok]
    refine ⟨type, typed, ?_⟩
    rw [table, Catalog.contains_iff.2 known, if_neg (by simp)]
    simp only [bind_ok, pure_ok]
    exact ⟨_, multiplicity, _, multiplicityOf_ok.2 rfl, _, role, rfl⟩

theorem readConstraintEnd_ok {constraint : Element} {which : ConstraintEnd} {role : String}
    {columns : List String} :
    readConstraintEnd name constraint which = .ok (role, columns) ↔
      ∃ side, constraint.childrenNamed which.title = .ok [side] ∧
        side.attributeD "Role" = .ok role ∧
        ∃ refs, side.childrenNamed "PropertyRef" = .ok refs ∧
          refs.mapM (·.attributeD "Name") = .ok columns := by
  simp only [readConstraintEnd, bind_ok]
  constructor
  · rintro ⟨sides, asked, read⟩
    split at read
    · rename_i side
      simp only [bind_ok, pure_ok, Prod.mk.injEq] at read
      obtain ⟨refs, found, _, walked, _, named, rfl, rfl⟩ := read
      exact ⟨side, asked, named, refs, found, walked⟩
    · cases read
  · rintro ⟨side, asked, named, refs, found, walked⟩
    refine ⟨_, asked, ?_⟩
    simp only [bind_ok, pure_ok]
    exact ⟨_, found, _, walked, _, named, rfl⟩

theorem lookup_end {first second e : AssociationEnd} {role : String}
    (apart : first.role ≠ second.role) :
    [(first.role, first), (second.role, second)].lookup role = some e ↔
      e ∈ [first, second] ∧ e.role = role := by
  rw [List.mem_pair]
  by_cases here : role = first.role
  · subst here
    rw [List.lookup_cons_self, Option.some.injEq]
    constructor
    · rintro rfl
      exact ⟨.inl rfl, rfl⟩
    · rintro ⟨rfl | rfl, same⟩
      · rfl
      · exact absurd same.symm apart
  · rw [List.lookup_cons, beq_false_of_ne here]
    by_cases there : role = second.role
    · subst there
      rw [List.lookup_cons_self, Option.some.injEq]
      constructor
      · rintro rfl
        exact ⟨.inr rfl, rfl⟩
      · rintro ⟨rfl | rfl, same⟩
        · exact absurd same apart
        · rfl
    · rw [List.lookup_cons, beq_false_of_ne there]
      constructor
      · nofun
      · rintro ⟨rfl | rfl, same⟩
        · exact absurd same.symm here
        · exact absurd same.symm there

/-- What has been asked of the node of an association and of the elements in it, and what they
answered. -/
structure ReadsAssociation (m : StorageModel) (node : Element) (a : TableAssociation) : Prop where
  name : node.attributeD "Name" = .ok a.name
  ends : ∃ x y first second, node.childrenNamed "End" = .ok [x, y] ∧ ReadsEnd m x first ∧
    ReadsEnd m y second ∧ first.role ≠ second.role ∧ a.dependent ∈ [first, second] ∧
    a.principal ∈ [first, second]
  sides : ∃ constraint, node.childrenNamed "ReferentialConstraint" = .ok [constraint] ∧
    readConstraintEnd a.name constraint .principal = .ok (a.principal.role, a.principalColumns) ∧
    readConstraintEnd a.name constraint .dependent = .ok (a.dependent.role, a.dependentColumns)
  columns : a.principalColumns ≠ [] ∧ a.principalColumns.length = a.dependentColumns.length

theorem readAssociation_ok {a : TableAssociation} :
    readAssociation m node = .ok a ↔ ReadsAssociation m node a := by
  constructor
  · intro read
    simp only [readAssociation, bind_ok] at read
    obtain ⟨name, named, nodes, asked, read⟩ := read
    split at read
    · rename_i x y
      simp only [bind_ok] at read
      obtain ⟨first, firstRead, second, secondRead, read⟩ := read
      split at read
      · obtain ⟨_, thrown, _⟩ := bind_ok.1 read
        cases thrown
      · rename_i apart
        obtain ⟨constraints, constrained, read⟩ := bind_ok.1 read
        split at read
        · rename_i constraint
          simp only [bind_ok] at read
          obtain ⟨⟨principalRole, principalColumns⟩, principalRead, ⟨dependentRole,
            dependentColumns⟩, dependentRead, read⟩ := read
          split at read
          · rename_i principal dependent principalFound dependentFound
            split at read
            · obtain ⟨_, thrown, _⟩ := bind_ok.1 read
              cases thrown
            · rename_i fits
              obtain rfl := pure_ok.1 read
              obtain ⟨inEnds, rfl⟩ := (lookup_end apart).1 principalFound
              obtain ⟨inEndsToo, rfl⟩ := (lookup_end apart).1 dependentFound
              refine ⟨named, ⟨x, y, first, second, asked, readEnd_ok.1 firstRead,
                readEnd_ok.1 secondRead, apart, inEndsToo, inEnds⟩,
                ⟨constraint, constrained, principalRead, dependentRead⟩, ?_⟩
              simpa using fits
          · cases read
        · cases read
    · cases read
  · rintro ⟨named, ⟨x, y, first, second, asked, firstRead, secondRead, apart, dependent,
      principal⟩, ⟨constraint, constrained, principalRead, dependentRead⟩, columns⟩
    simp only [readAssociation, bind_ok]
    refine ⟨_, named, _, asked, ?_⟩
    simp only [bind_ok]
    refine ⟨first, readEnd_ok.2 firstRead, second, readEnd_ok.2 secondRead, ?_⟩
    rw [if_neg apart]
    simp only [bind_ok]
    refine ⟨_, constrained, ?_⟩
    simp only [bind_ok]
    refine ⟨_, principalRead, _, dependentRead, ?_⟩
    dsimp only
    rw [(lookup_end apart).2 ⟨principal, rfl⟩, (lookup_end apart).2 ⟨dependent, rfl⟩]
    have fits : (a.principalColumns.isEmpty ||
        a.principalColumns.length != a.dependentColumns.length) = false := by simpa using columns
    dsimp only
    rw [fits]
    rfl

end acceptance

structure FreshTable (t : Table) : Prop where
  noKeys : t.foreignKeys = []
  unused : t.isUsed = false
  noProperties : ∀ d ∈ t.columns.entries, d.propertyName = none

theorem readColumn_fresh {keys : List String} {node : Element} {d : Column}
    (read : readColumn keys node = .ok d) : d.propertyName = none := by
  simp only [readColumn, bind_ok, pure_ok] at read
  obtain ⟨_, _, _, _, _, _, _, _, _, _, _, _, _, _, _, _, rfl⟩ := read
  rfl

theorem readTable_fresh {rules : StorageRules} {node : Element} {t : Table}
    (read : readTable rules node = .ok t) : FreshTable t := by
  simp only [readTable, bind_ok, pure_ok] at read
  obtain ⟨name, _, keys, _, nodes, _, columns, walked, rfl⟩ := read
  refine ⟨rfl, rfl, fun d member => ?_⟩
  obtain ⟨node, _, own⟩ := source_of_mapM walked (Catalog.mem_of_mem_ofList member)
  exact readColumn_fresh own

theorem freshTable_kept (rules : StorageRules) : KeptByPlacing rules FreshTable where
  declared _ _ read := readTable_fresh read
  placed _ _ _ _ _ fresh := ⟨fresh.noKeys, fresh.unused, fresh.noProperties⟩

/-- A table as it is read: with the keys of its associations, and not yet bound. -/
structure ReadTable (associations : List TableAssociation) (t : Table) : Prop where
  keys : t.foreignKeys = associations.flatMap (·.keysAt t.name)
  unused : t.isUsed = false
  noProperties : ∀ d ∈ t.columns.entries, d.propertyName = none

theorem table_joined {associations : List TableAssociation} {m : StorageModel} {t : Table}
    (member : t ∈ (associations.foldl joinTables m).tables.entries) :
    ∃ old ∈ m.tables.entries,
      t = { old with
        foreignKeys := old.foreignKeys ++ associations.flatMap (·.keysAt t.name) } := by
  have found := Catalog.find?_of_mem member
  rw [find_joined] at found
  obtain ⟨old, earlier, joined⟩ := Option.map_eq_some_iff.1 found
  exact ⟨old, Catalog.mem_of_find? earlier, joined.symm⟩

theorem readStorageSchema_ok {rules : StorageRules} {schema : Element} {s : StorageModel}
    (read : (readStorageSchema rules schema).outcome = .ok s) :
    ∃ associations, readAssociations s schema = .ok associations ∧
      ∀ t ∈ s.tables.entries, ReadTable associations t := by
  obtain ⟨m, associations, parts⟩ := readStorageSchema_parts (freshTable_kept rules) read
  obtain rfl := parts.joined
  refine ⟨associations, ?_, ?_⟩
  · rw [readAssociations_of_keys (keys_joined associations m)]
    exact parts.walked
  · intro t member
    obtain ⟨old, earlier, joined⟩ := table_joined member
    obtain ⟨before, fixed, fresh, _, rfl⟩ := parts.tables old earlier
    refine ⟨?_, joined ▸ fresh.unused, joined ▸ fresh.noProperties⟩
    have keys := congrArg Table.foreignKeys joined
    simpa only [fresh.noKeys, List.nil_append] using keys

theorem readStorage_ok {rules : StorageRules} {root : Element} {s : StorageModel}
    (read : (readStorage rules root).outcome = .ok s) :
    ∃ associations, tableAssociations s root = .ok associations ∧
      ∀ t ∈ s.tables.entries, ReadTable associations t := by
  obtain ⟨schema, located, made⟩ := readStorage_schema read
  obtain ⟨associations, walked, tables⟩ := readStorageSchema_ok made
  refine ⟨associations, ?_, tables⟩
  simp only [tableAssociations, bind_ok]
  exact ⟨some schema, located, walked⟩

end EntityScaffold.Reading
