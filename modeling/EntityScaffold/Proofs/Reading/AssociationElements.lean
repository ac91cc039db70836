import EntityScaffold.Proofs.Reading.Faults
import EntityScaffold.Proofs.Reading.TableAssociations
import EntityScaffold.Xml.Document
import Mathlib.Data.List.Zip

/-!
Associations of tables as the elements of a schema state them. The model of a schema can be read
just when every association in it is stated in full, and the first that is not is the one that is
complained of. Each association that is stated puts a key on the table of its dependent side and one
on that of its principal side, and the two are each other's counterparts.
-/
namespace EntityScaffold.Reading
open Xml Xml.Element

structure StatesEnd (m : StorageModel) (node : Element) (e : AssociationEnd) : Prop where
  role : node.valueD "Role" = e.role
  table : unqualified (node.valueD "Type") = e.table
  known : e.table ∈ m.tables.keys
  multiplicity : node.value? "Multiplicity" = some e.multiplicity.token

/-- The constraint states one side of an association: the role of an end, and columns. -/
def StatesSide (constraint : Element) (which : ConstraintEnd) (role : String)
    (columns : List String) : Prop :=
  ∃ side, constraint.parts which.title = [side] ∧ side.valueD "Role" = role ∧
    (side.parts "PropertyRef").map (·.valueD "Name") = columns

/-- The node states an association in full: two ends, which their roles tell apart, and a constraint
that names one of them on each of its sides, with as many columns on the one as on the other. -/
structure States (m : StorageModel) (node : Element) (first second : AssociationEnd)
    (a : TableAssociation) : Prop where
  name : node.valueD "Name" = a.name
  ends : ∃ x y, node.parts "End" = [x, y] ∧ StatesEnd m x first ∧ StatesEnd m y second
  apart : first.role ≠ second.role
  placed : a.dependent ∈ [first, second] ∧ a.principal ∈ [first, second]
  sides : ∃ constraint, node.parts "ReferentialConstraint" = [constraint] ∧
    StatesSide constraint .principal a.principal.role a.principalColumns ∧
    StatesSide constraint .dependent a.dependent.role a.dependentColumns
  columns : a.principalColumns ≠ [] ∧ a.principalColumns.length = a.dependentColumns.length

section decidable

variable {m : StorageModel} {node : Element}

instance (e : AssociationEnd) : Decidable (StatesEnd m node e) :=
  decidable_of_iff (node.valueD "Role" = e.role ∧ unqualified (node.valueD "Type") = e.table ∧
      e.table ∈ m.tables.keys ∧ node.value? "Multiplicity" = some e.multiplicity.token)
    ⟨fun h => ⟨h.1, h.2.1, h.2.2.1, h.2.2.2⟩, fun h => ⟨h.1, h.2, h.3, h.4⟩⟩

instance (which : ConstraintEnd) (role : String) (columns : List String) :
    Decidable (StatesSide node which role columns) :=
  decidableOnly (node.parts which.title)

instance (first second : AssociationEnd) (a : TableAssociation) :
    Decidable (States m node first second a) :=
  decidable_of_iff (node.valueD "Name" = a.name ∧
      (∃ x y, node.parts "End" = [x, y] ∧ StatesEnd m x first ∧ StatesEnd m y second) ∧
      first.role ≠ second.role ∧ (a.dependent ∈ [first, second] ∧ a.principal ∈ [first, second]) ∧
      (∃ constraint, node.parts "ReferentialConstraint" = [constraint] ∧
        StatesSide constraint .principal a.principal.role a.principalColumns ∧
        StatesSide constraint .dependent a.dependent.role a.dependentColumns) ∧
      a.principalColumns ≠ [] ∧ a.principalColumns.length = a.dependentColumns.length)
    ⟨fun h => ⟨h.1, h.2.1, h.2.2.1, h.2.2.2.1, h.2.2.2.2.1, h.2.2.2.2.2⟩,
      fun h => ⟨h.1, h.2, h.3, h.4, h.5, h.6⟩⟩

end decidable

def StatedBy (m : StorageModel) (node : Element) (a : TableAssociation) : Prop :=
  ∃ first second, States m node first second a

section nodes

variable {root : Element}

structure Within (root node : Element) : Prop where
  nested : node ∈ root.nested
  element : node.isNameless = false

theorem Within.part {node x : Element} (within : Within root node) {name : String}
    (member : x ∈ node.parts name) : Within root x where
  nested := part_nested within.nested member
  element := by simpa using (List.mem_filter.1 (List.mem_filter.1 member).1).2

variable (whole : WholeNames root) {node : Element} (within : Within root node)
include whole within

theorem childrenNamed_parts (name : String) : node.childrenNamed name = .ok (node.parts name) :=
  childrenNamed_of_whole (fun x member => whole x (nested_within root node within.nested x
    (child_nested member))) name

theorem attribute_value {name : String} (bare : IsBare name) :
    node.attribute? name = .ok (node.value? name) :=
  attribute_of_whole (whole node within.nested) within.element bare

theorem attributeD_valueD {name : String} (bare : IsBare name) :
    node.attributeD name = .ok (node.valueD name) := by
  rw [attributeD, attribute_value whole within bare]
  rfl

theorem readsEnd_iff {m : StorageModel} {e : AssociationEnd} :
    ReadsEnd m node e ↔ StatesEnd m node e := by
  have role : node.attributeD "Role" = .ok (node.valueD "Role") :=
    attributeD_valueD whole within (by decide)
  have type : node.attributeD "Type" = .ok (node.valueD "Type") :=
    attributeD_valueD whole within (by decide)
  have token : node.attribute? "Multiplicity" = .ok (node.value? "Multiplicity") :=
    attribute_value whole within (by decide)
  constructor
  · rintro ⟨named, ⟨_, typed, table⟩, known, multiplicity⟩
    cases type.symm.trans typed
    exact ⟨Except.ok.inj (role.symm.trans named), table, known,
      Except.ok.inj (token.symm.trans multiplicity)⟩
  · rintro ⟨named, table, known, multiplicity⟩
    exact ⟨named ▸ role, ⟨_, type, table⟩, known, multiplicity ▸ token⟩

theorem readConstraintEnd_iff {name : String} {which : ConstraintEnd} {role : String}
    {columns : List String} :
    readConstraintEnd name node which = .ok (role, columns) ↔
      StatesSide node which role columns := by
  rw [readConstraintEnd_ok, childrenNamed_parts whole within, StatesSide]
  refine exists_congr fun side => ?_
  rw [Except.ok.injEq]
  refine and_congr_right fun only => ?_
  have inSide : Within root side := within.part (only ▸ List.mem_singleton_self side)
  have names : (side.parts "PropertyRef").mapM (·.attributeD "Name") =
      .ok ((side.parts "PropertyRef").map (·.valueD "Name")) := by
    refine mapM_ok.2 (List.forall₂_map_right_iff.2 (List.forall₂_same.2 fun x member => ?_))
    exact attributeD_valueD whole (inSide.part member) (by decide)
  rw [attributeD_valueD whole inSide (by decide), childrenNamed_parts whole inSide]
  simp [names]

theorem readAssociation_iff {m : StorageModel} {a : TableAssociation} :
    readAssociation m node = .ok a ↔ StatedBy m node a := by
  have named : node.attributeD "Name" = .ok (node.valueD "Name") :=
    attributeD_valueD whole within (by decide)
  rw [readAssociation_ok]
  constructor
  · rintro ⟨name, ⟨x, y, first, second, asked, firstRead, secondRead, apart, placed⟩,
      ⟨constraint, constrained, principal, dependent⟩, columns⟩
    rw [childrenNamed_parts whole within, Except.ok.injEq] at asked constrained
    have inFirst : Within root x := within.part (by rw [asked]; simp)
    have inSecond : Within root y := within.part (by rw [asked]; simp)
    have inside : Within root constraint := within.part (by rw [constrained]; simp)
    refine ⟨first, second, Except.ok.inj (named.symm.trans name), ⟨x, y, asked, ?_, ?_⟩, apart,
      placed, ⟨constraint, constrained, ?_, ?_⟩, columns⟩
    · exact (readsEnd_iff whole inFirst).1 firstRead
    · exact (readsEnd_iff whole inSecond).1 secondRead
    · exact (readConstraintEnd_iff whole inside).1 principal
    · exact (readConstraintEnd_iff whole inside).1 dependent
  · rintro ⟨first, second, name, ⟨x, y, asked, firstRead, secondRead⟩, apart, placed,
      ⟨constraint, constrained, principal, dependent⟩, columns⟩
    have inFirst : Within root x := within.part (by rw [asked]; simp)
    have inSecond : Within root y := within.part (by rw [asked]; simp)
    have inside : Within root constraint := within.part (by rw [constrained]; simp)
    refine ⟨name ▸ named, ⟨x, y, first, second, ?_, ?_, ?_, apart, placed⟩,
      ⟨constraint, ?_, ?_, ?_⟩, columns⟩
    · rw [childrenNamed_parts whole within, asked]
    · exact (readsEnd_iff whole inFirst).2 firstRead
    · exact (readsEnd_iff whole inSecond).2 secondRead
    · rw [childrenNamed_parts whole within, constrained]
    · exact (readConstraintEnd_iff whole inside).2 principal
    · exact (readConstraintEnd_iff whole inside).2 dependent

end nodes

section schemas

variable {rules : StorageRules} {schema : Element} {m s : StorageModel}

def schemaTables (rules : StorageRules) (schema : Element) : Noted StorageModel := do
  let tables ← readTables rules schema
  let functions ← (← schema.childrenNamed "Function").mapM (readStoredFunction rules)
  let m : StorageModel := { tables := tables, functions := .ofList functions }
  let m ← readContainer rules schema m
  fixNames rules m

/-- Reading a schema reads its associations over its tables, and then joins the tables. -/
theorem outcome_readStorageSchema (rules : StorageRules) (schema : Element) :
    (readStorageSchema rules schema).outcome = do
      let m ← (schemaTables rules schema).outcome
      return (← readAssociations m schema).foldl joinTables m := by
  simp only [readStorageSchema, schemaTables, Noted.outcome_bind, Noted.outcome_liftM,
    bind_assoc]
  rfl

theorem schemaTables_fresh (read : (schemaTables rules schema).outcome = .ok m) :
    ∀ t ∈ m.tables.entries, t.foreignKeys = [] := by
  simp only [schemaTables, Noted.outcome_bind_eq_ok, Noted.outcome_liftM] at read
  obtain ⟨tables, listed, _, _, _, _, placed, contained, fixed⟩ := read
  have kept := freshTable_kept rules
  obtain ⟨held, _⟩ := readContainer_keeps kept (readTables_keeps kept listed) contained
  intro t member
  obtain ⟨old, _, fresh, _, rfl⟩ := (fixNames_ok held fixed).1 t member
  exact fresh.noKeys

/-- Two keys on the tables `here` and `there` that are each other's other side. -/
structure Counterparts (here there : String) (f g : ForeignKey) : Prop where
  tables : f.table = there ∧ g.table = here
  ends : f.source = g.destination ∧ f.destination = g.source
  columns : g.columns = f.columns.map Prod.swap

theorem counterparts (a : TableAssociation) :
    Counterparts a.dependent.table a.principal.table a.dependentKey a.principalKey where
  tables := ⟨rfl, rfl⟩
  ends := ⟨rfl, rfl⟩
  columns := (List.zip_swap a.dependentColumns a.principalColumns).symm

/-- The model of a schema, with the keys that the associations stated in it have put on the
tables. -/
structure ReadsSchema (m : StorageModel) (schema : Element) (s : StorageModel)
    (stored : List TableAssociation) : Prop where
  stated : List.Forall₂ (StatedBy m) (schema.parts "Association") stored
  tables : ∀ name, s.tables.find? name = (m.tables.find? name).map fun t =>
    { t with foreignKeys := stored.flatMap (·.keysAt name) }
  columns : ∀ a ∈ stored, a.dependentKey.columns.map Prod.fst = a.dependentColumns ∧
    a.dependentKey.columns.map Prod.snd = a.principalColumns
  counterparts : ∀ a ∈ stored,
    Counterparts a.dependent.table a.principal.table a.dependentKey a.principalKey

/-- The association that is complained of is the first that is not stated in full. -/
structure Refuses (m : StorageModel) (schema node : Element) (f : Fault) : Prop where
  first : ∃ before after, schema.parts "Association" = before ++ node :: after ∧
    ∀ x ∈ before, ∃ a, StatedBy m x a
  unstated : ∀ a, ¬ StatedBy m node a
  named : ∃ flaw, f = .association (node.valueD "Name") flaw

theorem within_part {node : Element} {name : String} (member : node ∈ schema.parts name) :
    Within schema node where
  nested := child_nested (List.mem_filter.1 member).1
  element := by simpa using (List.mem_filter.1 (List.mem_filter.1 member).1).2

theorem outcome_of_associations {nodes : List Element}
    (read : (schemaTables rules schema).outcome = .ok m)
    (asked : schema.childrenNamed "Association" = .ok nodes) :
    (readStorageSchema rules schema).outcome =
      (nodes.mapM (readAssociation m)).map (·.foldl joinTables m) := by
  rw [outcome_readStorageSchema, read]
  show (readAssociations m schema >>= fun stored => pure (stored.foldl joinTables m)) = _
  rw [readAssociations, asked]
  show (nodes.mapM (readAssociation m) >>= _) = _
  cases nodes.mapM (readAssociation m) <;> rfl

theorem outcome_of_whole (whole : WholeNames schema)
    (read : (schemaTables rules schema).outcome = .ok m) :
    (readStorageSchema rules schema).outcome =
      ((schema.parts "Association").mapM (readAssociation m)).map (·.foldl joinTables m) :=
  outcome_of_associations read <|
    childrenNamed_of_whole (fun x member => whole x (child_nested member)) "Association"

theorem succeeds_iff_stated (whole : WholeNames schema)
    (read : (schemaTables rules schema).outcome = .ok m) :
    (∃ s, (readStorageSchema rules schema).outcome = .ok s) ↔
      ∀ node ∈ schema.parts "Association", ∃ a, StatedBy m node a := by
  have each : (∀ node ∈ schema.parts "Association", ∃ a, readAssociation m node = .ok a) ↔
      ∀ node ∈ schema.parts "Association", ∃ a, StatedBy m node a :=
    forall₂_congr fun _ member =>
      exists_congr fun _ => readAssociation_iff whole (within_part member)
  rw [outcome_of_whole whole read, ← each, ← mapM_succeeds]
  simp only [map_ok]
  exact ⟨fun ⟨_, stored, walked, _⟩ => ⟨stored, walked⟩,
    fun ⟨stored, walked⟩ => ⟨_, stored, walked, rfl⟩⟩

theorem readsSchema_of_ok (whole : WholeNames schema)
    (read : (schemaTables rules schema).outcome = .ok m)
    (made : (readStorageSchema rules schema).outcome = .ok s) :
    ∃ stored, ReadsSchema m schema s stored := by
  rw [outcome_of_whole whole read] at made
  obtain ⟨stored, walked, rfl⟩ := map_ok.1 made
  have stated : List.Forall₂ (StatedBy m) (schema.parts "Association") stored :=
    ((List.forall₂_and_left ..).2 ⟨fun _ member => within_part member, mapM_ok.1 walked⟩).imp
      fun _ _ own => (readAssociation_iff whole own.1).1 own.2
  refine ⟨stored, stated, fun name => ?_, fun a member => ?_, fun a _ => counterparts a⟩
  · rw [find_joined]
    cases found : m.tables.find? name with
    | none => rfl
    | some t =>
      have fresh := schemaTables_fresh read t (Catalog.mem_of_find? found)
      simp [fresh]
  · obtain ⟨node, _, _, _, own⟩ := related_of_mem_right stated member
    exact ⟨List.map_fst_zip (Nat.le_of_eq own.columns.2.symm),
      List.map_snd_zip (Nat.le_of_eq own.columns.2)⟩

/-- The first association that is not stated in full is refused under its own name. -/
theorem refuses_of_error (whole : WholeNames schema)
    (read : (schemaTables rules schema).outcome = .ok m) {f : Fault}
    (failed : (readStorageSchema rules schema).outcome = .error f) :
    ∃ node, Refuses m schema node f := by
  have walked : (schema.parts "Association").mapM (readAssociation m) = .error f := by
    rw [outcome_of_whole whole read] at failed
    cases made : (schema.parts "Association").mapM (readAssociation m) with
    | ok stored =>
      rw [made] at failed
      cases failed
    | error g =>
      rw [made] at failed
      cases failed
      rfl
  obtain ⟨before, node, after, listed, passed, stopped⟩ := first_failure walked
  have inside : ∀ x ∈ before ++ [node], Within schema x := fun x member =>
    within_part (show x ∈ schema.parts "Association" by
      rw [listed, List.append_cons]
      exact List.mem_append_left _ member)
  have within := inside node (by simp)
  have named : node.attributeD "Name" = .ok (node.valueD "Name") :=
    attributeD_valueD whole within (by decide)
  have fails : FailsWith (fun f => ∃ flaw, f = .association (node.valueD "Name") flaw)
      (readAssociation m node) := by
    refine readAssociation_fails (fun name lost => absurd lost (not_misnamed whole name))
      within.nested (fun name flaw found => ?_) m
    cases named.symm.trans found
    exact ⟨flaw, rfl⟩
  refine ⟨node, ⟨before, after, listed, fun x member => ?_⟩, fun a own => ?_, fails f stopped⟩
  · obtain ⟨a, own⟩ := passed x member
    exact ⟨a, (readAssociation_iff whole (inside x (by simp [member]))).1 own⟩
  · cases stopped.symm.trans ((readAssociation_iff whole within).2 own)

theorem storage_associations (whole : WholeNames schema)
    (read : (schemaTables rules schema).outcome = .ok m) :
    ((∃ s, (readStorageSchema rules schema).outcome = .ok s) ↔
        ∀ node ∈ schema.parts "Association", ∃ a, StatedBy m node a) ∧
      (∀ s, (readStorageSchema rules schema).outcome = .ok s →
        ∃ stored, ReadsSchema m schema s stored) ∧
      ∀ f, (readStorageSchema rules schema).outcome = .error f →
        ∃ node, Refuses m schema node f :=
  ⟨succeeds_iff_stated whole read, fun _ => readsSchema_of_ok whole read,
    fun _ => refuses_of_error whole read⟩

end schemas

section reports

/-- Employees who report to others, with something else among the ends. The container and the last
element matter only if that has a name without a local part: no search for the former meets it, and
the latter leaves a finding behind that is no error. -/
def reportsText (note : String) : List Char :=
  ["<Edmx><StorageModels><Schema>", "<EntityType Name=\x22Employee\x22/>", "<EntityContainer/>",
    "<Association Name=\x22Manages\x22>", note,
    "<End Role=\x22Manager\x22 Type=\x22Self.Employee\x22 Multiplicity=\x220..1\x22/>",
    "<End Role=\x22Report\x22 Type=\x22Self.Employee\x22 Multiplicity=\x22*\x22/>",
    "<ReferentialConstraint>",
    "<Principal Role=\x22Manager\x22>", "<PropertyRef Name=\x22Id\x22/>", "</Principal>",
    "<Dependent Role=\x22Report\x22>", "<PropertyRef Name=\x22ManagerId\x22/>", "</Dependent>",
    "</ReferentialConstraint></Association></Schema></StorageModels>",
    "<Last xmlns=\x22rel\x22/></Edmx>"].flatMap String.toList

def manager : AssociationEnd := ⟨"Manager", "Employee", .zeroOrOne⟩

def report : AssociationEnd := ⟨"Report", "Employee", .many⟩

def reportsTables : TableAssociation := ⟨"Manages", report, manager, ["ManagerId"], ["Id"]⟩

def plainRules : StorageRules := ⟨⟨[], [], []⟩, .str "dbo"⟩

def schemaOfText (text : List Char) : Except Fault (Element × StorageModel) := do
  match Xml.ofText? text with
  | none => .error (.malformedDocument none)
  | some root =>
    match ← schemaIn? root "StorageModels" with
    | none => .error (.missingSection .storage)
    | some schema => return (schema, ← (schemaTables plainRules schema).outcome)

theorem tables_of_text {text : List Char} {x : Element × StorageModel}
    (found : schemaOfText text = .ok x) : (schemaTables plainRules x.1).outcome = .ok x.2 := by
  unfold schemaOfText at found
  split at found
  · cases found
  · obtain ⟨schema?, _, found⟩ := bind_ok.1 found
    split at found
    · cases found
    · obtain ⟨m, read, made⟩ := bind_ok.1 found
      cases made
      exact read

def StatesOnly (first second : AssociationEnd) (a : TableAssociation)
    (x : Element × StorageModel) : Prop :=
  ∃ node, x.1.parts "Association" = [node] ∧ States x.2 node first second a

instance (first second : AssociationEnd) (a : TableAssociation) :
    DecidablePred (StatesOnly first second a) := fun _ => decidableOnly _

theorem StatesOnly.all {first second : AssociationEnd} {a : TableAssociation}
    {x : Element × StorageModel} (stated : StatesOnly first second a x) :
    ∀ node ∈ x.1.parts "Association", ∃ a, StatedBy x.2 node a := by
  obtain ⟨node, only, own⟩ := stated
  rw [only]
  exact List.forall_mem_singleton.2 ⟨a, first, second, own⟩

set_option maxRecDepth 100000 in
theorem reports_stated :
    ∃ x, schemaOfText (reportsText "") = .ok x ∧ WholeNames x.1 ∧
      StatesOnly manager report reportsTables x :=
  ok_of_any (by decide +kernel)

theorem reports_read :
    ∃ schema m s stored, schemaOfText (reportsText "") = .ok (schema, m) ∧ WholeNames schema ∧
      (schemaTables plainRules schema).outcome = .ok m ∧
      (readStorageSchema plainRules schema).outcome = .ok s ∧ ReadsSchema m schema s stored := by
  obtain ⟨⟨schema, m⟩, found, whole, stated⟩ := reports_stated
  have tables := tables_of_text found
  obtain ⟨accepted, joined, _⟩ := storage_associations whole tables
  obtain ⟨s, made⟩ := accepted.2 stated.all
  obtain ⟨stored, reads⟩ := joined s made
  exact ⟨schema, m, s, stored, found, whole, tables, made, reads⟩

set_option maxRecDepth 100000 in
theorem noted_reports_stated :
    ∃ x, schemaOfText (reportsText "<q:Note/>") = .ok x ∧
      StatesOnly manager report reportsTables x ∧
      (readStorageSchema plainRules x.1).outcome.map (fun _ => ()) =
        .error (.brokenName "q:Note") :=
  ok_of_any (by decide +kernel)

/-- With an element among the ends whose prefix is not declared, the schema cannot be read, though
its one association is stated in full; nor is the association complained of. -/
theorem noted_reports_unread :
    ∃ schema m, schemaOfText (reportsText "<q:Note/>") = .ok (schema, m) ∧
      (schemaTables plainRules schema).outcome = .ok m ∧
      (∀ node ∈ schema.parts "Association", ∃ a, StatedBy m node a) ∧
      (readStorageSchema plainRules schema).outcome = .error (.brokenName "q:Note") := by
  obtain ⟨⟨schema, m⟩, found, stated, failed⟩ := noted_reports_stated
  refine ⟨schema, m, found, tables_of_text found, stated.all, ?_⟩
  cases made : (readStorageSchema plainRules schema).outcome with
  | ok s =>
    rw [made] at failed
    cases failed
  | error f =>
    rw [made] at failed
    exact congrArg Except.error (Except.error.inj failed)

end reports

end EntityScaffold.Reading
