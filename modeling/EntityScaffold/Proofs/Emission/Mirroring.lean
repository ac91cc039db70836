import EntityScaffold.Emission.Configurations
import EntityScaffold.Proofs.Binding.Changes
import EntityScaffold.Proofs.Reading.AssociationElements
import EntityScaffold.Proofs.Reading.Promises

/-!
The two relationships of an association of tables. Each is declared from a table of its own, out of
that table's key; as the keys are each other's counterparts, so are the declarations.
-/
namespace EntityScaffold.Emission
open Binding Reading Source

section declarations

variable (k : ForeignKey)

def manyToOneCalls (names : List String) : List String :=
  ["HasOne(" ++ navigationLambda k ++ ")", "WithMany(" ++ inverseLambda k ++ ")",
    "HasForeignKey(" ++ keyLambda names ++ ")"]

def oneToManyCalls (names : List String) : List String :=
  ["HasMany(" ++ navigationLambda k ++ ")", "WithOne(" ++ inverseLambda k ++ ")",
    "HasForeignKey(" ++ ", ".intercalate (names.map fun n => "\x22" ++ n ++ "\x22") ++ ")"]

/-- One of the others, by members of one side, which are called by what they are on it. -/
def oneToOneCalls (method entityType : String) (names : List String) : List String :=
  ["HasOne(" ++ navigationLambda k ++ ")", "WithOne(" ++ inverseLambda k ++ ")",
    method ++ "<" ++ entityType ++ ">(" ++ keyLambda names ++ ")"]

end declarations

structure Between (k : ForeignKey) (association : String) (here there : Multiplicity) : Prop where
  association : k.association = association
  source : k.source = here
  destination : k.destination = there

/-- Keys of two tables of the model that refer to each other's table by the same pairs of columns,
which each turns its own way. -/
structure Opposite (r : ResolvedModel) (t u : Table) (k l : ForeignKey) : Prop where
  here : r.storage.tables.find? t.name = some t
  there : r.storage.tables.find? u.name = some u
  tables : k.table = u.name ∧ l.table = t.name
  columns : l.columns = k.columns.map Prod.swap

section keys

variable {r : ResolvedModel} {t u : Table} {k l : ForeignKey} {name : String}
  {near far : Multiplicity}

theorem Opposite.symm (opposite : Opposite r t u k l) : Opposite r u t l k where
  here := opposite.there
  there := opposite.here
  tables := opposite.tables.symm
  columns := by simp [opposite.columns]

theorem otherMembers_opposite (opposite : Opposite r t u k l) :
    otherMembers r l = ownMembers t k := by
  rw [otherMembers, ownMembers, opposite.tables.2, opposite.here, opposite.columns, List.map_map]
  rfl

theorem relationship_refused (between : Between k name near far)
    (many : near.isMany = true ∧ far.isMany = true) (entityType : String) :
    relationship r t entityType k = .error (.unsupportedShape near far t.name k.text) := by
  obtain ⟨rfl, rfl, rfl⟩ := between
  simp [relationship, shapeOf, many]

theorem relationship_single (between : Between k name near far)
    (single : near.isMany = false ∧ far.isMany = false) (entityType : String) :
    relationship r t entityType k =
      .ok ⟨name, oneToOneCalls k (keyMethod k) entityType (ownMembers t k)⟩ := by
  obtain ⟨rfl, rfl, rfl⟩ := between
  simp [relationship, shapeOf, single, callsFor, oneToOneCalls]

theorem relationships_manyToOne (opposite : Opposite r t u k l) (between : Between k name near far)
    (back : Between l name far near) (many : near.isMany = true) (single : far.isMany = false)
    (here there : String) :
    relationship r t here k = .ok ⟨name, manyToOneCalls k (ownMembers t k)⟩ ∧
      relationship r u there l = .ok ⟨name, oneToManyCalls l (ownMembers t k)⟩ := by
  constructor
  · obtain ⟨rfl, rfl, rfl⟩ := between
    simp [relationship, shapeOf, many, single, callsFor, manyToOneCalls]
  · obtain ⟨rfl, rfl, rfl⟩ := back
    simp [relationship, shapeOf, many, single, callsFor, oneToManyCalls,
      otherMembers_opposite opposite]

end keys

def membersFor (t : Table) (columns : List String) : List String :=
  columns.map (memberNamed (some t))

theorem ownMembers_of_columns {t : Table} {k : ForeignKey} {columns : List String}
    (own : k.columns.map Prod.fst = columns) : ownMembers t k = membersFor t columns := by
  rw [membersFor, ← own, List.map_map]
  rfl

/-- What becomes of the keys of an association, `f` on the table of its dependent side and `g` on
that of its principal side. -/
inductive Mirrored (r : ResolvedModel) (a : TableAssociation) (t u : Table) (f g : ForeignKey)
    (dependentType principalType : String) : Prop
  | refused (many : a.dependent.multiplicity.isMany = true ∧ a.principal.multiplicity.isMany = true)
      (dependent : relationship r t dependentType f = .error
        (.unsupportedShape a.dependent.multiplicity a.principal.multiplicity t.name f.text))
      (principal : relationship r u principalType g = .error
        (.unsupportedShape a.principal.multiplicity a.dependent.multiplicity u.name g.text))
  | dependentMany
      (many : a.dependent.multiplicity.isMany = true ∧ a.principal.multiplicity.isMany = false)
      (dependent : relationship r t dependentType f =
        .ok ⟨a.name, manyToOneCalls f (membersFor t a.dependentColumns)⟩)
      (principal : relationship r u principalType g =
        .ok ⟨a.name, oneToManyCalls g (membersFor t a.dependentColumns)⟩)
  | principalMany
      (many : a.dependent.multiplicity.isMany = false ∧ a.principal.multiplicity.isMany = true)
      (dependent : relationship r t dependentType f =
        .ok ⟨a.name, oneToManyCalls f (membersFor u a.principalColumns)⟩)
      (principal : relationship r u principalType g =
        .ok ⟨a.name, manyToOneCalls g (membersFor u a.principalColumns)⟩)
  | single
      (many : a.dependent.multiplicity.isMany = false ∧ a.principal.multiplicity.isMany = false)
      (dependent : relationship r t dependentType f = .ok ⟨a.name,
        oneToOneCalls f "HasForeignKey" dependentType (membersFor t a.dependentColumns)⟩)
      (principal : relationship r u principalType g = .ok ⟨a.name,
        oneToOneCalls g "HasPrincipalKey" principalType (membersFor u a.principalColumns)⟩)

section associations

variable {r : ResolvedModel} {a : TableAssociation} {t u : Table} {f g : ForeignKey}

theorem opposite_of_changes (here : r.storage.tables.find? a.dependent.table = some t)
    (there : r.storage.tables.find? a.principal.table = some u)
    (dependent : KeyChange a.dependentKey f) (principal : KeyChange a.principalKey g) :
    Opposite r t u f g := by
  have own : t.name = a.dependent.table := Catalog.key_of_find? here
  have far : u.name = a.principal.table := Catalog.key_of_find? there
  refine ⟨own ▸ here, far ▸ there, ?_, ?_⟩
  · rw [own, far, dependent, principal]
    exact (counterparts a).tables
  · rw [dependent, principal]
    exact (counterparts a).columns

theorem mirrored_of_changes (here : r.storage.tables.find? a.dependent.table = some t)
    (there : r.storage.tables.find? a.principal.table = some u)
    (lengths : a.principalColumns.length = a.dependentColumns.length)
    (dependent : KeyChange a.dependentKey f) (principal : KeyChange a.principalKey g)
    (dependentType principalType : String) :
    Mirrored r a t u f g dependentType principalType := by
  have opposite := opposite_of_changes here there dependent principal
  have between : Between f a.name a.dependent.multiplicity a.principal.multiplicity := by
    rw [dependent]
    exact ⟨rfl, rfl, rfl⟩
  have back : Between g a.name a.principal.multiplicity a.dependent.multiplicity := by
    rw [principal]
    exact ⟨rfl, rfl, rfl⟩
  have called : keyMethod f = "HasForeignKey" ∧ keyMethod g = "HasPrincipalKey" := by
    rw [dependent, principal]
    exact ⟨rfl, rfl⟩
  have own : ownMembers t f = membersFor t a.dependentColumns := by
    refine ownMembers_of_columns ?_
    rw [dependent]
    exact List.map_fst_zip (Nat.le_of_eq lengths.symm)
  have far : ownMembers u g = membersFor u a.principalColumns := by
    refine ownMembers_of_columns ?_
    rw [principal]
    exact List.map_fst_zip (Nat.le_of_eq lengths)
  cases many : a.dependent.multiplicity.isMany with
  | true =>
    cases manyFar : a.principal.multiplicity.isMany with
    | true =>
      exact .refused ⟨many, manyFar⟩ (relationship_refused between ⟨many, manyFar⟩ dependentType)
        (relationship_refused back ⟨manyFar, many⟩ principalType)
    | false =>
      obtain ⟨forth, turned⟩ :=
        relationships_manyToOne opposite between back many manyFar dependentType principalType
      exact .dependentMany ⟨many, manyFar⟩ (own ▸ forth) (own ▸ turned)
  | false =>
    cases manyFar : a.principal.multiplicity.isMany with
    | true =>
      obtain ⟨forth, turned⟩ :=
        relationships_manyToOne opposite.symm back between manyFar many principalType dependentType
      exact .principalMany ⟨many, manyFar⟩ (far ▸ turned) (far ▸ forth)
    | false =>
      have forth := relationship_single (r := r) (t := t) between ⟨many, manyFar⟩ dependentType
      have turned := relationship_single (r := r) (t := u) back ⟨manyFar, many⟩ principalType
      rw [called.1, own] at forth
      rw [called.2, far] at turned
      exact .single ⟨many, manyFar⟩ forth turned

end associations

/-- The two tables of an association have its keys, which columns of equal number make up, and
whatever types they are declared for, the declarations mirror each other. -/
structure MirrorsKeys (r : ResolvedModel) (a : TableAssociation) (t u : Table) : Prop where
  dependent : r.storage.tables.find? a.dependent.table = some t
  principal : r.storage.tables.find? a.principal.table = some u
  dependentKey : ∃ f ∈ t.foreignKeys, KeyChange a.dependentKey f
  principalKey : ∃ g ∈ u.foreignKeys, KeyChange a.principalKey g
  members : membersFor t a.dependentColumns ≠ [] ∧
    (membersFor t a.dependentColumns).length = (membersFor u a.principalColumns).length
  mirrored : ∀ f ∈ t.foreignKeys, KeyChange a.dependentKey f →
    ∀ g ∈ u.foreignKeys, KeyChange a.principalKey g →
      ∀ dependentType principalType, Mirrored r a t u f g dependentType principalType

section hotel

/-- Rooms, each with one lock, which is told apart by the hotel and number of its room; locks have
one of the two under another name, and rooms the other. -/
def hotelDocument : Xml.Element :=
  document
    [.plain "EntityType" [("Name", "Rooms")]
      [.plain "Property" [("Name", "Hotel"), ("Type", "int")] [],
       .plain "Property" [("Name", "No"), ("Type", "int")] []],
     .plain "EntityType" [("Name", "Locks")]
      [.plain "Property" [("Name", "HotelId"), ("Type", "int")] [],
       .plain "Property" [("Name", "RoomNo"), ("Type", "int")] []],
     .plain "Association" [("Name", "Closes")]
      [.plain "End" [("Role", "Lock"), ("Type", "Locks"), ("Multiplicity", "0..1")] [],
       .plain "End" [("Role", "Room"), ("Type", "Rooms"), ("Multiplicity", "1")] [],
       .plain "ReferentialConstraint" []
        [.plain "Principal" [("Role", "Room")]
          [.plain "PropertyRef" [("Name", "Hotel")] [], .plain "PropertyRef" [("Name", "No")] []],
         .plain "Dependent" [("Role", "Lock")]
          [.plain "PropertyRef" [("Name", "HotelId")] [],
           .plain "PropertyRef" [("Name", "RoomNo")] []]]]]
    [.plain "EntityType" [("Name", "Room")] [], .plain "EntityType" [("Name", "Lock")] []]
    [.plain "EntitySetMapping" [("TypeName", "Room"), ("StoreEntitySet", "Rooms")]
      [.plain "ScalarProperty" [("ColumnName", "No"), ("Name", "Number")] []],
     .plain "EntitySetMapping" [("TypeName", "Lock"), ("StoreEntitySet", "Locks")]
      [.plain "ScalarProperty" [("ColumnName", "HotelId"), ("Name", "Hotel")] []]]

def closes : TableAssociation :=
  ⟨"Closes", ⟨"Lock", "Locks", .zeroOrOne⟩, ⟨"Room", "Rooms", .one⟩, ["HotelId", "RoomNo"],
    ["Hotel", "No"]⟩

def closingMembers (r : ResolvedModel) : List (List String) :=
  [closes.dependentColumns.map (memberNamed (r.storage.tables.find? closes.dependent.table)),
    closes.principalColumns.map (memberNamed (r.storage.tables.find? closes.principal.table))]

def HotelRead (r : ResolvedModel) : Prop :=
  (tableAssociations r.storage hotelDocument).toOption = some [closes] ∧
    closingMembers r = [["Hotel", "RoomNo"], ["Hotel", "Number"]]

instance : DecidablePred HotelRead := fun _ => inferInstanceAs (Decidable (_ ∧ _))

set_option maxRecDepth 100000 in
theorem hotel_read :
    ∃ r, (readAndBind (.ofSettings .defaults) hotelDocument).outcome = .ok r ∧ HotelRead r :=
  ok_of_any (by decide +kernel)

end hotel

end EntityScaffold.Emission
