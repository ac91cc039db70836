import EntityScaffold.Proofs.Resolution

/-!
Associations that both models know. Its keys and its navigations are read apart from each other and
meet when keys are named: each key takes the navigation that leads to the table it refers to. Where
an association joins a table with itself both navigations fit both keys, and the one for whose rows
the key stands is preferred.
-/
namespace EntityScaffold.Binding
open Reading

/-- The keys of an association on the tables of its two ends, `f` and `g`, and its navigations on
their entities, `n` and `m`: each key goes by the names of the navigation at its end. -/
structure Paired (association : String) (dependent principal : Table) (own other : Entity)
    (f g : ForeignKey) (n m : Navigation) : Prop where
  dependentKey : dependent.foreignKeys.filter
    (fun k => !k.isPrincipal && k.association == association) = [f]
  principalKey : principal.foreignKeys.filter
    (fun k => k.isPrincipal && k.association == association) = [g]
  dependentNavigation : n ∈ own.navigations ∧ n.association = association
  principalNavigation : m ∈ other.navigations ∧ m.association = association
  only : ∀ x, x ∈ own.navigations ∨ x ∈ other.navigations → x.association = association →
    x = n ∨ x = m
  apart : n ≠ m
  identifiers : f.identifier = n.identifier ∧ g.identifier = m.identifier
  inverses : f.inverseIdentifier = g.identifier ∧ g.inverseIdentifier = f.identifier

theorem inverses_of_claims {storage : StorageModel} {k l f g : ForeignKey} {n m : Navigation}
    (key : NamedKey storage (k, some n) f) (keyFar : NamedKey storage (l, some m) g)
    (back : n.inverseIdentifier = m.identifier) (forth : m.inverseIdentifier = n.identifier) :
    f.inverseIdentifier = g.identifier ∧ g.inverseIdentifier = f.identifier := by
  obtain ⟨name, inverse⟩ := key.borrowed n rfl
  obtain ⟨nameFar, inverseFar⟩ := keyFar.borrowed m rfl
  exact ⟨by rw [inverse, back, nameFar], by rw [inverseFar, forth, name]⟩

structure Ends (b : EntityAssociation) (e d : Entity) (forth back : Navigation) : Prop where
  here : b.navigationsAt e.name = [forth]
  there : b.navigationsAt d.name = [back]
  forthOwn : forth.entityName = e.name
  forthLeads : forth.targetName = d.name
  backOwn : back.entityName = d.name
  backLeads : back.targetName = e.name

section pairing

variable {r : ResolvedModel} {named marked : ModelPair} {a : TableAssociation}
  {b : EntityAssociation} {t u : Table} {e d : Entity} {ends others : List Navigation}

/-- Between two tables each end has one key and one navigation. -/
theorem pair_apart (side : Side r named marked a b t e ends)
    (far : Side r named marked a b u d others) (mapped : Mapped r t e) (mappedFar : Mapped r u d)
    (tables : t.name ≠ u.name) (entities : e.name ≠ d.name)
    (dependent : a.dependent.table = t.name) (principal : a.principal.table = u.name)
    {forth back : Navigation} (given : Ends b e d forth back) :
    ∃ f g n m, Paired a.name t u e d f g n m ∧
      f.destination = a.principal.multiplicity ∧ g.destination = a.dependent.multiplicity ∧
      n.multiplicity = forth.multiplicity ∧ m.multiplicity = back.multiplicity := by
  obtain ⟨n, rfl, naming⟩ := related_singleton (given.here ▸ side.given)
  obtain ⟨m, rfl, namingFar⟩ := related_singleton (given.there ▸ far.given)
  have leads : n.targetName = d.name := naming.targetName.trans given.forthLeads
  have leadsBack : m.targetName = e.name := namingFar.targetName.trans given.backLeads
  have ownName : n.entityName = e.name := naming.entityName.trans given.forthOwn
  have farName : m.entityName = d.name := namingFar.entityName.trans given.backOwn
  have differ : n ≠ m := fun equal => entities (ownName.symm.trans (equal ▸ farName))
  obtain ⟨target, known, _⟩ := side.table
  obtain ⟨targetFar, knownFar, _⟩ := far.table
  -- Each table has one key of the association, and the key takes the one navigation there is.
  have keysHere : a.keysAt t.name = [a.dependentKey] := by
    simp [TableAssociation.keysAt, dependent, principal, tables.symm]
  have keysThere : a.keysAt u.name = [a.principalKey] := by
    simp [TableAssociation.keysAt, dependent, principal, tables]
  have own := side.keys
  rw [keysHere, side.linked, List.map_singleton, claims_single
    ((congrArg named.storage.tables.find? principal).trans knownFar)
    (side.fits far mappedFar knownFar (by simp) leads rfl)] at own
  have ownFar := far.keys
  rw [keysThere, far.linked, List.map_singleton, claims_single
    ((congrArg named.storage.tables.find? dependent).trans known)
    (far.fits side mapped known (by simp) leadsBack rfl)] at ownFar
  obtain ⟨f, onlyKey, key⟩ := related_singleton own
  obtain ⟨g, onlyKeyFar, keyFar⟩ := related_singleton ownFar
  -- The two navigations lead back to each other.
  have inverse : inverse? named.conceptual e n = some m := by
    rw [side.inverse far (by simp) leads]
    simp [differ.symm, leadsBack]
  have inverseFar : inverse? named.conceptual d m = some n := by
    rw [far.inverse side (by simp) leadsBack]
    simp [differ, leads]
  refine ⟨f, g, linkNavigation named.conceptual e n, linkNavigation named.conceptual d m,
    ⟨?_, ?_, ?_, ?_, ?_, ?_, ⟨(key.borrowed _ rfl).1, (keyFar.borrowed _ rfl).1⟩, ?_⟩,
    key.destination, keyFar.destination, ?_, ?_⟩
  · rw [← List.filter_filter, onlyKey]
    simp [key.isPrincipal, TableAssociation.dependentKey]
  · rw [← List.filter_filter, onlyKeyFar]
    simp [keyFar.isPrincipal, TableAssociation.principalKey]
  · exact (mem_of_linked side.linked).2 ⟨n, by simp, rfl⟩
  · exact (mem_of_linked far.linked).2 ⟨m, by simp, rfl⟩
  · rintro x (inOwn | inOther) belongs
    · obtain ⟨y, listed, rfl⟩ := (mem_of_linked side.linked).1 ⟨inOwn, belongs⟩
      rw [List.mem_singleton.1 listed]
      exact .inl rfl
    · obtain ⟨y, listed, rfl⟩ := (mem_of_linked far.linked).1 ⟨inOther, belongs⟩
      rw [List.mem_singleton.1 listed]
      exact .inr rfl
  · intro equal
    have same := congrArg Navigation.entityName equal
    rw [entityName_linkNavigation, entityName_linkNavigation, ownName, farName] at same
    exact entities same
  · refine inverses_of_claims key keyFar ?_ ?_
    · rw [inverseIdentifier_of_inverse inverse, identifier_linkNavigation]
    · rw [inverseIdentifier_of_inverse inverseFar, identifier_linkNavigation]
  · rw [multiplicity_linkNavigation, naming.multiplicity]
  · rw [multiplicity_linkNavigation, namingFar.multiplicity]

theorem pair_of_two {storage : StorageModel} {target : Table} {x y : Navigation}
    (keys : List.Forall₂ (NamedKey storage)
      (claims storage [x, y] [a.dependentKey, a.principalKey])
      (t.foreignKeys.filter (·.association == a.name)))
    (navigations : e.navigations.filter (·.association == a.name) = [x, y])
    (known : storage.tables.find? a.principal.table = some target)
    (knownToo : storage.tables.find? a.dependent.table = some target)
    (fits : ∀ n ∈ [x, y],
      fitsEnd a.dependentKey target n = true ∧ fitsEnd a.principalKey target n = true)
    (apart : x ≠ y) (back : x.inverseIdentifier = y.identifier)
    (forth : y.inverseIdentifier = x.identifier) :
    ∃ f g n m, Paired a.name t t e e f g n m ∧
      f.destination = a.principal.multiplicity ∧ g.destination = a.dependent.multiplicity ∧
      ((x.multiplicity.isMany = a.principal.multiplicity.isMany ∧
          y.multiplicity.isMany = a.dependent.multiplicity.isMany ∨
        y.multiplicity.isMany = a.principal.multiplicity.isMany ∧
          x.multiplicity.isMany = a.dependent.multiplicity.isMany) →
        n.multiplicity.isMany = f.destination.isMany ∧
          m.multiplicity.isMany = g.destination.isMany) := by
  obtain ⟨n, m, order, taken, agree⟩ := claims_pair apart known knownToo fits
  rw [taken] at keys
  obtain ⟨f, g, both, key, keyFar⟩ := related_pair keys
  have member (z : Navigation) :
      (z ∈ e.navigations ∧ z.association = a.name) ↔ z = x ∨ z = y := by
    rw [← List.mem_pair, ← navigations, List.mem_filter, beq_iff_eq]
  have only : ∀ z, z ∈ e.navigations ∨ z ∈ e.navigations → z.association = a.name →
      z = x ∨ z = y := fun z inEntity belongs => (member z).1 ⟨inEntity.elim id id, belongs⟩
  have destination : f.destination = a.principal.multiplicity := key.destination
  have destinationFar : g.destination = a.dependent.multiplicity := keyFar.destination
  have dependentKey : t.foreignKeys.filter (fun k => !k.isPrincipal && k.association == a.name) =
      [f] := by
    rw [← List.filter_filter, both]
    simp [key.isPrincipal, keyFar.isPrincipal, TableAssociation.dependentKey,
      TableAssociation.principalKey]
  have principalKey : t.foreignKeys.filter (fun k => k.isPrincipal && k.association == a.name) =
      [g] := by
    rw [← List.filter_filter, both]
    simp [key.isPrincipal, keyFar.isPrincipal, TableAssociation.dependentKey,
      TableAssociation.principalKey]
  refine ⟨f, g, n, m, ?_, destination, destinationFar, ?_⟩
  · have names := And.intro (key.borrowed n rfl).1 (keyFar.borrowed m rfl).1
    rcases order with ⟨rfl, rfl⟩ | ⟨rfl, rfl⟩
    · exact ⟨dependentKey, principalKey, (member n).2 (.inl rfl), (member m).2 (.inr rfl), only,
        apart, names, inverses_of_claims key keyFar back forth⟩
    · exact ⟨dependentKey, principalKey, (member n).2 (.inr rfl), (member m).2 (.inl rfl),
        fun z inEntity belongs => (only z inEntity belongs).symm, apart.symm, names,
        inverses_of_claims key keyFar forth back⟩
  · rw [destination, destinationFar]
    exact agree

/-- Within one table both keys fit both navigations, and each takes one. -/
theorem pair_within (side : Side r named marked a b t e ends) (mapped : Mapped r t e)
    (dependent : a.dependent.table = t.name) (principal : a.principal.table = t.name)
    (first : b.first.1 = e.name) (second : b.second.1 = e.name) :
    ∃ f g n m, Paired a.name t t e e f g n m ∧
      f.destination = a.principal.multiplicity ∧ g.destination = a.dependent.multiplicity ∧
      ((b.first.2.isMany = a.dependent.multiplicity.isMany ∧
          b.second.2.isMany = a.principal.multiplicity.isMany ∨
        b.second.2.isMany = a.dependent.multiplicity.isMany ∧
          b.first.2.isMany = a.principal.multiplicity.isMany) →
        n.multiplicity.isMany = f.destination.isMany ∧
          m.multiplicity.isMany = g.destination.isMany) := by
  have both : b.navigationsAt e.name = [b.firstNavigation, b.secondNavigation] := by
    simp [EntityAssociation.navigationsAt, first, second]
  obtain ⟨x, y, rfl, naming, namingToo⟩ := related_pair (both ▸ side.given)
  have leads : x.targetName = e.name := naming.targetName.trans second
  have leadsToo : y.targetName = e.name := namingToo.targetName.trans first
  have names : x.identifier ≠ y.identifier := by
    have distinct := side.distinct
    simp only [List.map_cons, List.map_nil, List.nodup_cons, List.mem_singleton] at distinct
    exact distinct.1
  have differ : x ≠ y := fun equal => names (equal ▸ rfl)
  obtain ⟨target, known, _⟩ := side.table
  have inverse : inverse? named.conceptual e x = some y := by
    rw [side.inverse side (by simp) leads]
    simp [differ.symm, leadsToo]
  have inverseToo : inverse? named.conceptual e y = some x := by
    rw [side.inverse side (by simp) leadsToo]
    simp [differ, leads]
  have navigations := side.linked
  rw [List.map_cons, List.map_singleton] at navigations
  have keys := side.keys
  have keysHere : a.keysAt t.name = [a.dependentKey, a.principalKey] := by
    simp [TableAssociation.keysAt, dependent, principal]
  rw [keysHere, navigations] at keys
  have fits : ∀ n ∈ [linkNavigation named.conceptual e x, linkNavigation named.conceptual e y],
      fitsEnd a.dependentKey target n = true ∧ fitsEnd a.principalKey target n = true := by
    intro n member
    rcases List.mem_pair.1 member with rfl | rfl
    · exact ⟨side.fits side mapped known (by simp) leads rfl,
        side.fits side mapped known (by simp) leads rfl⟩
    · exact ⟨side.fits side mapped known (by simp) leadsToo rfl,
        side.fits side mapped known (by simp) leadsToo rfl⟩
  have apart : linkNavigation named.conceptual e x ≠ linkNavigation named.conceptual e y := by
    intro equal
    have same := congrArg Navigation.identifier equal
    rw [identifier_linkNavigation, identifier_linkNavigation] at same
    exact names same
  obtain ⟨f, g, n, m, paired, destination, destinationFar, agree⟩ :=
    pair_of_two keys navigations (principal ▸ known) (dependent ▸ known) fits apart
      (by rw [inverseIdentifier_of_inverse inverse, identifier_linkNavigation])
      (by rw [inverseIdentifier_of_inverse inverseToo, identifier_linkNavigation])
  have second_many : (linkNavigation named.conceptual e x).multiplicity = b.second.2 := by
    rw [multiplicity_linkNavigation, naming.multiplicity]
    rfl
  have first_many : (linkNavigation named.conceptual e y).multiplicity = b.first.2 := by
    rw [multiplicity_linkNavigation, namingToo.multiplicity]
    rfl
  rw [second_many, first_many] at agree
  refine ⟨f, g, n, m, paired, destination, destinationFar, fun ends => agree ?_⟩
  exact ends.imp And.symm And.symm

end pairing

def Joins (b : EntityAssociation) (e d : Entity) : Prop :=
  b.first.1 = e.name ∧ b.second.1 = d.name ∨ b.first.1 = d.name ∧ b.second.1 = e.name

/-- The ends of two associations can be paired, each entity with its table, so that those of a pair
stand both for one row or both for many. -/
def EndsAgree (a : TableAssociation) (b : EntityAssociation) (e d : Entity) : Prop :=
  (b.first.1 = e.name ∧ b.second.1 = d.name ∧
      b.first.2.isMany = a.dependent.multiplicity.isMany ∧
      b.second.2.isMany = a.principal.multiplicity.isMany) ∨
    (b.second.1 = e.name ∧ b.first.1 = d.name ∧
      b.second.2.isMany = a.dependent.multiplicity.isMany ∧
      b.first.2.isMany = a.principal.multiplicity.isMany)

theorem mapped_unique {r : ResolvedModel} {t u : Table} {e d : Entity} (mapped : Mapped r t e)
    (mappedFar : Mapped r u d) (tables : t.name = u.name) (entities : e.name = d.name) :
    t = u ∧ e = d := by
  have table := Stages.find_mapped_table mapped
  have entity := Stages.find_mapped_entity mapped
  rw [tables, Stages.find_mapped_table mappedFar] at table
  rw [entities, Stages.find_mapped_entity mappedFar] at entity
  exact ⟨(Option.some.inj table).symm, (Option.some.inj entity).symm⟩

theorem exists_ends {b : EntityAssociation} {e d : Entity} (apart : e.name ≠ d.name)
    (joins : Joins b e d) : ∃ forth back, Ends b e d forth back := by
  rcases joins with ⟨first, second⟩ | ⟨first, second⟩
  · have here : b.navigationsAt e.name = [b.firstNavigation] := by
      simp [EntityAssociation.navigationsAt, first, second, apart.symm]
    have there : b.navigationsAt d.name = [b.secondNavigation] := by
      simp [EntityAssociation.navigationsAt, first, second, apart]
    exact ⟨_, _, here, there, first, second, second, first⟩
  · have here : b.navigationsAt e.name = [b.secondNavigation] := by
      simp [EntityAssociation.navigationsAt, first, second, apart.symm]
    have there : b.navigationsAt d.name = [b.firstNavigation] := by
      simp [EntityAssociation.navigationsAt, first, second, apart]
    exact ⟨_, _, here, there, second, first, first, second⟩

/-- Two entities are the ends of an association in one order alone, so its ends can be paired with
those of another in one way. -/
theorem ends_of_joins {b : EntityAssociation} {e d : Entity} (apart : e.name ≠ d.name)
    (joins : Joins b e d) (a : TableAssociation) :
    ∃ forth back, Ends b e d forth back ∧
      (EndsAgree a b e d → forth.multiplicity.isMany = a.principal.multiplicity.isMany ∧
        back.multiplicity.isMany = a.dependent.multiplicity.isMany) := by
  obtain ⟨forth, back, ends⟩ := exists_ends apart joins
  refine ⟨forth, back, ends, fun agree => ?_⟩
  have here := mem_navigationsAt.1 (ends.here ▸ List.mem_singleton_self forth)
  have there := mem_navigationsAt.1 (ends.there ▸ List.mem_singleton_self back)
  rcases agree with ⟨first, second, own, far⟩ | ⟨second, first, own, far⟩
  · obtain rfl := (here.resolve_right fun crossed => apart (crossed.1.symm.trans second)).2
    obtain rfl := (there.resolve_left fun crossed => apart (first.symm.trans crossed.1)).2
    exact ⟨far, own⟩
  · obtain rfl := (here.resolve_left fun crossed => apart (crossed.1.symm.trans first)).2
    obtain rfl := (there.resolve_right fun crossed => apart (second.symm.trans crossed.1)).2
    exact ⟨far, own⟩

theorem association_members_paired {c : Config} {root : Xml.Element} {r : ResolvedModel}
    {stored : List TableAssociation} {joined : List EntityAssociation}
    (resolved : (readAndBind c root).outcome = .ok r)
    (inTables : tableAssociations r.storage root = .ok stored)
    (inEntities : entityAssociations r.conceptual root = .ok joined)
    (tableNames : (stored.map (·.name)).Nodup) (entityNames : (joined.map (·.name)).Nodup)
    (one : OneToOne r) {a : TableAssociation} {b : EntityAssociation} (inStored : a ∈ stored)
    (inJoined : b ∈ joined) (same : b.name = a.name) {t u : Table} {e d : Entity}
    (dependent : a.dependent.table = t.name) (principal : a.principal.table = u.name)
    (mapped : Mapped r t e) (mappedFar : Mapped r u d) (joins : Joins b e d) :
    ∃ f g n m, Paired a.name t u e d f g n m ∧
      (EndsAgree a b e d → n.multiplicity.isMany = f.destination.isMany ∧
        m.multiplicity.isMany = g.destination.isMany) := by
  obtain ⟨stored', joined', storage, conceptual, mappings, links, named, inTables', inEntities',
    model⟩ := readAndBind_ok resolved
  rw [inTables] at inTables'
  rw [inEntities] at inEntities'
  cases inTables'
  cases inEntities'
  obtain ⟨ends, side⟩ := model.side one tableNames entityNames inStored inJoined same mapped
  obtain ⟨others, far⟩ := model.side one tableNames entityNames inStored inJoined same mappedFar
  by_cases entities : e.name = d.name
  · -- One entity has one table, so both ends of both associations are here.
    have tables : t.name = u.name := (one t u e d mapped mappedFar).2 entities
    obtain ⟨rfl, rfl⟩ := mapped_unique mapped mappedFar tables entities
    have firstEnd : b.first.1 = e.name := joins.elim And.left And.left
    have secondEnd : b.second.1 = e.name := joins.elim And.right And.right
    obtain ⟨f, g, n, m, paired, _, _, agree⟩ :=
      pair_within side mapped dependent principal firstEnd secondEnd
    refine ⟨f, g, n, m, paired, fun ends => agree ?_⟩
    rcases ends with ⟨_, _, first, second⟩ | ⟨_, _, second, first⟩
    · exact .inl ⟨first, second⟩
    · exact .inr ⟨second, first⟩
  · have tables : t.name ≠ u.name := fun equal => entities ((one t u e d mapped mappedFar).1 equal)
    obtain ⟨forth, back, given, agree⟩ := ends_of_joins entities joins a
    obtain ⟨f, g, n, m, paired, destination, destinationFar, forthMany, backMany⟩ :=
      pair_apart side far mapped mappedFar tables entities dependent principal given
    refine ⟨f, g, n, m, paired, fun ends => ?_⟩
    rw [destination, destinationFar, forthMany, backMany]
    exact agree ends

section managers

/-- Employees and their managers: the ends stand in one order for the tables and in the other for
the entities. -/
def managerDocument : Xml.Element :=
  document
    [.plain "EntityType" [("Name", "Employee")]
      [.plain "Property" [("Name", "Id"), ("Type", "int")] [],
       .plain "Property" [("Name", "ManagerId"), ("Type", "int")] []],
     .plain "Association" [("Name", "Manages")]
      [.plain "End" [("Role", "Report"), ("Type", "Employee"), ("Multiplicity", "*")] [],
       .plain "End" [("Role", "Manager"), ("Type", "Employee"), ("Multiplicity", "0..1")] [],
       .plain "ReferentialConstraint" []
        [.plain "Principal" [("Role", "Manager")] [.plain "PropertyRef" [("Name", "Id")] []],
         .plain "Dependent" [("Role", "Report")]
          [.plain "PropertyRef" [("Name", "ManagerId")] []]]]]
    [.plain "EntityType" [("Name", "Employee")]
      [.plain "Property" [("Name", "Id"), ("Type", "Int32")] [],
       .plain "Property" [("Name", "ManagerId"), ("Type", "Int32")] []],
     .plain "Association" [("Name", "Manages")]
      [.plain "End" [("Type", "Employee"), ("Multiplicity", "0..1")] [],
       .plain "End" [("Type", "Employee"), ("Multiplicity", "*")] []]]
    [.plain "EntitySetMapping" [("TypeName", "Employee"), ("StoreEntitySet", "Employee")] []]

def managerMapping : Mapping := ⟨"Employee", "Employee", []⟩

def managerTables : TableAssociation where
  name := "Manages"
  dependent := ⟨"Report", "Employee", .many⟩
  principal := ⟨"Manager", "Employee", .zeroOrOne⟩
  dependentColumns := ["ManagerId"]
  principalColumns := ["Id"]

def managerEntities : EntityAssociation :=
  ⟨"Manages", ("Employee", .zeroOrOne), ("Employee", .many)⟩

def ManagersRead (r : ResolvedModel) : Prop :=
  r.mappings = [managerMapping] ∧
    (tableAssociations r.storage managerDocument).toOption = some [managerTables] ∧
    (entityAssociations r.conceptual managerDocument).toOption = some [managerEntities] ∧
    (r.storage.resolveTable? "Employee").map (·.name) = some "Employee" ∧
    (r.conceptual.entities.find? "Employee").map (·.name) = some "Employee"

instance : DecidablePred ManagersRead := fun _ => inferInstanceAs (Decidable (_ ∧ _))

set_option maxRecDepth 100000 in
theorem managers_read :
    ∃ r, (readAndBind (.ofSettings .defaults) managerDocument).outcome = .ok r ∧ ManagersRead r :=
  ok_of_any (by decide +kernel)

/-- The key of the reports takes the navigation to the one manager, though the other came first. -/
theorem manager_members_paired :
    ∃ r t e f g n m, (readAndBind (.ofSettings .defaults) managerDocument).outcome = .ok r ∧
      Mapped r t e ∧ Paired "Manages" t t e e f g n m ∧
        n.multiplicity.isMany = f.destination.isMany ∧
        m.multiplicity.isMany = g.destination.isMany := by
  obtain ⟨r, resolved, single, stored, joined, table, entity⟩ := managers_read
  obtain ⟨t, resolvedTable, tableName⟩ := Option.map_eq_some_iff.1 table
  obtain ⟨e, found, entityName⟩ := Option.map_eq_some_iff.1 entity
  have mapped : Mapped r t e := ⟨managerMapping, by simp [single], resolvedTable, found⟩
  obtain ⟨f, g, n, m, paired, agree⟩ :=
    association_members_paired resolved (ok_of_toOption stored) (ok_of_toOption joined) (by simp)
      (by simp) (oneToOne_of_single single) (List.mem_singleton.2 rfl) (List.mem_singleton.2 rfl)
      rfl tableName.symm tableName.symm mapped mapped (.inl ⟨entityName.symm, entityName.symm⟩)
  have ends : EndsAgree managerTables managerEntities e e :=
    .inr ⟨entityName.symm, entityName.symm, rfl, rfl⟩
  exact ⟨r, t, e, f, g, n, m, resolved, mapped, paired, agree ends⟩

end managers

end EntityScaffold.Binding
