import EntityScaffold.Proofs.Binding.Members
import EntityScaffold.Proofs.Emission.Agreement
import EntityScaffold.Proofs.Emission.Registration
import EntityScaffold.Proofs.Runs

/-!
Relationships of configurations. The members that a relationship names are navigations that the
classes declare where both models know the association. A foreign key that only the storage model
knows has a name of its own, which no class declares.
-/
namespace EntityScaffold.Emission
open Binding Source

def relationshipMethods : List (String × String) :=
  [("HasOne", "WithMany"), ("HasMany", "WithOne"), ("HasOne", "WithOne")]

def NamesMembers (k : ForeignKey) (s : Relationship) : Prop :=
  ∃ methods ∈ relationshipMethods, ∃ columns, s.calls =
    [methods.1 ++ "(" ++ navigationLambda k ++ ")", methods.2 ++ "(" ++ inverseLambda k ++ ")",
      columns]

theorem relationship_ok {r : ResolvedModel} {t : Table} {entityType : String} {k : ForeignKey}
    {s : Relationship} (made : relationship r t entityType k = .ok s) : NamesMembers k s := by
  unfold relationship at made
  cases shape : shapeOf k with
  | none =>
    rw [shape] at made
    cases made
  | some known =>
    rw [shape] at made
    cases made
    cases known with
    | manyToOne => exact ⟨("HasOne", "WithMany"), by decide, _, rfl⟩
    | oneToMany => exact ⟨("HasMany", "WithOne"), by decide, _, rfl⟩
    | oneToOne => exact ⟨("HasOne", "WithOne"), by decide, _, rfl⟩

theorem navigations_of_entityClass {c : Config} {e : Entity} {d : DomainClass}
    (made : entityClass c e = .ok d) : d.navigations = e.navigations.map navigationMember := by
  simp only [entityClass, bind_ok, pure_ok] at made
  obtain ⟨_, _, _, _, _, _, rfl⟩ := made
  rfl

/-- The class of an entity declares a navigation property, and is written if classes are. -/
structure DeclaresNavigation (c : Config) (r : ResolvedModel) (e : Entity) (name : String) :
    Prop where
  inUse : e ∈ r.usedEntities
  declared : ∀ d, entityClass c e = .ok d → name ∈ d.navigations.map (·.name)
  written : c.emitDomainModels = true → ∃ a, ArtifactOf c r e a

theorem written_of_used {c : Config} {r : ResolvedModel}
    (completed : (emitModel c r).stopped = none) (domain : c.emitDomainModels = true) {e : Entity}
    (inUse : e ∈ r.usedEntities) : ∃ a, ArtifactOf c r e a := by
  obtain ⟨each, walked⟩ := emitModel_ok completed
  have enabled : Emitter.domainModel ∈ enabledEmitters c := mem_enabledEmitters.2 domain
  obtain ⟨entities, complexes, made, _, units⟩ :=
    emitDomain_ok (Trace.yields_of_done (each _ enabled))
  obtain ⟨d, member, own⟩ := result_of_mapM made inUse
  have listed : SourceUnit.domainClass d ∈ runUnits c r := by
    refine List.mem_flatMap.2 ⟨_, enabled, ?_⟩
    show _ ∈ (emitDomain c r).items
    rw [units]
    exact List.mem_append_left _ (List.mem_map_of_mem member)
  obtain ⟨a, inArtifacts, written⟩ := result_of_mapM walked listed
  exact ⟨a, inArtifacts, d, own, written⟩

theorem declares_navigation {c : Config} {r : ResolvedModel}
    (completed : (emitModel c r).stopped = none) {e : Entity} (inUse : e ∈ r.usedEntities)
    {n : Navigation} (member : n ∈ e.navigations) :
    DeclaresNavigation c r e n.identifier.display := by
  refine ⟨inUse, fun d made => ?_, fun domain => written_of_used completed domain inUse⟩
  rw [navigations_of_entityClass made, List.map_map]
  exact List.mem_map.2 ⟨n, member, rfl⟩

/-- The members of a key that goes by a navigation of `e` to `d`: the class of `e` declares the one,
and the class of `d` the one that leads back, if the key names one. -/
structure MembersDeclared (c : Config) (r : ResolvedModel) (e d : Entity) (k : ForeignKey) :
    Prop where
  own : DeclaresNavigation c r e k.identifier.display
  back : k.inverseIdentifier.isGiven → DeclaresNavigation c r d k.inverseIdentifier.display

theorem members_declared {c : Config} {r : ResolvedModel}
    (completed : (emitModel c r).stopped = none) {e d : Entity} (inUse : e ∈ r.usedEntities)
    {k : ForeignKey} {n : Navigation} (goes : GoesBy r e k n d) : MembersDeclared c r e d k := by
  constructor
  · rw [goes.takes.identifier]
    exact declares_navigation completed inUse goes.member
  · intro given
    rw [goes.takes.inverse] at given ⊢
    obtain ⟨b, member, _, _, same⟩ := goes.leads.back given
    rw [← same]
    exact declares_navigation completed goes.leads.inUse member

theorem mappingConfiguration_ok {c : Config} {r : ResolvedModel} {x : Mapping}
    {v : EntityConfiguration} (made : mappingConfiguration c r x = .ok v) :
    ∃ t, r.storage.resolveTable? x.table = some t ∧ v.binding.map (·.name) = some t.name ∧
      v.entityType = domainType (bucketText c t.schema) t.entityName.display ∧
      t.foreignKeys.mapM (relationship r t v.entityType) = .ok v.relationships := by
  unfold mappingConfiguration at made
  split at made
  · rename_i t resolved
    refine ⟨t, resolved, ?_⟩
    simp only [tableConfiguration, tableBinding, bind_ok, pure_ok] at made
    obtain ⟨bucket, placed, _, _, _, ⟨_, _, rfl⟩, _, walked, rfl⟩ := made
    exact ⟨rfl, by rw [bucketText_of_ok placed], walked⟩
  · cases made

theorem relationships_of_artifact {c : Config} {r : ResolvedModel}
    (completed : (emitModel c r).stopped = none) {a : Artifact}
    (written : a ∈ artifactsOf (emitModel c r)) (kind : a.kind = .configuration) :
    ∃ v, (SourceUnit.entityConfiguration v).artifact c = .ok a ∧
      (v.relationships = [] ∨ ∃ x ∈ r.mappings, mappingConfiguration c r x = .ok v) := by
  obtain ⟨each, walked⟩ := emitModel_ok completed
  obtain ⟨u, listed, made⟩ := source_of_mapM walked written
  obtain ⟨e, enabled, own⟩ := List.mem_flatMap.1 listed
  have ran := Trace.yields_of_done (each e enabled)
  have same : e.kind = .configuration := by
    rw [← kind_of_units ran u own, ← kind_of_artifact made, kind]
  cases e with
  | mappingConfiguration =>
    obtain ⟨fragments, fragmentsMade, units⟩ := emitConfigurations_ok ran
    rw [units] at own
    rcases List.mem_append.1 own with mapped | returned
    · obtain ⟨v, kept, rfl⟩ := List.mem_map.1 mapped
      obtain ⟨path, inFragments⟩ := mem_of_firstOfPath kept
      obtain ⟨x, member, found⟩ := source_of_mapM fragmentsMade inFragments
      simp only [fragment, bind_ok, pure_ok, Prod.mk.injEq] at found
      obtain ⟨_, configured, _, _, rfl, _⟩ := found
      exact ⟨_, made, .inr ⟨x, member, configured⟩⟩
    · obtain ⟨t, _, rfl⟩ := List.mem_map.1 returned
      exact ⟨_, made, .inl rfl⟩
  | schemaConstants | domainModel | context | repository => cases same

/-- Where a relationship of a configuration comes from: from a foreign key of the table `t` of the
mapping `x`. The table's keys are named after `e`, which is the configuration's own entity where
nothing is ambiguous. -/
structure ComesFrom (c : Config) (r : ResolvedModel) (v : EntityConfiguration) (s : Relationship)
    (x : Mapping) (t : Table) (e : Entity) (k : ForeignKey) : Prop where
  mapping : x ∈ r.mappings
  table : r.storage.resolveTable? x.table = some t
  binding : v.binding.map (·.name) = some t.name
  entity : keyEntity? r t = some e
  key : k ∈ t.foreignKeys
  names : NamesMembers k s
  own : Unambiguous r → x.entity = e.name ∧
    v.entityType = domainType (bucketText c t.schema) e.fixedName.display

/-- The key goes by a navigation, and the classes of both entities declare what it names. The other
entity has a table with the fixed name of the key's target table `u`, and is the one that `u` is
bound to where nothing is ambiguous. -/
structure Navigates (c : Config) (r : ResolvedModel) (e d : Entity) (u : Table) (k : ForeignKey)
    (n : Navigation) : Prop where
  goes : GoesBy r e k n d
  declared : MembersDeclared c r e d k
  target : r.storage.tables.find? k.table = some u
  fixedName : u.fixedName = n.targetFixedName
  bound : Unambiguous r → Mapped r u d ∧ u.entityName = d.fixedName

/-- What a relationship names is declared by the domain classes wherever its key has taken a
navigation. A key that no navigation is left for names a member of its own and none that leads
back. -/
theorem relationship_members {c : Config} {root : Xml.Element} {r : ResolvedModel}
    (resolved : (readAndBind c root).outcome = .ok r)
    (completed : (emitModel c r).stopped = none) :
    ∀ a ∈ artifactsOf (emitModel c r), a.kind = .configuration →
      ∃ v, (SourceUnit.entityConfiguration v).artifact c = .ok a ∧
        ∀ s ∈ v.relationships, ∃ x t e k, ComesFrom c r v s x t e k ∧
          ((∃ n d u, Navigates c r e d u k n) ∨
            Unpaired (takenNames t e) e.navigations t.foreignKeys k) := by
  intro a written kind
  obtain ⟨v, made, source⟩ := relationships_of_artifact completed written kind
  refine ⟨v, made, fun s listed => ?_⟩
  obtain ⟨_, _, storage, conceptual, mappings, links, named, _, _, model⟩ :=
    readAndBind_ok resolved
  rcases source with nothing | ⟨x, member, configured⟩
  · rw [nothing] at listed
    cases listed
  · obtain ⟨t, table, binding, entityType, walked⟩ := mappingConfiguration_ok configured
    obtain ⟨k, key, related⟩ := source_of_mapM walked listed
    obtain ⟨e, inUse, entity, each⟩ := model.members_of_keys member table
    obtain ⟨⟨u, target, fixedName⟩, paired⟩ := each k key
    have mapped := mapped_of_keyEntity table entity
    refine ⟨x, t, e, k, ⟨member, table, binding, entity, key, relationship_ok related, ?_⟩, ?_⟩
    · intro clear
      rw [entityType, clear.bound model.stages mapped]
      exact ⟨clear.entity model.stages member table mapped, rfl⟩
    · refine paired.imp_left ?_
      rintro ⟨n, d, goes⟩
      refine ⟨n, d, u, goes, members_declared completed inUse goes, target, ?_, fun clear => ?_⟩
      · rw [fixedName, goes.takes.fits.2]
      · have mappedToo := clear.target goes target fixedName
        exact ⟨mappedToo, clear.bound model.stages mappedToo⟩

section sales

/-- Orders of customers. Who buys is an association of both models, who pays of the tables alone. -/
def salesDocument : Xml.Element :=
  let joins (name column : String) : Xml.Element :=
    .plain "Association" [("Name", name)]
      [.plain "End" [("Role", "C"), ("Type", "Customers"), ("Multiplicity", "1")] [],
       .plain "End" [("Role", "O"), ("Type", "Orders"), ("Multiplicity", "*")] [],
       .plain "ReferentialConstraint" []
        [.plain "Principal" [("Role", "C")] [.plain "PropertyRef" [("Name", "Id")] []],
         .plain "Dependent" [("Role", "O")] [.plain "PropertyRef" [("Name", column)] []]]]
  document
    [.plain "EntityType" [("Name", "Orders")]
      [.plain "Property" [("Name", "BuyerId"), ("Type", "int")] [],
       .plain "Property" [("Name", "PayerId"), ("Type", "int")] []],
     .plain "EntityType" [("Name", "Customers")]
      [.plain "Property" [("Name", "Id"), ("Type", "int")] []],
     joins "Buys" "BuyerId", joins "Pays" "PayerId"]
    [.plain "EntityType" [("Name", "Order")] [], .plain "EntityType" [("Name", "Customer")] [],
     .plain "Association" [("Name", "Buys")]
      [.plain "End" [("Type", "Customer"), ("Multiplicity", "1")] [],
       .plain "End" [("Type", "Order"), ("Multiplicity", "*")] []]]
    [.plain "EntitySetMapping" [("TypeName", "Order"), ("StoreEntitySet", "Orders")] [],
     .plain "EntitySetMapping" [("TypeName", "Customer"), ("StoreEntitySet", "Customers")] []]

def relationshipCalls : SourceUnit → List String
  | .entityConfiguration v => v.relationships.flatMap (·.calls)
  | _ => []

def navigationNames : SourceUnit → List String
  | .domainClass d => d.navigations.map (·.name)
  | _ => []

/-- What is emitted for the sales: configurations from unambiguous mappings, one of which relates
the orders to those who pay by a member that no class declares. -/
structure SalesEmitted (r : ResolvedModel) : Prop where
  completed : (emitModel (.ofSettings .defaults) r).stopped = none
  fixedNames : (r.storage.tables.entries.map (·.fixedName)).Nodup
  reached : (r.mappings.map (reachedName r)).Nodup
  configured : ∃ a ∈ artifactsOf (emitModel (.ofSettings .defaults) r), a.kind = .configuration
  called : "HasOne(x => x.Customers1)" ∈
    (runUnits (.ofSettings .defaults) r).flatMap relationshipCalls
  declared : (runUnits (.ofSettings .defaults) r).flatMap navigationNames = ["Orders", "Customers"]

instance : DecidablePred SalesEmitted := fun r =>
  decidable_of_iff
    ((emitModel (.ofSettings .defaults) r).stopped = none ∧
      (r.storage.tables.entries.map (·.fixedName)).Nodup ∧
      (r.mappings.map (reachedName r)).Nodup ∧
      (∃ a ∈ artifactsOf (emitModel (.ofSettings .defaults) r), a.kind = .configuration) ∧
      "HasOne(x => x.Customers1)" ∈
        (runUnits (.ofSettings .defaults) r).flatMap relationshipCalls ∧
      (runUnits (.ofSettings .defaults) r).flatMap navigationNames = ["Orders", "Customers"])
    ⟨fun h => ⟨h.1, h.2.1, h.2.2.1, h.2.2.2.1, h.2.2.2.2.1, h.2.2.2.2.2⟩,
      fun h => ⟨h.1, h.2, h.3, h.4, h.5, h.6⟩⟩

set_option maxRecDepth 100000 in
theorem sales_emitted :
    ∃ r, (readAndBind (.ofSettings .defaults) salesDocument).outcome = .ok r ∧ SalesEmitted r :=
  ok_of_any (by decide +kernel)

theorem sales_members :
    ∃ r a v, (readAndBind (.ofSettings .defaults) salesDocument).outcome = .ok r ∧
      (emitModel (.ofSettings .defaults) r).stopped = none ∧ Unambiguous r ∧
      a ∈ artifactsOf (emitModel (.ofSettings .defaults) r) ∧ a.kind = .configuration ∧
      (SourceUnit.entityConfiguration v).artifact (.ofSettings .defaults) = .ok a ∧
      ∀ s ∈ v.relationships, ∃ x t e k, ComesFrom (.ofSettings .defaults) r v s x t e k ∧
        ((∃ n d u, Navigates (.ofSettings .defaults) r e d u k n) ∨
          Unpaired (takenNames t e) e.navigations t.foreignKeys k) := by
  obtain ⟨r, resolved, sales⟩ := sales_emitted
  obtain ⟨a, written, kind⟩ := sales.configured
  obtain ⟨v, made, members⟩ := relationship_members resolved sales.completed a written kind
  exact ⟨r, a, v, resolved, sales.completed, unambiguous_of_nodup sales.fixedNames sales.reached,
    written, kind, made, members⟩

/-- The relationship of an order to the customer who pays names a member that no class declares. -/
theorem sales_member_undeclared :
    ∃ r, (readAndBind (.ofSettings .defaults) salesDocument).outcome = .ok r ∧
      (emitModel (.ofSettings .defaults) r).stopped = none ∧
      (runUnits (.ofSettings .defaults) r).mapM (·.artifact (.ofSettings .defaults)) =
        .ok (artifactsOf (emitModel (.ofSettings .defaults) r)) ∧
      "HasOne(x => x.Customers1)" ∈
        (runUnits (.ofSettings .defaults) r).flatMap relationshipCalls ∧
      "Customers1" ∉ (runUnits (.ofSettings .defaults) r).flatMap navigationNames := by
  obtain ⟨r, resolved, sales⟩ := sales_emitted
  refine ⟨r, resolved, sales.completed, (emitModel_ok sales.completed).2, sales.called, ?_⟩
  rw [sales.declared]
  decide

end sales

end EntityScaffold.Emission
