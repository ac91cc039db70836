import EntityScaffold.Binding.Navigations
import EntityScaffold.Proofs.Binding.Marking
import EntityScaffold.Proofs.Naming.FreeLabels
import EntityScaffold.Proofs.UsedEntities

/-!
Naming of navigations. Naming goes through the navigations of one entity and changes nothing but
what they learn about their targets; linking then adds the names of the ways back, and leaves every
name that was given as it was.
-/
namespace EntityScaffold.Binding

def NamesShow (m : StorageModel) : Prop := ∀ t ∈ m.tables.entries, t.fixedName.isGiven

/-- The end of a navigation: an entity in use and the table that it remembers. -/
structure Target (p : ModelPair) (n : Navigation) (target : Entity) (table : Table) : Prop where
  entity : p.conceptual.entities.find? n.targetName = some target
  used : target.isUsed = true
  table : ∃ name, target.tableName = some name ∧ p.storage.resolveTable? name = some table

theorem targetOf_ok {p : ModelPair} {e target : Entity} {n : Navigation} {table : Table}
    (found : targetOf p e n = .ok (target, table)) : Target p n target table := by
  unfold targetOf at found
  split at found
  · cases found
  · rename_i reached entity
    split at found
    · cases found
    · rename_i reachedTable known
      cases found
      obtain ⟨name, kept, resolved⟩ := Option.bind_eq_some_iff.1 known
      obtain ⟨remembered, used⟩ := Option.filter_eq_some_iff.1 kept
      exact ⟨entity, used, name, remembered, resolved⟩

structure NamedNavigation (p : ModelPair) (n named : Navigation) : Prop where
  target : ∃ target table, Target p n target table ∧
    named = { n with
      targetFixedName := table.fixedName
      targetTypeName := target.fixedName
      targetSchema := table.schema
      identifier := named.identifier }
  shows : NamesShow p.storage → named.identifier.isGiven
  atom : named.identifier.atom = .ok named.identifier

namespace NamedNavigation

variable {p : ModelPair} {n named : Navigation}

theorem association (given : NamedNavigation p n named) : named.association = n.association := by
  obtain ⟨_, _, _, made⟩ := given.target
  rw [made]

theorem entityName (given : NamedNavigation p n named) : named.entityName = n.entityName := by
  obtain ⟨_, _, _, made⟩ := given.target
  rw [made]

theorem targetName (given : NamedNavigation p n named) : named.targetName = n.targetName := by
  obtain ⟨_, _, _, made⟩ := given.target
  rw [made]

theorem multiplicity (given : NamedNavigation p n named) :
    named.multiplicity = n.multiplicity := by
  obtain ⟨_, _, _, made⟩ := given.target
  rw [made]

end NamedNavigation

/-- The navigations of one entity after naming: no two share a name, and none has a taken one. -/
structure NamedNavigations (p : ModelPair) (taken : List Label) (read named : List Navigation) :
    Prop where
  each : List.Forall₂ (NamedNavigation p) read named
  distinct : (named.map (·.identifier)).Nodup
  free : ∀ n ∈ named, n.identifier ∉ taken

theorem nameNavigations_ok {p : ModelPair} {e : Entity} {taken : List Label}
    {read named : List Navigation} (ok : nameNavigations p e taken read = .ok named) :
    NamedNavigations p taken read named := by
  induction read generalizing taken named with
  | nil =>
    cases ok
    exact ⟨.nil, List.nodup_nil, by simp⟩
  | cons n rest ih =>
    simp only [nameNavigations, bind_ok, pure_ok] at ok
    obtain ⟨⟨target, table⟩, aimed, identifier, freed, others, walked, rfl⟩ := ok
    obtain ⟨each, distinct, free⟩ := ih walked
    have reached := targetOf_ok aimed
    obtain ⟨untaken, shows⟩ := Naming.freeLabel_ok freed
    have fresh : identifier ∉ taken := by simpa using untaken
    refine ⟨.cons ⟨⟨target, table, reached, rfl⟩, ?_, Naming.freeLabel_atom freed⟩ each, ?_, ?_⟩
    · intro all
      obtain ⟨_, _, resolved⟩ := reached.table
      exact shows (all table (mem_of_resolveTable resolved))
    · refine List.nodup_cons.2 ⟨?_, distinct⟩
      intro again
      obtain ⟨m, member, same⟩ := List.mem_map.1 again
      exact free m member (same ▸ List.mem_cons_self ..)
    · intro m member
      rcases List.mem_cons.1 member with rfl | later
      · exact fresh
      · exact fun listed => free m later (List.mem_cons_of_mem _ listed)

/-- An entity and what naming makes of it: only entities in use get names. -/
structure NamedEntity (p : ModelPair) (e named : Entity) : Prop where
  unused : e.isUsed = false → named = e
  used : e.isUsed = true → ∃ taken navigations, memberScope e = .ok taken ∧
    NamedNavigations p taken e.navigations navigations ∧
    named = { e with navigations := navigations }

theorem NamedEntity.keeps {p : ModelPair} {e named : Entity} (own : NamedEntity p e named) :
    e.isUsed = named.isUsed ∧ e.fixedName = named.fixedName ∧ e.schema = named.schema := by
  cases used : e.isUsed with
  | false =>
    rw [own.unused used, used]
    exact ⟨rfl, rfl, rfl⟩
  | true =>
    obtain ⟨_, _, _, _, rfl⟩ := own.used used
    exact ⟨used.symm, rfl, rfl⟩

theorem nameEntity_ok {p : ModelPair} {e named : Entity} (ok : nameEntity p e = .ok named) :
    ∃ taken navigations, memberScope e = .ok taken ∧
      NamedNavigations p taken e.navigations navigations ∧
      named = { e with navigations := navigations } := by
  simp only [nameEntity, bind_ok, pure_ok] at ok
  obtain ⟨taken, scope, navigations, walked, rfl⟩ := ok
  exact ⟨taken, navigations, scope, nameNavigations_ok walked, rfl⟩

theorem key_nameEntity {p : ModelPair} {e named : Entity} (ok : nameEntity p e = .ok named) :
    Keyed.key named = Keyed.key e := by
  obtain ⟨_, _, _, _, rfl⟩ := nameEntity_ok ok
  rfl

/-- The models before and after naming: the same tables, and the same entities with names. -/
structure NamedModels (p q : ModelPair) : Prop where
  storage : q.storage = p.storage
  complexTypes : q.conceptual.complexTypes = p.conceptual.complexTypes
  functions : q.conceptual.functions = p.conceptual.functions
  keys : q.conceptual.entities.keys = p.conceptual.entities.keys
  entities : ∀ name, Option.Rel (NamedEntity p) (p.conceptual.entities.find? name)
    (q.conceptual.entities.find? name)

theorem nameEntities_ok {p q : ModelPair} (ok : nameEntities p = .ok q) : NamedModels p q := by
  simp only [nameEntities, bind_ok, pure_ok] at ok
  obtain ⟨ordered, listed, named, walked, rfl⟩ := ok
  rw [orderedEntities_ok listed] at walked
  have keys : named.map (fun e => Keyed.key e) = p.conceptual.usedEntities.map fun e =>
      Keyed.key e := Catalog.map_key_of_mapM (fun _ _ => key_nameEntity) walked
  have distinct : (named.map fun e => Keyed.key e).Nodup := by
    rw [keys]
    exact nodup_usedEntities p.conceptual
  refine ⟨rfl, rfl, rfl, Catalog.keys_insertAll_of_mem fun e member => ?_, fun name => ?_⟩
  · obtain ⟨old, inUse, own⟩ := source_of_mapM walked member
    rw [key_nameEntity own]
    exact List.mem_map.2 ⟨old, (mem_usedEntities.1 inUse).1, rfl⟩
  by_cases member : name ∈ named.map fun e => Keyed.key e
  · obtain ⟨e, inNamed, rfl⟩ := List.mem_map.1 member
    obtain ⟨old, inUse, own⟩ := source_of_mapM walked inNamed
    obtain ⟨inModel, used⟩ := mem_usedEntities.1 inUse
    rw [Catalog.find?_insertAll_of_mem _ distinct inNamed, key_nameEntity own,
      Catalog.find?_of_mem inModel]
    exact .some ⟨fun unused => absurd used (by simp [unused]), fun _ => nameEntity_ok own⟩
  · rw [Catalog.find?_insertAll_of_not_mem _ member]
    cases found : p.conceptual.entities.find? name with
    | none => exact .none
    | some e =>
      refine .some ⟨fun _ => rfl, fun used => ?_⟩
      have listed : e ∈ p.conceptual.usedEntities :=
        mem_usedEntities.2 ⟨Catalog.mem_of_find? found, used⟩
      exact absurd (keys ▸ List.mem_map.2 ⟨e, listed, Catalog.key_of_find? found⟩) member

theorem find_linkInverses (p : ModelPair) (name : String) :
    (linkInverses p).conceptual.entities.find? name =
      (p.conceptual.entities.find? name).map (linkEntity p.conceptual) :=
  Catalog.find?_mapEntries _ _ (key_linkEntity p.conceptual) name

section linking

variable (m : ConceptualModel) (e : Entity) (n : Navigation)

theorem linkNavigation_eq : linkNavigation m e n =
    { n with
      inverseIdentifier := ((inverse? m e n).map (·.identifier)).getD n.inverseIdentifier } := by
  unfold linkNavigation
  cases inverse? m e n <;> rfl

@[simp] theorem identifier_linkNavigation : (linkNavigation m e n).identifier = n.identifier := by
  rw [linkNavigation_eq]

@[simp] theorem entityName_linkNavigation : (linkNavigation m e n).entityName = n.entityName := by
  rw [linkNavigation_eq]

@[simp] theorem targetName_linkNavigation : (linkNavigation m e n).targetName = n.targetName := by
  rw [linkNavigation_eq]

@[simp] theorem targetTypeName_linkNavigation :
    (linkNavigation m e n).targetTypeName = n.targetTypeName := by
  rw [linkNavigation_eq]

@[simp] theorem targetSchema_linkNavigation :
    (linkNavigation m e n).targetSchema = n.targetSchema := by
  rw [linkNavigation_eq]

@[simp] theorem association_linkNavigation :
    (linkNavigation m e n).association = n.association := by
  rw [linkNavigation_eq]

@[simp] theorem targetFixedName_linkNavigation :
    (linkNavigation m e n).targetFixedName = n.targetFixedName := by
  rw [linkNavigation_eq]

@[simp] theorem multiplicity_linkNavigation :
    (linkNavigation m e n).multiplicity = n.multiplicity := by
  rw [linkNavigation_eq]

end linking

end EntityScaffold.Binding
