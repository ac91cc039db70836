import EntityScaffold.Proofs.Outcomes
import EntityScaffold.Reading.Conceptual

/-!
Navigations that reading leaves on entities. Every entity begins without any; then each association
adds the navigations of its two ends, so an entity has those of all associations in document order,
two of them where an association joins it with itself.
-/
namespace EntityScaffold.Reading
open Naming Xml

def EntityAssociation.navigationsAt (entity : String) (a : EntityAssociation) : List Navigation :=
  (if a.first.1 = entity then [a.firstNavigation] else []) ++
    (if a.second.1 = entity then [a.secondNavigation] else [])

def entityAssociations (m : ConceptualModel) (root : Element) :
    Except Fault (List EntityAssociation) := do
  match ← schemaIn? root "ConceptualModels" with
  | none => return []
  | some schema => readEntityAssociations m schema

theorem association_of_navigation {a : EntityAssociation} {entity : String} {n : Navigation}
    (member : n ∈ a.navigationsAt entity) : n.association = a.name := by
  simp only [EntityAssociation.navigationsAt, List.mem_append] at member
  rcases member with first | second
  · split at first
    · rw [List.mem_singleton.1 first]; rfl
    · cases first
  · split at second
    · rw [List.mem_singleton.1 second]; rfl
    · cases second

theorem mem_navigationsAt {a : EntityAssociation} {entity : String} {n : Navigation} :
    n ∈ a.navigationsAt entity ↔
      a.first.1 = entity ∧ n = a.firstNavigation ∨ a.second.1 = entity ∧ n = a.secondNavigation := by
  simp only [EntityAssociation.navigationsAt, List.mem_append, List.mem_ite_nil_right,
    List.mem_singleton]

theorem find_addNavigation (m : ConceptualModel) (n : Navigation) (name : String) :
    (addNavigation m n).entities.find? name =
      (m.entities.find? name).map fun e =>
        { e with navigations := e.navigations ++ if n.entityName = name then [n] else [] } := by
  simp only [addNavigation, ConceptualModel.modifyEntity, Catalog.find?_modify]
  cases found : m.entities.find? name with
  | none => rfl
  | some e =>
    have named : Keyed.key e = name := Catalog.key_of_find? found
    by_cases same : n.entityName = name
    · simp [named, same]
    · simp [named, same, Ne.symm same]

theorem find_joinEntities (m : ConceptualModel) (a : EntityAssociation) (name : String) :
    (joinEntities m a).entities.find? name =
      (m.entities.find? name).map fun e =>
        { e with navigations := e.navigations ++ a.navigationsAt name } := by
  rw [joinEntities, find_addNavigation, find_addNavigation]
  cases m.entities.find? name with
  | none => rfl
  | some e =>
    simp only [Option.map_some, List.append_assoc]
    rfl

theorem find_joinedEntities (associations : List EntityAssociation) (m : ConceptualModel)
    (name : String) :
    (associations.foldl joinEntities m).entities.find? name =
      (m.entities.find? name).map fun e =>
        { e with navigations := e.navigations ++ associations.flatMap (·.navigationsAt name) } := by
  induction associations generalizing m with
  | nil => cases h : m.entities.find? name <;> simp [h]
  | cons a rest ih =>
    rw [List.foldl_cons, ih, find_joinEntities]
    cases m.entities.find? name <;> simp

theorem keys_addNavigation (m : ConceptualModel) (n : Navigation) :
    (addNavigation m n).entities.keys = m.entities.keys := by
  simp only [addNavigation, ConceptualModel.modifyEntity, Catalog.keys_modify]

theorem keys_joinedEntities (associations : List EntityAssociation) (m : ConceptualModel) :
    (associations.foldl joinEntities m).entities.keys = m.entities.keys := by
  induction associations generalizing m with
  | nil => rfl
  | cons a rest ih =>
    rw [List.foldl_cons, ih, joinEntities, keys_addNavigation, keys_addNavigation]

/-- Reading an association asks a model only which entities it has. -/
theorem readEntityAssociations_of_keys {m n : ConceptualModel}
    (same : m.entities.keys = n.entities.keys) (schema : Element) :
    readEntityAssociations m schema = readEntityAssociations n schema := by
  have contains (entity : String) : m.entities.contains entity = n.entities.contains entity := by
    rw [Bool.eq_iff_iff, Catalog.contains_iff, Catalog.contains_iff, same]
  have ends : readEntityEnd m = readEntityEnd n := by
    funext name node
    simp only [readEntityEnd, contains]
  have associations : readEntityAssociation m = readEntityAssociation n := by
    funext node
    simp only [readEntityAssociation, ends]
  simp only [readEntityAssociations, associations]

theorem entityAssociations_of_keys {m n : ConceptualModel}
    (same : m.entities.keys = n.entities.keys) (root : Element) :
    entityAssociations m root = entityAssociations n root := by
  simp only [entityAssociations, readEntityAssociations_of_keys same]

theorem others_joinedEntities (associations : List EntityAssociation) (m : ConceptualModel) :
    (associations.foldl joinEntities m).complexTypes = m.complexTypes ∧
      (associations.foldl joinEntities m).functions = m.functions := by
  induction associations generalizing m with
  | nil => exact ⟨rfl, rfl⟩
  | cons a rest ih => exact ih (joinEntities m a)

/-- A conceptual model that has been read, the one that its associations were read over, and
these. -/
structure ConceptualParts (naming : NamingRules) (schema : Element) (s m : ConceptualModel)
    (associations : List EntityAssociation) : Prop where
  entities : ∀ e ∈ m.entities.entries, ∃ node, (readEntity naming node).outcome = .ok e
  complexTypes : ∀ t ∈ m.complexTypes.entries,
    ∃ node, (readComplexType naming node).outcome = .ok t
  functions : ∀ f ∈ m.functions.entries, ∃ node,
    (readFunctionImport naming { m with functions := .empty } node).outcome = .ok f
  walked : readEntityAssociations m schema = .ok associations
  joined : s = associations.foldl joinEntities m

theorem readConceptualSchema_parts {naming : NamingRules} {schema : Element} {s : ConceptualModel}
    (read : (readConceptualSchema naming schema).outcome = .ok s) :
    ∃ m associations, ConceptualParts naming schema s m associations := by
  simp only [readConceptualSchema, Noted.outcome_bind_eq_ok, Noted.outcome_pure_ok,
    Noted.outcome_liftM, Noted.outcome_mapM] at read
  obtain ⟨_, _, entities, madeEntities, _, _, complexTypes, madeTypes, _, _, functions,
    madeFunctions, associations, walked, rfl⟩ := read
  refine ⟨_, associations, ?_, ?_, ?_, walked, rfl⟩
  · intro e member
    obtain ⟨node, _, own⟩ := source_of_mapM madeEntities (Catalog.mem_of_mem_ofList member)
    exact ⟨node, own⟩
  · intro t member
    obtain ⟨node, _, own⟩ := source_of_mapM madeTypes (Catalog.mem_of_mem_ofList member)
    exact ⟨node, own⟩
  · intro f member
    obtain ⟨node, _, own⟩ := source_of_mapM madeFunctions (Catalog.mem_of_mem_ofList member)
    exact ⟨node, own⟩

theorem readConceptual_schema {naming : NamingRules} {root : Element} {s : ConceptualModel}
    (read : (readConceptual naming root).outcome = .ok s) :
    ∃ schema, schemaIn? root "ConceptualModels" = .ok (some schema) ∧
      (readConceptualSchema naming schema).outcome = .ok s := by
  simp only [readConceptual, Noted.outcome_bind_eq_ok] at read
  obtain ⟨schema?, located, read⟩ := read
  cases schema? with
  | none => cases read
  | some schema => exact ⟨schema, located, read⟩

structure FreshEntity (e : Entity) : Prop where
  noNavigations : e.navigations = []
  unused : e.isUsed = false
  noSchema : e.schema = .null

theorem readEntity_fresh {naming : NamingRules} {node : Element} {e : Entity}
    (read : (readEntity naming node).outcome = .ok e) : FreshEntity e := by
  simp only [readEntity, Noted.outcome_bind_eq_ok, Noted.outcome_pure_ok] at read
  obtain ⟨name, _, fixedName, _, keys, _, nodes, _, properties, _, rfl⟩ := read
  exact ⟨rfl, rfl, rfl⟩

/-- An entity as it is read: with the navigations of its associations, and not yet bound. -/
structure ReadEntity (associations : List EntityAssociation) (e : Entity) : Prop where
  navigations : e.navigations = associations.flatMap (·.navigationsAt e.name)
  unused : e.isUsed = false

theorem ReadEntity.fresh {associations : List EntityAssociation} {e : Entity}
    (read : ReadEntity associations e) {n : Navigation} (member : n ∈ e.navigations) :
    n.entityName = e.name ∧ n.inverseIdentifier = .null := by
  rw [read.navigations] at member
  obtain ⟨a, _, own⟩ := List.mem_flatMap.1 member
  rcases mem_navigationsAt.1 own with ⟨starts, rfl⟩ | ⟨starts, rfl⟩ <;> exact ⟨starts, rfl⟩

/-- An entity with its navigations is one without them, joined with all that name it. -/
theorem entity_joined {associations : List EntityAssociation} {m : ConceptualModel} {e : Entity}
    (member : e ∈ (associations.foldl joinEntities m).entities.entries) :
    ∃ old ∈ m.entities.entries,
      e = { old with
        navigations := old.navigations ++ associations.flatMap (·.navigationsAt e.name) } := by
  have found := Catalog.find?_of_mem member
  rw [find_joinedEntities] at found
  obtain ⟨old, earlier, joined⟩ := Option.map_eq_some_iff.1 found
  exact ⟨old, Catalog.mem_of_find? earlier, joined.symm⟩

theorem readConceptualSchema_ok {naming : NamingRules} {schema : Element} {s : ConceptualModel}
    (read : (readConceptualSchema naming schema).outcome = .ok s) :
    ∃ associations, readEntityAssociations s schema = .ok associations ∧
      ∀ e ∈ s.entities.entries, ReadEntity associations e := by
  obtain ⟨m, associations, parts⟩ := readConceptualSchema_parts read
  obtain rfl := parts.joined
  refine ⟨associations, ?_, ?_⟩
  · rw [readEntityAssociations_of_keys (keys_joinedEntities associations m)]
    exact parts.walked
  · intro e member
    obtain ⟨old, earlier, joined⟩ := entity_joined member
    obtain ⟨node, own⟩ := parts.entities old earlier
    have fresh := readEntity_fresh own
    refine ⟨?_, joined ▸ fresh.unused⟩
    have navigations := congrArg Entity.navigations joined
    simpa only [fresh.noNavigations, List.nil_append] using navigations

theorem readConceptual_ok {naming : NamingRules} {root : Element} {s : ConceptualModel}
    (read : (readConceptual naming root).outcome = .ok s) :
    ∃ associations, entityAssociations s root = .ok associations ∧
      ∀ e ∈ s.entities.entries, ReadEntity associations e := by
  obtain ⟨schema, located, made⟩ := readConceptual_schema read
  obtain ⟨associations, walked, entities⟩ := readConceptualSchema_ok made
  refine ⟨associations, ?_, entities⟩
  simp only [entityAssociations, bind_ok]
  exact ⟨some schema, located, walked⟩

end EntityScaffold.Reading
