import EntityScaffold.Proofs.Binding.Changes
import EntityScaffold.Proofs.Binding.Inverses
import EntityScaffold.Proofs.Binding.LastMappings

/-!
Members that foreign keys go by. A key that has taken a navigation names a member of the entity
after which the keys of its table are named, and for the way back one of the entity that the
navigation leads to. A key for which no navigation is left has a name of its own and no way back.
-/
namespace EntityScaffold.Binding
open Reading

/-- The navigation is at the same end of the association as the key. -/
def Fits (k : ForeignKey) (n : Navigation) : Prop :=
  n.association = k.association ∧ n.targetFixedName = k.tableFixedName

structure Takes (k : ForeignKey) (n : Navigation) : Prop where
  fits : Fits k n
  identifier : k.identifier = n.identifier
  inverse : k.inverseIdentifier = n.inverseIdentifier

/-- The key has a name that was not taken, leads nowhere back, and of the navigations that fit it
each has been taken by a key of the table. -/
structure Unpaired (taken : List Label) (free : List Navigation) (keys : List ForeignKey)
    (k : ForeignKey) : Prop where
  fresh : k.identifier ∉ taken
  nothingBack : k.inverseIdentifier = .null
  noneLeft : ∀ n ∈ free, Fits k n → ∃ g ∈ keys, Takes g n

theorem fits_of_fitsEnd {k : ForeignKey} {target : Table} {n : Navigation} :
    fitsEnd k target n = true ↔ n.association = k.association ∧
      n.targetFixedName = target.fixedName := by
  simp [fitsEnd]

theorem chosen_none {k : ForeignKey} {target : Table} {free : List Navigation}
    (unchosen : chosen? k target free = none) : ∀ n ∈ free, fitsEnd k target n = false := by
  intro n member
  rw [chosen?, Option.or_eq_none_iff, List.head?_eq_none_iff] at unchosen
  have absent := List.filter_eq_nil_iff.1 unchosen.2 n member
  simpa using absent

theorem nameForeignKeys_members {storage : StorageModel} {own : Table} {taken : List Label}
    {free : List Navigation} {keys named : List ForeignKey}
    (fresh : ∀ k ∈ keys, k.inverseIdentifier = .null)
    (ok : nameForeignKeys storage own taken free keys = .ok named) :
    ∀ k ∈ named, (∃ target, storage.tables.find? k.table = some target ∧
        k.tableFixedName = target.fixedName) ∧
      ((∃ n ∈ free, Takes k n) ∨ Unpaired taken free named k) := by
  induction keys generalizing taken free named with
  | nil =>
    cases ok
    exact fun k member => absurd member List.not_mem_nil
  | cons key rest ih =>
    obtain ⟨first, others, rfl, given, step⟩ := nameForeignKeys_cons ok
    have inRest : ∀ k ∈ rest, k.inverseIdentifier = .null :=
      fun k later => fresh k (List.mem_cons_of_mem key later)
    obtain ⟨target, known, made⟩ := given.target
    have table : first.table = key.table := by rw [made]
    have fixedName : first.tableFixedName = target.fixedName := by rw [made]
    have reaches : ∃ target, storage.tables.find? first.table = some target ∧
        first.tableFixedName = target.fixedName := ⟨target, table ▸ known, fixedName⟩
    have fits (n : Navigation) : Fits first n ↔ fitsEnd key target n = true := by
      rw [fits_of_fitsEnd, Fits, fixedName, given.association]
    obtain ⟨n, member, claimed, walked⟩ | ⟨unclaimed, ⟨untaken, nothingBack⟩, walked⟩ := step
    · have takes : Takes first n := by
        obtain ⟨identifier, inverse⟩ := given.borrowed n claimed
        rw [claim?, known, Option.bind_some] at claimed
        exact ⟨(fits n).2 (chosen_ok claimed).2, identifier, inverse⟩
      intro k inNamed
      rcases List.mem_cons.1 inNamed with rfl | later
      · exact ⟨reaches, .inl ⟨n, member, takes⟩⟩
      · obtain ⟨aimed, paired⟩ := ih inRest walked k later
        refine ⟨aimed, paired.imp ?_ ?_⟩
        · rintro ⟨m, left, own⟩
          exact ⟨m, List.mem_of_mem_erase left, own⟩
        · rintro ⟨fresh, back, noneLeft⟩
          refine ⟨fresh, back, fun m inFree other => ?_⟩
          by_cases same : m = n
          · exact ⟨first, List.mem_cons_self .., same ▸ takes⟩
          · obtain ⟨g, inOthers, own⟩ := noneLeft m ((List.mem_erase_of_ne same).2 inFree) other
            exact ⟨g, List.mem_cons_of_mem first inOthers, own⟩
    · rw [claim?, known, Option.bind_some] at unclaimed
      intro k inNamed
      rcases List.mem_cons.1 inNamed with rfl | later
      · refine ⟨reaches, .inr ⟨untaken, nothingBack.trans (fresh key (by simp)), ?_⟩⟩
        intro n inFree own
        rw [fits, chosen_none unclaimed n inFree] at own
        cases own
      · obtain ⟨aimed, paired⟩ := ih inRest walked k later
        refine ⟨aimed, paired.imp_right ?_⟩
        rintro ⟨fresh, back, noneLeft⟩
        refine ⟨fun before => fresh (List.mem_cons_of_mem _ before), back, fun m inFree other => ?_⟩
        obtain ⟨g, inOthers, own⟩ := noneLeft m inFree other
        exact ⟨g, List.mem_cons_of_mem first inOthers, own⟩

/-- Where a navigation of `e` leads: to an entity in use, one of whose tables the navigation is
named after, and back by a navigation of that entity, if it knows a way back. -/
structure Leads (r : ResolvedModel) (e : Entity) (n : Navigation) (d : Entity) : Prop where
  inUse : d ∈ r.usedEntities
  name : d.name = n.targetName
  table : ∃ w, Mapped r w d ∧ w.fixedName = n.targetFixedName
  back : n.inverseIdentifier.isGiven → ∃ b ∈ d.navigations, b.association = n.association ∧
    b.targetName = e.name ∧ b.identifier = n.inverseIdentifier

/-- The names that a key of `t` which goes by no navigation of `e` may not have. -/
def takenNames (t : Table) (e : Entity) : List Label :=
  t.fixedName :: e.ownNames ++ (e.navigations.map (·.identifier)).filter Label.isGiven

structure GoesBy (r : ResolvedModel) (e : Entity) (k : ForeignKey) (n : Navigation)
    (d : Entity) : Prop where
  member : n ∈ e.navigations
  takes : Takes k n
  leads : Leads r e n d

namespace ReadStages

variable {stored : List TableAssociation} {joined : List EntityAssociation}
  {storage : StorageModel} {conceptual : ConceptualModel} {mappings : List Mapping}
  {links : List Link} {named : ModelPair} {r : ResolvedModel}

theorem fresh_key
    (model : ReadStages stored joined storage conceptual mappings links named r) {t : Table}
    (inRead : t ∈ storage.tables.entries) {k : ForeignKey} (member : k ∈ t.foreignKeys) :
    k.inverseIdentifier = .null := by
  rw [(model.tables t inRead).keys] at member
  obtain ⟨a, _, own⟩ := List.mem_flatMap.1 member
  simp only [TableAssociation.keysAt, List.mem_append, List.mem_ite_nil_right,
    List.mem_singleton] at own
  rcases own with ⟨_, rfl⟩ | ⟨_, rfl⟩ <;> rfl

theorem back_of_navigation
    (model : ReadStages stored joined storage conceptual mappings links named r) {e d : Entity}
    (inUse : e ∈ r.usedEntities) {n : Navigation} (member : n ∈ e.navigations)
    (target : d ∈ r.usedEntities) (name : d.name = n.targetName)
    (given : n.inverseIdentifier.isGiven) :
    ∃ b ∈ d.navigations, b.association = n.association ∧ b.targetName = e.name ∧
      b.identifier = n.inverseIdentifier := by
  have known : n.inverseIdentifier ≠ .null := fun nothing => by
    rw [nothing] at given
    cases given
  obtain ⟨f, b, wayBack⟩ := model.stages.wayBack_of_given model.entities inUse member known
  have same := wayBack.target
  rw [← name, show r.conceptual.entities.find? d.name = some d from
    Catalog.find?_of_mem (mem_usedEntities.1 target).1, Option.some.injEq] at same
  subst same
  exact ⟨b, wayBack.member, wayBack.association, wayBack.leads, wayBack.named.symm⟩

theorem leads_of_navigation
    (model : ReadStages stored joined storage conceptual mappings links named r) {e : Entity}
    (inUse : e ∈ r.usedEntities) {n : Navigation} (member : n ∈ e.navigations) :
    ∃ d, Leads r e n d := by
  obtain ⟨d, target, name, _, _⟩ :=
    model.stages.target_of_navigation model.unused inUse member
  refine ⟨d, target, name, ?_, model.back_of_navigation inUse member target name⟩
  obtain ⟨inModel, used⟩ := mem_usedEntities.1 inUse
  obtain ⟨read, navigations, bound⟩ := model.stages.used_entity (Catalog.find?_of_mem inModel) used
  obtain ⟨_, _, naming⟩ := bound.scope
  rw [bound.made] at member
  obtain ⟨before, inNamed, rfl⟩ := List.mem_map.1 member
  obtain ⟨first, _, made⟩ := related_of_mem_right naming.each inNamed
  obtain ⟨marked, table, reached, same⟩ := made.target
  obtain ⟨l, inLinks, _, entity, located, _⟩ :=
    model.stages.table_of_target model.unused reached
  obtain ⟨x, inMappings, linked⟩ := related_of_mem_right model.stages.linked inLinks
  obtain ⟨keys, resolved⟩ := model.stages.table_of_linked inLinks linked
  have leads : x.entity = d.name := by
    rw [name, targetName_linkNavigation, made.targetName, ← entity]
    exact (Catalog.key_of_find? linked.entity).symm
  refine ⟨_, ⟨x, model.stages.mappings ▸ inMappings, resolved, ?_⟩, ?_⟩
  · rw [leads]
    exact Catalog.find?_of_mem (mem_usedEntities.1 target).1
  · have named : before.targetFixedName = table.fixedName := by rw [same]
    rw [targetFixedName_linkNavigation, named, located]

/-- The keys of a mapped table, named after the entity of its first mapping: each goes by one of its
navigations, or has no navigation left. -/
theorem members_of_keys
    (model : ReadStages stored joined storage conceptual mappings links named r) {x : Mapping}
    {t : Table} (member : x ∈ r.mappings) (resolved : r.storage.resolveTable? x.table = some t) :
    ∃ e ∈ r.usedEntities, keyEntity? r t = some e ∧ ∀ k ∈ t.foreignKeys,
      (∃ u, r.storage.tables.find? k.table = some u ∧ u.fixedName = k.tableFixedName) ∧
        ((∃ n d, GoesBy r e k n d) ∨
          Unpaired (takenNames t e) e.navigations t.foreignKeys k) := by
  obtain ⟨l, first, namedAfter⟩ := model.stages.first_link member resolved
  have own : l.table.name = t.name := by simpa using List.find?_some first
  rw [← own] at first
  obtain ⟨e, taken, keys, found, scope, walked, inResult⟩ := model.stages.mapped_table first
  have inLinks := List.mem_of_find?_eq_some first
  have inUse : e ∈ r.usedEntities := mem_usedEntities.2
    ⟨Catalog.mem_of_find? found, model.stages.used_of_link inLinks found⟩
  have known := model.stages.known_table inLinks
  have made : t = { markedTable links l.table with foreignKeys := keys } := by
    rw [own, show r.storage.tables.find? t.name = some t from
      Catalog.find?_of_mem (mem_of_resolveTable resolved)] at inResult
    exact Option.some.inj inResult
  have names : taken = takenNames t e := by
    rw [keyScope_ok scope, takenNames, made]
    simp [Entity.ownNames]
  have each := nameForeignKeys_members
    (fun k inRead => model.fresh_key (Catalog.mem_of_find? known) inRead) walked
  rw [names] at each
  have own_keys : t.foreignKeys = keys := by rw [made]
  refine ⟨e, inUse, namedAfter.trans found, fun k inKeys => ?_⟩
  rw [own_keys] at inKeys ⊢
  obtain ⟨⟨target, aimed, fixedName⟩, paired⟩ := each k inKeys
  constructor
  · rw [model.stages.find_marked_table] at aimed
    obtain ⟨before, inRead, rfl⟩ := Option.map_eq_some_iff.1 aimed
    have present : k.table ∈ r.storage.tables.keys := by
      rw [model.stages.keys_tables, ← Catalog.find?_isSome_iff, inRead]
      rfl
    obtain ⟨u, inBound⟩ := Option.isSome_iff_exists.1 ((Catalog.find?_isSome_iff _ _).2 present)
    obtain ⟨read, _, inReadToo, rfl⟩ := model.stages.table_source inBound
    cases inRead.symm.trans inReadToo
    exact ⟨_, inBound, fixedName.symm⟩
  · refine paired.imp_left ?_
    rintro ⟨n, inNavigations, takes⟩
    obtain ⟨d, leads⟩ := model.leads_of_navigation inUse inNavigations
    exact ⟨n, d, inNavigations, takes, leads⟩

end ReadStages

section unambiguous

/-- No two tables have one fixed name, and no two entities are mapped to one table. -/
structure Unambiguous (r : ResolvedModel) : Prop where
  tables : ∀ t ∈ r.storage.tables.entries, ∀ u ∈ r.storage.tables.entries,
    t.fixedName = u.fixedName → t.name = u.name
  entities : ∀ t e d, Mapped r t e → Mapped r t d → e.name = d.name

variable {r : ResolvedModel} {t u : Table} {e d : Entity}

def reachedName (r : ResolvedModel) (x : Mapping) : Option String :=
  (r.storage.resolveTable? x.table).map (·.name)

theorem unambiguous_of_nodup (fixedNames : (r.storage.tables.entries.map (·.fixedName)).Nodup)
    (reached : (r.mappings.map (reachedName r)).Nodup) : Unambiguous r := by
  refine ⟨fun t inModel u inModelToo same => ?_, ?_⟩
  · rw [List.inj_on_of_nodup_map fixedNames inModel inModelToo same]
  · rintro t e d ⟨x, member, table, entity⟩ ⟨y, memberToo, tableToo, entityToo⟩
    have same : reachedName r x = reachedName r y := by
      rw [reachedName, reachedName, table, tableToo]
    cases List.inj_on_of_nodup_map reached member memberToo same
    cases entity.symm.trans entityToo
    rfl

theorem mapped_of_keyEntity {x : Mapping} (resolved : r.storage.resolveTable? x.table = some t)
    (first : keyEntity? r t = some e) : Mapped r t e := by
  obtain ⟨y, found, entity⟩ := Option.bind_eq_some_iff.1 first
  have own : (r.storage.resolveTable? y.table).map (·.name) = some t.name := by
    simpa using List.find?_some found
  obtain ⟨w, reached, name⟩ := Option.map_eq_some_iff.1 own
  have same : w = t :=
    Catalog.eq_of_key_eq (mem_of_resolveTable reached) (mem_of_resolveTable resolved) name
  exact ⟨y, List.mem_of_find?_eq_some found, same ▸ reached, entity⟩

variable {storage : StorageModel} {conceptual : ConceptualModel} {mappings : List Mapping}
  {links : List Link} {named : ModelPair}

theorem Unambiguous.bound (clear : Unambiguous r)
    (stages : Stages storage conceptual mappings links named r) (mapped : Mapped r t e) :
    t.entityName = e.fixedName := by
  obtain ⟨x, member, resolved, _⟩ := id mapped
  obtain ⟨u, last, reached, found, entityName⟩ := stages.entityName_of_last member
  cases resolved.symm.trans reached
  obtain ⟨w, mappedToo, name⟩ := mapped_of_lastEntity found
  have table := Stages.find_mapped_table mappedToo
  rw [name, Stages.find_mapped_table mapped, Option.some.injEq] at table
  have same := clear.entities t e last mapped (table ▸ mappedToo)
  have entity := Stages.find_mapped_entity mappedToo
  rw [← same, Stages.find_mapped_entity mapped, Option.some.injEq] at entity
  rw [entityName, entity]

theorem Unambiguous.entity (clear : Unambiguous r)
    (stages : Stages storage conceptual mappings links named r) {x : Mapping}
    (member : x ∈ r.mappings) (resolved : r.storage.resolveTable? x.table = some t)
    (mapped : Mapped r t e) : x.entity = e.name := by
  obtain ⟨l, inLinks, _, entity, _⟩ := stages.link_of_mapping member
  obtain ⟨own, found⟩ := stages.find_linked_entity inLinks
  rw [entity] at found
  have same : own.name = x.entity := Catalog.key_of_find? found
  exact same.symm.trans (clear.entities t own e ⟨x, member, resolved, found⟩ mapped)

theorem Unambiguous.target (clear : Unambiguous r) {k : ForeignKey} {n : Navigation}
    (goes : GoesBy r e k n d) (found : r.storage.tables.find? k.table = some u)
    (fixedName : u.fixedName = k.tableFixedName) : Mapped r u d := by
  obtain ⟨w, mapped, named⟩ := goes.leads.table
  have same : w.name = u.name := by
    refine clear.tables w ?_ u (Catalog.mem_of_find? found) ?_
    · exact Catalog.mem_of_find? (Stages.find_mapped_table mapped)
    · rw [named, goes.takes.fits.2, fixedName]
  have table := Stages.find_mapped_table mapped
  rw [same, show r.storage.tables.find? u.name = some u from
    Catalog.find?_of_mem (Catalog.mem_of_find? found), Option.some.injEq] at table
  exact table ▸ mapped

end unambiguous

end EntityScaffold.Binding
