import EntityScaffold.Proofs.Catalogs
import EntityScaffold.Registry

/-!
Registries after any calls. A call enters aliases of the kind it registers only, and a kind that goes
takes its aliases with it, whether or not the calls before came to their end. So an alias always
leads to a kind, and a name has an emitter exactly when it is supported.
-/
namespace EntityScaffold

inductive RegistryCall (ε : Type) where
  | register (kind : Label) (emitter : Option ε) (aliases : Label) (replace : Bool)
  | unregister (kind : String)

/-- What a call leaves behind, also where it is refused. -/
def RegistryCall.apply {ε : Type} (r : Registry ε) : RegistryCall ε → Registry ε
  | .register kind emitter aliases replace => (r.register kind emitter aliases replace).1
  | .unregister kind => r.unregister kind

namespace Registry

variable {ε : Type}

def after (calls : List (RegistryCall ε)) : Registry ε := calls.foldl RegistryCall.apply empty

def AliasesLead (r : Registry ε) : Prop := ∀ a ∈ r.aliases.entries, a.kind ∈ r.kinds.keys

section calls

variable {r : Registry ε} {kind : String} {replace : Bool}

/-- What entering aliases of a kind does: the kinds stay, and whatever alias is new is the kind's. -/
structure AliasesAdded (kind : String) (r s : Registry ε) : Prop where
  kinds : s.kinds = r.kinds
  aliases : ∀ a ∈ s.aliases.entries, a ∈ r.aliases.entries ∨ a.kind = kind

theorem AliasesAdded.refl (kind : String) (r : Registry ε) : AliasesAdded kind r r :=
  ⟨rfl, fun _ member => .inl member⟩

theorem AliasesAdded.trans {s t : Registry ε} (first : AliasesAdded kind r s)
    (second : AliasesAdded kind s t) : AliasesAdded kind r t where
  kinds := second.kinds.trans first.kinds
  aliases := by
    intro a member
    rcases second.aliases a member with earlier | own
    · exact first.aliases a earlier
    · exact .inr own

theorem addAlias_added (r : Registry ε) (kind name : String) :
    AliasesAdded kind r (r.addAlias kind name) where
  kinds := rfl
  aliases := by
    intro a member
    rcases Catalog.mem_insert.1 member with rfl | ⟨earlier, _⟩
    · exact .inr rfl
    · exact .inl earlier

theorem addAliases_added (names : List Label) :
    AliasesAdded kind r (r.addAliases kind replace names).1 := by
  induction names generalizing r with
  | nil => exact .refl kind r
  | cons name rest ih =>
    rw [addAliases]
    split
    · exact .refl kind r
    · split
      · exact ih
      · split
        · exact .refl kind r
        · exact (addAlias_added r kind _).trans ih

theorem addGivenAliases_added (aliases : Label) :
    AliasesAdded kind r (r.addGivenAliases kind replace aliases).1 := by
  rw [addGivenAliases]
  split
  · split
    · exact .refl kind r
    · exact addAliases_added _
  · exact .refl kind r

theorem AliasesLead.added {s : Registry ε} (lead : r.AliasesLead) (present : kind ∈ r.kinds.keys)
    (added : AliasesAdded kind r s) : s.AliasesLead := by
  intro a member
  rw [added.kinds]
  rcases added.aliases a member with earlier | own
  · exact lead a earlier
  · exact own ▸ present

theorem AliasesLead.insert (lead : r.AliasesLead) (k : KindEntry ε) :
    { r with kinds := r.kinds.insert k }.AliasesLead := by
  intro a member
  exact Catalog.mem_keys_insert.2 (.inr (lead a member))

theorem AliasesLead.register (lead : r.AliasesLead) (kind : Label) (emitter : Option ε)
    (aliases : Label) (replace : Bool) :
    (r.register kind emitter aliases replace).1.AliasesLead := by
  unfold Registry.register
  split
  · exact lead
  · exact lead
  · split
    · exact lead
    · exact (lead.insert _).added (Catalog.mem_keys_insert.2 (.inl rfl))
        (addGivenAliases_added aliases)

theorem AliasesLead.unregister (lead : r.AliasesLead) (kind : String) :
    (r.unregister kind).AliasesLead := by
  intro a member
  obtain ⟨earlier, other⟩ := List.mem_filter.1 member
  exact Catalog.mem_keys_filter_key (fun name => name != Text.lower kind) |>.2
    ⟨lead a earlier, other⟩

theorem AliasesLead.apply (lead : r.AliasesLead) (call : RegistryCall ε) :
    (call.apply r).AliasesLead := by
  cases call with
  | register kind emitter aliases replace => exact lead.register kind emitter aliases replace
  | unregister kind => exact lead.unregister kind

theorem aliasesLead_after (calls : List (RegistryCall ε)) : (after calls).AliasesLead := by
  have start : (empty : Registry ε).AliasesLead := fun a member => by cases member
  exact List.foldlRecOn calls RegistryCall.apply start fun _ lead call _ => lead.apply call

end calls

section names

variable {r : Registry ε}

/-- What a registry answers to a name: its emitter where the name is supported, and otherwise the
fault that lists the kinds. -/
structure Resolves (r : Registry ε) (name : String) : Prop where
  supported : (∃ e, r.emitter name = .ok e) ↔ r.supports name = true
  unsupported : r.supports name = false →
    r.emitter name = .error (.registry (.unknownKind name r.listKinds))

theorem supports_eq_true {name : String} :
    r.supports name = true ↔
      Text.lower name ∈ r.kinds.keys ∨ Text.lower name ∈ r.aliases.keys := by
  rw [supports, Bool.or_eq_true, Catalog.contains_iff, Catalog.contains_iff]

theorem AliasesLead.exists_alias (lead : r.AliasesLead) {name : String}
    (supported : r.supports name = true) (other : r.kinds.find? (Text.lower name) = none) :
    ∃ a, r.aliases.find? (Text.lower name) = some a ∧ a.kind ∈ r.kinds.keys := by
  have listed := (supports_eq_true.1 supported).resolve_left
    ((Catalog.find?_eq_none_iff _ _).1 other)
  obtain ⟨a, through⟩ := Option.isSome_iff_exists.1 ((Catalog.find?_isSome_iff _ _).2 listed)
  exact ⟨a, through, lead a (Catalog.mem_of_find? through)⟩

theorem AliasesLead.emitter_ok (lead : r.AliasesLead) {name : String}
    (supported : r.supports name = true) : ∃ e, r.emitter name = .ok e := by
  rw [emitter]
  cases own : r.kinds.find? (Text.lower name) with
  | some k => exact ⟨k.emitter, rfl⟩
  | none =>
    obtain ⟨a, through, present⟩ := lead.exists_alias supported own
    obtain ⟨k, found⟩ := Option.isSome_iff_exists.1 ((Catalog.find?_isSome_iff _ _).2 present)
    exact ⟨k.emitter, by simp only [through, found]⟩

theorem emitter_unknown {name : String} (unsupported : r.supports name = false) :
    r.emitter name = .error (.registry (.unknownKind name r.listKinds)) := by
  have absent := fun listed => Bool.eq_false_iff.1 unsupported (supports_eq_true.2 listed)
  rw [emitter, (Catalog.find?_eq_none_iff _ _).2 fun kind => absent (.inl kind),
    (Catalog.find?_eq_none_iff _ _).2 fun other => absent (.inr other)]

theorem AliasesLead.resolves (lead : r.AliasesLead) (name : String) : r.Resolves name where
  supported := by
    refine ⟨?_, lead.emitter_ok⟩
    rintro ⟨e, found⟩
    cases supported : r.supports name with
    | true => rfl
    | false => cases found.symm.trans (emitter_unknown supported)
  unsupported := emitter_unknown

end names

/-- After any calls every alias leads to a kind, and every name has an emitter or is refused as one
that is not supported. -/
theorem names_resolve (calls : List (RegistryCall ε)) :
    (after calls).AliasesLead ∧ ∀ name, (after calls).Resolves name :=
  ⟨aliasesLead_after calls, (aliasesLead_after calls).resolves⟩

/-- A registration that an alias stops keeps its kind and the aliases before. -/
example :
    let calls : List (RegistryCall Emitter) :=
      [.register (.str "domain") (some .domainModel) (.arr [.str "models"]) false,
        .register (.str "Views") (some .context) (.arr [.str "extra", .str "Models"]) false]
    ((after calls).aliases.entries.map fun a => (a.name, a.kind)) =
      [("models", "domain"), ("extra", "views")] := by
  decide +kernel

end Registry

end EntityScaffold
