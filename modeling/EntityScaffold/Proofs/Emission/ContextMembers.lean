import EntityScaffold.Proofs.Emission.Parts
import EntityScaffold.Proofs.Emission.Prepared
import EntityScaffold.Proofs.Emission.ProcedureCalls
import EntityScaffold.Proofs.Naming.Plurals
import EntityScaffold.Proofs.Runs
import Mathlib.Data.List.Nodup

/-!
Members of the context and their names. A set is called by the plural of its entity's fixed name and
a method by the fixed name of its import, which has lost the marker of a procedure. Names meet under
either of these, and the members that are called by them meet in the context.
-/
namespace EntityScaffold.Source.ContextClass

def setNames (u : ContextClass) : List String := u.sets.map (·.name)

def methodNames (u : ContextClass) : List String :=
  u.functions.map (·.name) ++ u.procedures.map (·.name)

def memberNames (u : ContextClass) : List String := u.setNames ++ u.methodNames

end EntityScaffold.Source.ContextClass

namespace EntityScaffold.Emission
open Binding Naming Reading Source

def setName (rules : NamingRules) (entity : String) : Except Fault String := do
  return (← pluralLabel (← rules.normalize entity false)).display

def methodName (rules : NamingRules) (name : String) : Except Fault String :=
  (rules.normalizeFunction name).map Json.display

/-- The rules keep the names of entities and imports apart where members are called by them. -/
structure MembersApart (rules : NamingRules) (entities imports : List String) : Prop where
  sets : (entities.map (setName rules)).Nodup
  methods : (imports.map (methodName rules)).Nodup
  mixed : ∀ e ∈ entities, ∀ f ∈ imports, setName rules e ≠ methodName rules f

theorem membersApart_iff {rules : NamingRules} {entities imports : List String} :
    MembersApart rules entities imports ↔
      (entities.map (setName rules) ++ imports.map (methodName rules)).Nodup := by
  rw [List.nodup_append]
  constructor
  · rintro ⟨sets, methods, mixed⟩
    refine ⟨sets, methods, fun a inSets b inMethods => ?_⟩
    obtain ⟨e, entity, rfl⟩ := List.mem_map.1 inSets
    obtain ⟨f, listed, rfl⟩ := List.mem_map.1 inMethods
    exact mixed e entity f listed
  · rintro ⟨sets, methods, mixed⟩
    exact ⟨sets, methods, fun e entity f listed =>
      mixed _ (List.mem_map_of_mem entity) _ (List.mem_map_of_mem listed)⟩

instance (rules : NamingRules) (entities imports : List String) :
    Decidable (MembersApart rules entities imports) := decidable_of_iff' _ membersApart_iff

section names

variable {c : Config} {r : ResolvedModel} {rules : NamingRules} {u : ContextClass}
  {methods : List ImportMethod}

def ImportMethod.name : ImportMethod → String
  | .function f => f.name
  | .procedure p => p.name

theorem importMethod_name {f : FunctionImport} {x : ImportMethod}
    (made : (importMethod c r f).outcome = .ok x) : x.name = f.fixedName.display := by
  cases importMethod_ok made with
  | function composable own =>
    obtain ⟨_, _, name, _⟩ := functionMethod_ok own
    exact name
  | procedure called own =>
    obtain ⟨_, _, _, _, _, _, _, _, name, _⟩ := procedureMethod_ok own
    exact name

theorem names_perm (methods : List ImportMethod) :
    ((methods.filterMap (·.function?)).map (·.name) ++
      (methods.filterMap (·.procedure?)).map (·.name)).Perm (methods.map (·.name)) := by
  induction methods with
  | nil => exact .nil
  | cons x rest ih =>
    cases x with
    | function f => exact ih.cons f.name
    | procedure p => exact List.perm_middle.trans (ih.cons p.name)

theorem ContextParts.methodNames_perm (parts : ContextParts c r u methods) :
    u.methodNames.Perm (methods.map (·.name)) := by
  rw [ContextClass.methodNames, parts.functions, parts.procedures]
  exact names_perm methods

theorem ContextParts.methodNames_eq (parts : ContextParts c r u methods)
    (named : NamesFixed rules r.conceptual) :
    r.conceptual.functions.keys.map (methodName rules) = (methods.map (·.name)).map .ok := by
  have fixed : r.conceptual.functions.keys.map (methodName rules) =
      r.conceptual.functions.entries.map fun f => .ok f.fixedName.display := by
    rw [Catalog.keys, List.map_map]
    refine List.map_congr_left fun f member => ?_
    exact map_ok.2 ⟨f.fixedName, named.imports f member, rfl⟩
  rw [fixed, List.map_map]
  exact map_eq_of_related (mapM_ok.1 parts.walked) fun f x made =>
    congrArg Except.ok (importMethod_name made).symm

theorem setName_of_fixed {name : String} {fixed : Label}
    (found : rules.normalize name false = .ok fixed) :
    setName rules name = (pluralLabel fixed).map Json.display := by
  rw [setName, found]
  show (pluralLabel fixed >>= fun plural => pure plural.display) = _
  cases pluralLabel fixed <;> rfl

theorem entitySetMember_name {e : Entity} {s : EntitySetMember}
    (made : entitySetMember c e = .ok s) :
    ∃ plural, pluralLabel e.fixedName = .ok plural ∧ s.name = plural.display := by
  simp only [entitySetMember, bind_ok, pure_ok] at made
  obtain ⟨_, _, plural, found, rfl⟩ := made
  exact ⟨plural, found, rfl⟩

theorem ContextParts.setNames_eq (parts : ContextParts c r u methods)
    (named : NamesFixed rules r.conceptual) :
    (r.usedEntities.map (·.name)).map (setName rules) = u.setNames.map .ok := by
  have fixed : (r.usedEntities.map (·.name)).map (setName rules) =
      r.usedEntities.map fun e => (pluralLabel e.fixedName).map Json.display := by
    rw [List.map_map]
    exact List.map_congr_left fun e member =>
      setName_of_fixed (named.entities e (mem_usedEntities.1 member).1)
  rw [fixed, ContextClass.setNames, List.map_map]
  refine map_eq_of_related (mapM_ok.1 parts.sets) fun e s made => ?_
  obtain ⟨plural, found, name⟩ := entitySetMember_name made
  rw [Function.comp_apply, found, name]
  rfl

theorem memberNames_nodup_iff (parts : ContextParts c r u methods)
    (named : NamesFixed rules r.conceptual) : u.memberNames.Nodup ↔
      MembersApart rules (r.usedEntities.map (·.name)) r.conceptual.functions.keys := by
  have reordered := (parts.methodNames_perm.append_left u.setNames).nodup_iff
  rw [membersApart_iff, parts.setNames_eq named, parts.methodNames_eq named, ← List.map_append,
    List.nodup_map_iff fun _ _ same => Except.ok.inj same, ← reordered, ContextClass.memberNames]

theorem setName_eq_iff {a b s t : String} (first : rules.normalize a false = .ok (.str s))
    (second : rules.normalize b false = .ok (.str t)) :
    setName rules a = setName rules b ↔ SharePlural s t := by
  rw [← pluralize_eq_iff, setName_of_fixed first, setName_of_fixed second]
  show (.ok (pluralize s) : Except Fault String) = .ok (pluralize t) ↔ _
  rw [Except.ok.injEq]

theorem resolved_named {root : Xml.Element} (resolved : (readAndBind c root).outcome = .ok r) :
    ∃ rules, c.naming = .ok rules ∧ NamesFixed rules r.conceptual := by
  obtain ⟨rules, storage, conceptual, sections⟩ := readAndBind_sections resolved
  have changes := sections.changes
  have named := readConceptual_named sections.readEntities
  have imports : r.conceptual.functions = conceptual.functions :=
    congrArg (·.conceptual.functions) changes.kept
  refine ⟨rules, sections.naming, fun e member => ?_, ?_⟩
  · obtain ⟨old, earlier, change⟩ := related_of_mem_right changes.entities member
    rw [change.kept]
    exact named.entities old earlier
  · rw [imports]
    exact named.imports

/-- The members of a context have distinct names just when the rules keep apart those of its sets,
those of its methods, and both from each other. Sets of entities with texts for names meet where
these share a plural. -/
theorem context_members_distinct_iff {d : SourceDocument}
    (resolved : (resolveDocument c d).outcome = .ok r)
    (written : .contextClass u ∈ (emitContext c r).items) :
    ∃ rules, c.naming = .ok rules ∧
      (u.memberNames.Nodup ↔
        MembersApart rules (r.usedEntities.map (·.name)) r.conceptual.functions.keys) ∧
      ∀ a ∈ r.usedEntities, ∀ b ∈ r.usedEntities, ∀ s t,
        a.fixedName = .str s → b.fixedName = .str t →
          (setName rules a.name = setName rules b.name ↔ SharePlural s t) := by
  obtain ⟨root, _, bound⟩ := resolveDocument_ok.1 resolved
  obtain ⟨rules, naming, named⟩ := resolved_named bound
  obtain ⟨methods, parts⟩ := contextUnit_parts (contextUnit_of_written written)
  refine ⟨rules, naming, memberNames_nodup_iff parts named, ?_⟩
  intro a inUse b inUseToo s t own other
  have first := named.entities a (mem_usedEntities.1 inUse).1
  have second := named.entities b (mem_usedEntities.1 inUseToo).1
  rw [own] at first
  rw [other] at second
  exact setName_eq_iff first second

def storeDocument : SourceDocument :=
  .ofSections "<EntityType Name=\x22Boxes\x22/><EntityType Name=\x22Crates\x22/>"
    ("<EntityType Name=\x22Box\x22/><EntityType Name=\x22Crate\x22/><EntityContainer>" ++
      "<FunctionImport Name=\x22usp_Pack\x22/><FunctionImport Name=\x22fn_Stack\x22/>" ++
      "</EntityContainer>")
    ("<EntitySetMapping TypeName=\x22Box\x22 StoreEntitySet=\x22Boxes\x22/>" ++
      "<EntitySetMapping TypeName=\x22Crate\x22 StoreEntitySet=\x22Crates\x22/>")

set_option maxRecDepth 100000 in
theorem store_made :
    ∃ r, (resolveDocument (.ofSettings .defaults) storeDocument).outcome = .ok r ∧
      r.usedEntities.map (·.name) = ["Box", "Crate"] ∧
      r.conceptual.functions.keys = ["usp_Pack", "fn_Stack"] ∧
      (contextUnit (.ofSettings .defaults) r).outcome.toOption.isSome = true :=
  ok_of_any (by decide +kernel)

theorem store_members_distinct :
    ∃ r u, (resolveDocument (.ofSettings .defaults) storeDocument).outcome = .ok r ∧
      .contextClass u ∈ (emitContext (.ofSettings .defaults) r).items ∧ u.memberNames.Nodup := by
  obtain ⟨r, resolved, entities, imports, made⟩ := store_made
  obtain ⟨u, found⟩ := Option.isSome_iff_exists.1 made
  have written := written_of_contextUnit (ok_of_toOption found)
  obtain ⟨rules, naming, distinct, _⟩ := context_members_distinct_iff resolved written
  rw [entities, imports] at distinct
  cases naming
  exact ⟨r, u, resolved, written, distinct.2 (by decide +kernel)⟩

/-- Entities of one plural, an import that is called like it, and two that differ in a marker. -/
def lightDocument : SourceDocument :=
  .ofSections "<EntityType Name=\x22Luz\x22/><EntityType Name=\x22Luce\x22/>"
    ("<EntityType Name=\x22Luz\x22/><EntityType Name=\x22Luce\x22/><EntityContainer>" ++
      "<FunctionImport Name=\x22usp_Dim\x22/><FunctionImport Name=\x22fn_Dim\x22/>" ++
      "<FunctionImport Name=\x22Luces\x22/></EntityContainer>")
    ("<EntitySetMapping TypeName=\x22Luz\x22 StoreEntitySet=\x22Luz\x22/>" ++
      "<EntitySetMapping TypeName=\x22Luce\x22 StoreEntitySet=\x22Luce\x22/>")

set_option maxRecDepth 100000 in
theorem lights_made :
    ∃ r, (resolveDocument (.ofSettings .defaults) lightDocument).outcome = .ok r ∧
      (contextUnit (.ofSettings .defaults) r).outcome.toOption.map
        (fun u => (u.setNames, u.methodNames)) =
          some (["Luces", "Luces"], ["Dim", "Dim", "Luces"]) :=
  ok_of_any (by decide +kernel)

/-- Two sets, two methods, and a set and a method have one name. -/
theorem light_members_meet :
    ∃ r u, (resolveDocument (.ofSettings .defaults) lightDocument).outcome = .ok r ∧
      .contextClass u ∈ (emitContext (.ofSettings .defaults) r).items ∧
      ¬ u.setNames.Nodup ∧ ¬ u.methodNames.Nodup ∧ ∃ name ∈ u.setNames, name ∈ u.methodNames := by
  obtain ⟨r, resolved, members⟩ := lights_made
  obtain ⟨u, found, names⟩ := Option.map_eq_some_iff.1 members
  obtain ⟨sets, methods⟩ := Prod.mk.inj names
  refine ⟨r, u, resolved, written_of_contextUnit (ok_of_toOption found), ?_, ?_, "Luces", ?_, ?_⟩
  · rw [sets]
    decide
  · rw [methods]
    decide
  · rw [sets]
    decide
  · rw [methods]
    decide

end names

end EntityScaffold.Emission
