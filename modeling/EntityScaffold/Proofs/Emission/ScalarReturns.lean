import EntityScaffold.Proofs.Emission.Stopping
import EntityScaffold.Proofs.Runs
import EntityScaffold.Proofs.Text.Trimming

/-!
Return types of imports, read twice. The reader trims a type before it looks for the collection
around it, and emission looks for the collection first. Both come to one element type, and accept
the same types, except for a collection with blanks around it: emission takes that for a type of its
own, which it never knows.
-/
namespace EntityScaffold

namespace Reading
open Text

section collections

variable {cs inner : List Char}

def inCollection (inner : List Char) : List Char := collectionOpening ++ inner ++ [')']

theorem enclosed_iff : enclosed? collectionOpening cs = some inner ↔ cs = inCollection inner := by
  unfold enclosed? inCollection
  constructor
  · intro found
    split at found
    · rename_i both
      rw [Bool.and_eq_true, List.isPrefixOf_iff_prefix, beq_iff_eq] at both
      obtain ⟨⟨rest, rfl⟩, last⟩ := both
      rw [List.drop_left] at found
      cases rest using List.reverseRecOn with
      | nil => exact absurd last (by decide)
      | append_singleton init c =>
        rw [← List.append_assoc, List.getLast?_concat] at last
        cases last
        rw [List.dropLast_concat] at found
        cases found
        rw [List.append_assoc]
    · cases found
  · intro same
    subst same
    rw [if_pos, List.append_assoc, List.drop_left, List.dropLast_concat]
    rw [Bool.and_eq_true, List.isPrefixOf_iff_prefix, List.getLast?_concat, beq_self_eq_true,
      List.append_assoc]
    exact ⟨List.prefix_append .., rfl⟩

theorem trim_inCollection (inner : List Char) : trim (inCollection inner) = inCollection inner :=
  trim_between (c := 'C') (d := ')') (by decide) (by decide) ("ollection(".toList ++ inner)

theorem unwrapCollection_inCollection (inner : List Char) :
    unwrapCollection (inCollection inner) = (trim inner, true) := by
  rw [unwrapCollection, trim_inCollection, enclosed_iff.2 rfl]

theorem trim_unwrapCollection (cs : List Char) :
    trim (unwrapCollection cs).1 = (unwrapCollection cs).1 := by
  unfold unwrapCollection
  split
  · exact trim_trim _
  · exact trim_trim cs

/-- A collection that is one only without the blanks around it. -/
def PaddedCollection (cs : List Char) : Prop :=
  trim cs ≠ cs ∧ ∃ inner, trim cs = inCollection inner

/-- Looking for the collection first comes to another type just for a padded one. -/
theorem trim_enclosed_iff (cs : List Char) :
    trim ((enclosed? collectionOpening cs).getD cs) = (unwrapCollection cs).1 ↔
      ¬ PaddedCollection cs := by
  cases found : enclosed? collectionOpening cs with
  | some inner =>
    obtain rfl := enclosed_iff.1 found
    rw [unwrapCollection_inCollection, Option.getD_some]
    constructor
    · intro _ padded
      exact padded.1 (trim_inCollection inner)
    · intro _
      rfl
  | none =>
    unfold unwrapCollection
    cases behind : enclosed? collectionOpening (trim cs) with
    | none =>
      constructor
      · intro _ padded
        obtain ⟨_, inner, same⟩ := padded
        rw [enclosed_iff.2 same] at behind
        cases behind
      · intro _
        rfl
    | some inner =>
      have whole := enclosed_iff.1 behind
      have padded : PaddedCollection cs := by
        refine ⟨?_, inner, whole⟩
        intro trimmed
        rw [trimmed, found] at behind
        cases behind
      constructor
      · intro same
        rw [Option.getD_none, whole] at same
        have shorter := length_trim_le inner
        have lengths := congrArg List.length same
        simp only [inCollection, List.length_append, List.length_singleton] at lengths
        omega
      · intro unpadded
        exact absurd padded unpadded

end collections

section rows

def NamesRows (m : ConceptualModel) (type : String) : Prop :=
  unqualified type ≠ "" ∧
    (m.complexTypes.contains (unqualified type) = true ∨
      m.entities.contains (unqualified type) = true)

theorem elementType_given {type : String} (filled : type ≠ "") :
    elementType (some type) =
      (some (String.ofList (unwrapCollection type.toList).1), (unwrapCollection type.toList).2) := by
  rw [elementType]
  exact filled

theorem returnsRows_iff {naming : Naming.NamingRules} {m : ConceptualModel} {node : Xml.Element}
    {f : FunctionImport} {element : String}
    (read : (readFunctionImport naming m node).outcome = .ok f)
    (returned : (elementType f.returnType).1 = some element) :
    f.returnsRows = true ↔ NamesRows m element := by
  simp only [readFunctionImport, Noted.outcome_bind_eq_ok, Noted.outcome_pure_ok,
    Noted.outcome_liftM] at read
  obtain ⟨_, _, declared, _, _, _, _, _, _, _, _, _, rfl⟩ := read
  have own : (elementType declared).1 = some element := returned
  by_cases empty : element = ""
  · subst empty
    have unnamed : returnName? declared = none := by rw [returnName?, own]; rfl
    have noName : unqualified "" = "" := by decide
    simp [FunctionImport.returnsRows, NamesRows, unnamed, noName, isGiven]
  · have named : returnName? declared = some (unqualified element) := by
      simp [returnName?, own, empty]
    by_cases complex : m.complexTypes.contains (unqualified element) = true
    · simp [FunctionImport.returnsRows, NamesRows, named, complex, isGiven, Option.filter_some]
    · by_cases entity : m.entities.contains (unqualified element) = true <;>
        simp [FunctionImport.returnsRows, NamesRows, named, complex, entity, isGiven,
          Option.filter_some]

end rows

end Reading

namespace Emission
open Source Reading

section types

variable {type : String}

theorem declaration_ok_congr {other declared : String} {nullable : Bool} {owner : Option String}
    (same : Text.trimmed type = Text.trimmed other) :
    builtinTypes.declaration (some type) nullable owner = .ok declared ↔
      builtinTypes.declaration (some other) nullable owner = .ok declared := by
  have texts : Text.trim type.toList = Text.trim other.toList := String.ofList_injective same
  have names : primitiveName type = primitiveName other := by
    simp only [primitiveName, texts]
  simp only [TypeTable.declaration, map_ok, resolve_ok, Option.getD_some, names]

theorem lookup_inCollection (inner : List Char) :
    builtinTypes.lookup (String.ofList (inCollection inner)) = none := by
  have apart : ∀ e ∈ builtinTypes, e.1.toList.head? ≠ some 'C' := by decide
  apply List.lookup_eq_none_iff.2
  intro e listed
  rw [bne_iff_ne]
  intro same
  apply apart e listed
  rw [← same, String.toList_ofList]
  rfl

theorem declaration_padded {nullable : Bool} {owner : Option String}
    (padded : PaddedCollection type.toList) :
    builtinTypes.declaration (some (elementOf type)) nullable owner =
      .error (.unsupportedType type owner) := by
  obtain ⟨padding, inner, within⟩ := padded
  have whole : elementOf type = type := by
    unfold elementOf
    cases found : enclosed? collectionOpening type.toList with
    | none => exact String.ofList_toList
    | some inner =>
      rw [enclosed_iff.1 found] at padding
      exact absurd (trim_inCollection inner) padding
  have name : primitiveName type = String.ofList (inCollection inner) := by
    rw [primitiveName, within]
    rfl
  have shown : shownType (some type) = type := by
    rw [shownType]
    intro empty
    subst empty
    exact padding rfl
  rw [whole, TypeTable.declaration, TypeTable.resolve, Option.getD_some, name,
    lookup_inCollection, shown]
  rfl

end types

section imports

/-- What is emitted for a return type is what was read of it, and both accept the same types, unless
it is a collection with blanks around it: then emission stops. -/
theorem return_types_agree_iff {naming : Naming.NamingRules} {m : ConceptualModel}
    {node : Xml.Element} {f : FunctionImport} {type : String}
    (read : (readFunctionImport naming m node).outcome = .ok f)
    (returned : f.returnType = some type) (filled : type ≠ "") :
    ∃ element, (elementType f.returnType).1 = some element ∧
      (f.returnsRows = true ↔ NamesRows m element) ∧
      scalarReturnType f = builtinTypes.declaration (some (elementOf type)) true (some f.name) ∧
      (Text.trimmed (elementOf type) = element ↔ ¬ PaddedCollection type.toList) ∧
      (¬ PaddedCollection type.toList → ∀ declared, scalarReturnType f = .ok declared ↔
        builtinTypes.declaration (some element) true (some f.name) = .ok declared) ∧
      (PaddedCollection type.toList →
        scalarReturnType f = .error (.unsupportedType type (some f.name))) := by
  have element : (elementType f.returnType).1 =
      some (String.ofList (unwrapCollection type.toList).1) := by
    rw [returned, elementType_given filled]
  have emitted := scalarReturnType_given returned filled
  have agree : Text.trimmed (elementOf type) = String.ofList (unwrapCollection type.toList).1 ↔
      ¬ PaddedCollection type.toList := by
    rw [← trim_enclosed_iff, Text.trimmed, elementOf, String.toList_ofList, String.ofList_inj]
  refine ⟨_, element, returnsRows_iff read element, emitted, agree, ?_, ?_⟩
  · intro unpadded declared
    rw [emitted]
    apply declaration_ok_congr
    rw [agree.2 unpadded, Text.trimmed, String.toList_ofList, trim_unwrapCollection]
  · intro padded
    rw [emitted]
    exact declaration_padded padded

def totalNode (type : String) : Xml.Element :=
  .plain "FunctionImport" [("Name", "Total"), ("IsComposable", "true"), ("ReturnType", type)] []

theorem totals_agree : ∃ f,
    (readFunctionImport (.ofTexts [] [] []) {} (totalNode "Collection( Edm.Int32 )")).outcome =
      .ok f ∧ f.isComposable = true ∧ f.returnsRows = false ∧
      (elementType f.returnType).1 = some "Edm.Int32" ∧ scalarReturnType f = .ok "int?" := by
  obtain ⟨f, read, returned, composable, scalar, name⟩ : ∃ f,
      (readFunctionImport (.ofTexts [] [] []) {} (totalNode "Collection( Edm.Int32 )")).outcome =
        .ok f ∧ f.returnType = some "Collection( Edm.Int32 )" ∧ f.isComposable = true ∧
        f.returnsRows = false ∧ f.name = "Total" := ok_of_any (by decide +kernel)
  obtain ⟨element, own, _, _, _, alike, _⟩ := return_types_agree_iff read returned (by decide)
  have known : (elementType f.returnType).1 = some "Edm.Int32" := by
    rw [returned]
    decide
  have unpadded : ¬ PaddedCollection "Collection( Edm.Int32 )".toList := by
    intro padded
    exact padded.1 (by decide)
  refine ⟨f, read, composable, scalar, known, (alike unpadded "int?").2 ?_⟩
  cases known.symm.trans own
  rw [name]
  decide +kernel

def totalDocument : SourceDocument :=
  .ofSections ""
    ("<EntityContainer><FunctionImport Name=\x22Total\x22 IsComposable=\x22true\x22 " ++
      "ReturnType=\x22 Collection(Edm.Int32)\x22/></EntityContainer>") ""

def totalImport : FunctionImport where
  name := "Total"
  fixedName := .str "Total"
  returnType := some " Collection(Edm.Int32)"
  isComposable := true

set_option maxRecDepth 100000 in
/-- The element type that is read is known, and emission stops at the collection. -/
theorem total_stops : ∃ r,
    (resolveDocument (.ofSettings .defaults) totalDocument).outcome = .ok r ∧
      r.conceptual.functions.entries = [totalImport] ∧ totalImport.isComposable = true ∧
      totalImport.returnsRows = false ∧
      elementType totalImport.returnType = (some "Edm.Int32", true) ∧
      builtinTypes.declaration (some "Edm.Int32") true (some "Total") = .ok "int?" ∧
      Text.trimmed (elementOf " Collection(Edm.Int32)") ≠ "Edm.Int32" ∧
      scalarReturnType totalImport =
        .error (.unsupportedType " Collection(Edm.Int32)" (some "Total")) ∧
      (emitModel (.ofSettings .defaults) r).stopped =
        some (.unsupportedType " Collection(Edm.Int32)" (some "Total")) := by
  obtain ⟨r, resolved, imports, stopped⟩ : ∃ r,
      (resolveDocument (.ofSettings .defaults) totalDocument).outcome = .ok r ∧
        r.conceptual.functions.entries = [totalImport] ∧
        (emitModel (.ofSettings .defaults) r).stopped =
          some (.unsupportedType " Collection(Edm.Int32)" (some "Total")) :=
    ok_of_any (by decide +kernel)
  refine ⟨r, resolved, imports, rfl, rfl, ?_, ?_, ?_, ?_, stopped⟩
  · decide +kernel
  · decide +kernel
  · decide +kernel
  · decide +kernel

end imports

end Emission

end EntityScaffold
