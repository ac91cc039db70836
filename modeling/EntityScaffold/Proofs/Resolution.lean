import EntityScaffold.Proofs.Binding.Sides
import EntityScaffold.Proofs.Xml.LocalNames
import EntityScaffold.Run

/-!
Documents that resolve. The models that are bound are those of the document's sections, with its
associations in document order.
-/
namespace EntityScaffold
open Binding Reading

structure Sections (c : Config) (root : Xml.Element) (rules : Naming.NamingRules)
    (storage : StorageModel) (conceptual : ConceptualModel) (r : ResolvedModel) : Prop where
  naming : c.naming = .ok rules
  readTables : (readStorage ⟨rules, c.defaultSchema⟩ root).outcome = .ok storage
  readEntities : (readConceptual rules root).outcome = .ok conceptual
  readMappings : readMappings root = .ok r.mappings
  bound : (bind storage conceptual r.mappings r.functionMappings).outcome = .ok r

theorem readAndBind_sections {c : Config} {root : Xml.Element} {r : ResolvedModel}
    (resolved : (readAndBind c root).outcome = .ok r) :
    ∃ rules storage conceptual, Sections c root rules storage conceptual r := by
  simp only [readAndBind, Noted.outcome_bind_eq_ok] at resolved
  obtain ⟨rules, naming, storage, readTables, conceptual, readEntities, mappings, mapped,
    functionMappings, _, bound⟩ := resolved
  obtain ⟨sameMappings, sameFunctions⟩ := mappings_of_bind bound
  rw [← sameMappings] at mapped
  rw [← sameMappings, ← sameFunctions] at bound
  exact ⟨rules, storage, conceptual, naming, readTables, readEntities, mapped, bound⟩

theorem readAndBind_ok {c : Config} {root : Xml.Element} {r : ResolvedModel}
    (resolved : (readAndBind c root).outcome = .ok r) :
    ∃ stored joined storage conceptual mappings links named,
      tableAssociations r.storage root = .ok stored ∧
      entityAssociations r.conceptual root = .ok joined ∧
      ReadStages stored joined storage conceptual mappings links named r := by
  obtain ⟨_, storage, conceptual, sections⟩ := readAndBind_sections resolved
  obtain ⟨stored, inTables, tables⟩ := readStorage_ok sections.readTables
  obtain ⟨joined, inEntities, entities⟩ := readConceptual_ok sections.readEntities
  obtain ⟨links, named, stages⟩ := bind_stages sections.bound
  refine ⟨stored, joined, storage, conceptual, r.mappings, links, named, ?_, ?_, stages, tables,
    entities⟩
  · rw [tableAssociations_of_keys stages.keys_tables]
    exact inTables
  · rw [entityAssociations_of_keys stages.keys_entities]
    exact inEntities

def document (storage conceptual mappings : List Xml.Element) : Xml.Element :=
  .plain "Edmx" []
    [.plain "StorageModels" [] [.plain "Schema" [] storage],
     .plain "ConceptualModels" [] [.plain "Schema" [] conceptual],
     .plain "Mappings" []
      [.plain "Mapping" [] [.plain "EntityContainerMapping" [] mappings]]]

end EntityScaffold
