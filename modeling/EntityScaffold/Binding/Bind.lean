import EntityScaffold.Binding.ForeignKeys

/-!
Binding: the storage and the conceptual model with every mapped table and entity marked as used and
every relationship member named on both sides.
-/
namespace EntityScaffold.Binding

def bindLinks (p : ModelPair) (links : List Link) : Except Fault ModelPair := do
  let named ← nameEntities (markAll p links)
  nameTables (linkInverses named) links

def bind (storage : StorageModel) (conceptual : ConceptualModel) (mappings : List Mapping)
    (functionMappings : List FunctionMapping) : Noted ResolvedModel := do
  let links ← mappings.mapM (link storage conceptual)
  let bound ← Noted.lift (bindLinks ⟨storage, conceptual⟩ links)
  return ⟨bound.storage, bound.conceptual, mappings, functionMappings⟩

end EntityScaffold.Binding
