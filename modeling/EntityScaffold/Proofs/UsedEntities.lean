import EntityScaffold.Model.Conceptual
import EntityScaffold.Proofs.Outcomes

/-!
The entities in use. They are listed in an order of their own, each once.
-/
namespace EntityScaffold

theorem orderedEntities_ok {m : ConceptualModel} {ordered : List Entity}
    (ok : m.orderedEntities = .ok ordered) : ordered = m.usedEntities := by
  simp only [ConceptualModel.orderedEntities, bind_ok, pure_ok] at ok
  obtain ⟨_, _, same⟩ := ok
  exact same.symm

theorem mem_usedEntities {m : ConceptualModel} {e : Entity} :
    e ∈ m.usedEntities ↔ e ∈ m.entities.entries ∧ e.isUsed = true := by
  rw [ConceptualModel.usedEntities, mem_sortBy, List.mem_filter]

theorem nodup_usedEntities (m : ConceptualModel) :
    (m.usedEntities.map (fun e => Keyed.key e)).Nodup := by
  have sublist : ((m.entities.entries.filter (·.isUsed)).map fun e => Keyed.key e).Nodup :=
    (List.filter_sublist.map _).nodup m.entities.nodup
  exact ((sortBy_perm _ _).map _).nodup_iff.2 sublist

theorem orderedEntities_of_schemas {m n : ConceptualModel} {ordered : List Entity}
    (ok : m.orderedEntities = .ok ordered)
    (schemas : ∀ e ∈ n.usedEntities, ∃ d ∈ m.usedEntities, d.schema = e.schema) :
    n.orderedEntities = .ok n.usedEntities := by
  simp only [ConceptualModel.orderedEntities, bind_ok] at ok
  obtain ⟨_, checked, _⟩ := ok
  rw [ConceptualModel.orderedEntities, bind_ok]
  refine ⟨(), forM_ok.2 fun e member => ?_, rfl⟩
  obtain ⟨d, inUse, same⟩ := schemas e (mem_sortBy.2 member)
  have known := forM_ok.1 checked d (mem_sortBy.1 inUse)
  rwa [same] at known

end EntityScaffold
