import EntityScaffold.Binding.Link
import EntityScaffold.Naming.Collision

/-!
Navigations of the entities in use: each learns its target and gets a free name, and then the name
of the navigation that leads back. Names already taken on an entity are its properties' and its
own. A navigation is known by its value, since no two of one entity share an identifier.
-/
namespace EntityScaffold.Binding

/-- The names that members of an entity's class may not take. -/
def memberScope (e : Entity) : Except Fault (List Label) := do
  return (← e.fixedName.atom) :: e.properties.map fun p => .str p.name

def targetOf (p : ModelPair) (e : Entity) (n : Navigation) : Except Fault (Entity × Table) :=
  match p.conceptual.entities.find? n.targetName with
  | none => .error (.reference (.navigationTarget e.name n.targetName))
  | some target =>
    match target.tableName.filter (fun _ => target.isUsed) >>= p.storage.resolveTable? with
    | none => .error (.reference (.unmappedTarget e.name target.name))
    | some table => .ok (target, table)

def nameNavigations (p : ModelPair) (e : Entity) (taken : List Label) :
    List Navigation → Except Fault (List Navigation)
  | [] => .ok []
  | n :: rest => do
    let (target, table) ← targetOf p e n
    let identifier ← Naming.freeLabel table.fixedName taken.contains
    let named := { n with
      targetFixedName := table.fixedName
      targetTypeName := target.fixedName
      targetSchema := table.schema
      identifier := identifier }
    return named :: (← nameNavigations p e (identifier :: taken) rest)

def nameEntity (p : ModelPair) (e : Entity) : Except Fault Entity := do
  return { e with navigations := ← nameNavigations p e (← memberScope e) e.navigations }

def nameEntities (p : ModelPair) : Except Fault ModelPair := do
  let named ← (← p.conceptual.orderedEntities).mapM (nameEntity p)
  return { p with
    conceptual := { p.conceptual with entities := p.conceptual.entities.insertAll named } }

/-- The navigation that leads back along the association of `n`. -/
def inverse? (m : ConceptualModel) (e : Entity) (n : Navigation) : Option Navigation :=
  (m.entities.find? n.targetName).bind fun target =>
    target.navigations.find? fun candidate =>
      candidate != n && candidate.association == n.association && candidate.targetName == e.name

def linkNavigation (m : ConceptualModel) (e : Entity) (n : Navigation) : Navigation :=
  match inverse? m e n with
  | some back => { n with inverseIdentifier := back.identifier }
  | none => n

def linkEntity (m : ConceptualModel) (e : Entity) : Entity :=
  if e.isUsed then { e with navigations := e.navigations.map (linkNavigation m e) } else e

theorem key_linkEntity (m : ConceptualModel) (e : Entity) :
    Keyed.key (linkEntity m e) = Keyed.key e := by
  unfold linkEntity
  split <;> rfl

def linkInverses (p : ModelPair) : ModelPair :=
  { p with
    conceptual := { p.conceptual with
      entities := p.conceptual.entities.mapEntries (linkEntity p.conceptual)
        (key_linkEntity p.conceptual) } }

end EntityScaffold.Binding
