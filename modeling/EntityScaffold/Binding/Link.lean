import EntityScaffold.Model.Resolved
import EntityScaffold.Noted

/-!
Links: mappings whose table and entity have been found. A link keeps both as they were read.
Marking goes through the links in order, so where two of them meet on a table, an entity or a
column, the later one is remembered.
-/
namespace EntityScaffold.Binding

structure Link where
  mapping : Mapping
  table : Table
  entity : Entity

/-- A correspondence must name a column of its table; a property that is not there is only noted. -/
def checkCorrespondence (m : Mapping) (t : Table) (e : Entity) (c : Correspondence) : Noted Unit :=
  if t.columns.contains c.column then
    if (e.property? c.property).isSome then pure ()
    else Noted.note (.unknownProperty e.name c.property c.column)
  else Noted.fail (.reference (.mappedColumn m.text c.column t.name))

def link (storage : StorageModel) (conceptual : ConceptualModel) (m : Mapping) : Noted Link :=
  match storage.resolveTable? m.table with
  | none => Noted.fail (.reference (.mappedTable m.text m.table))
  | some t =>
    match conceptual.entities.find? m.entity with
    | none => Noted.fail (.reference (.mappedEntity m.text m.entity))
    | some e => do
      m.correspondences.forM (checkCorrespondence m t e)
      pure ⟨m, t, e⟩

def firstOfTable (seen : List String) : List Link → List Link
  | [] => []
  | l :: rest =>
    if l.table.name ∈ seen then firstOfTable seen rest
    else l :: firstOfTable (l.table.name :: seen) rest

structure ModelPair where
  storage : StorageModel
  conceptual : ConceptualModel

def assignProperty (columns : Catalog Column) (c : Correspondence) : Catalog Column :=
  columns.modify c.column (fun column => { column with propertyName := some c.property })
    (fun _ => rfl)

namespace Link

def markTable (l : Link) (t : Table) : Table :=
  { t with
    isUsed := true
    entityName := l.entity.fixedName
    columns := l.mapping.correspondences.foldl assignProperty t.columns }

def markEntity (l : Link) (e : Entity) : Entity :=
  { e with isUsed := true, tableName := some l.table.name, schema := l.table.schema }

def mark (p : ModelPair) (l : Link) : ModelPair where
  storage := p.storage.modifyTable l.table.name l.markTable (fun _ => rfl)
  conceptual := p.conceptual.modifyEntity l.entity.name l.markEntity (fun _ => rfl)

end Link

def markAll (p : ModelPair) (links : List Link) : ModelPair := links.foldl Link.mark p

end EntityScaffold.Binding
