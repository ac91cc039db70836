import EntityScaffold.Binding.Navigations

/-!
Foreign keys of the mapped tables. A key takes the identifiers of a navigation at the same end of
its association, one that no earlier key of the table has taken; a key without such a navigation
gets a free name after its target.
-/
namespace EntityScaffold.Binding

def fitsEnd (k : ForeignKey) (target : Table) (n : Navigation) : Bool :=
  n.association == k.association && n.targetFixedName == target.fixedName

/-- The navigation that `k` takes: one of its own cardinality if there is one. -/
def chosen? (k : ForeignKey) (target : Table) (free : List Navigation) : Option Navigation :=
  let candidates := free.filter (fitsEnd k target)
  (candidates.find? fun n => n.multiplicity.isMany == k.destination.isMany).or candidates.head?

def nameForeignKeys (storage : StorageModel) (own : Table) (taken : List Label)
    (free : List Navigation) : List ForeignKey → Except Fault (List ForeignKey)
  | [] => .ok []
  | k :: rest =>
    match storage.tables.find? k.table with
    | none => .error (.reference (.foreignKeyTable k.text own.name))
    | some target =>
      let aimed := { k with
        tableFixedName := target.fixedName, tableSchema := target.schema }
      match chosen? k target free with
      | some n => do
        let named := { aimed with
          identifier := n.identifier, inverseIdentifier := n.inverseIdentifier }
        return named :: (← nameForeignKeys storage own taken (free.erase n) rest)
      | none => do
        let identifier ← Naming.freeLabel target.fixedName taken.contains
        let named := { aimed with identifier := identifier }
        return named :: (← nameForeignKeys storage own (identifier :: taken) free rest)

/-- The names that a foreign key of `t`, which is mapped to `e`, may not take. -/
def keyScope (t : Table) (e : Entity) : Except Fault (List Label) := do
  let members ← memberScope e
  let own ← t.fixedName.atom
  let navigations ← ((e.navigations.map (·.identifier)).filter Label.isGiven).mapM Label.atom
  return own :: members ++ navigations

def nameTable (storage : StorageModel) (t : Table) (e : Entity) : Except Fault Table := do
  return { t with
    foreignKeys := ← nameForeignKeys storage t (← keyScope t e) e.navigations t.foreignKeys }

def current (p : ModelPair) (l : Link) : Table × Entity :=
  ((p.storage.tables.find? l.table.name).getD l.table,
    (p.conceptual.entities.find? l.entity.name).getD l.entity)

/-- Names the foreign keys of every mapped table, after the entity of its first link. -/
def nameTables (p : ModelPair) (links : List Link) : Except Fault ModelPair := do
  let named ← (firstOfTable [] links).mapM fun l =>
    nameTable p.storage (current p l).1 (current p l).2
  return { p with storage := { p.storage with tables := p.storage.tables.insertAll named } }

end EntityScaffold.Binding
