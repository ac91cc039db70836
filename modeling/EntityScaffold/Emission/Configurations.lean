import EntityScaffold.Emission.SchemaConstants
import EntityScaffold.Source.EntityConfiguration

/-!
Configurations: of the entity of a mapping, after its table, and of a complex type, which has no
table. A foreign key becomes a relationship by the multiplicities of its two ends; where both are
many there is none.
-/
namespace EntityScaffold.Emission
open Source

def domainType (bucket name : String) : String := "Domain." ++ bucket ++ "." ++ name

def configurationName (name : String) : String := name ++ "Configuration"

/-- The member that a column is mapped to, or the column's own name. -/
def columnMember (c : Column) : String :=
  if isGiven c.propertyName then c.propertyName.getD c.name else c.name

def memberNamed (t : Option Table) (column : String) : String :=
  ((t.bind fun t => t.columns.find? column).map columnMember).getD column

def valueGenerator? : Option String → Option String
  | some "Computed" => some "ValueGeneratedOnAddOrUpdate()"
  | some "Identity" => some "ValueGeneratedOnAdd()"
  | _ => none

def positive? (n : Option Int) : Option Int := n.filter (0 < ·)

def precisionFacet? (c : Column) : Option String :=
  (positive? c.precision).map fun p =>
    match positive? c.scale with
    | some s => "HasPrecision(" ++ toString p ++ ", " ++ toString s ++ ")"
    | none => "HasPrecision(" ++ toString p ++ ")"

def facetsOf (c : Column) (property : String) : List String :=
  (if c.isNullable.getD false then [] else ["IsRequired()"]) ++
  (if property = c.name then [] else ["HasColumnName(\x22" ++ c.name ++ "\x22)"]) ++
  ((positive? c.maxLength).map fun n => "HasMaxLength(" ++ toString n ++ ")").toList ++
  (precisionFacet? c).toList ++ (valueGenerator? c.valueGenerator).toList

def facetsFor (t : Table) (x : Correspondence) : Except Fault PropertyFacets :=
  match t.columns.find? x.column with
  | some c => .ok ⟨x.property, facetsOf c x.property⟩
  | none => .error (.absentEntry x.column)

/-- How the two ends of a foreign key are declared, seen from the key's own table. -/
inductive RelationshipShape where
  | oneToMany
  | manyToOne
  | oneToOne
  deriving DecidableEq, Repr

def shapeOf (k : ForeignKey) : Option RelationshipShape :=
  match k.source.isMany, k.destination.isMany with
  | true, false => some .manyToOne
  | false, true => some .oneToMany
  | false, false => some .oneToOne
  | true, true => none

def navigationLambda (k : ForeignKey) : String := "x => x." ++ k.identifier.display

def inverseLambda (k : ForeignKey) : String :=
  if k.inverseIdentifier.isGiven then "x => x." ++ k.inverseIdentifier.display else ""

def ownMembers (t : Table) (k : ForeignKey) : List String :=
  k.columns.map fun p => memberNamed (some t) p.1

def otherMembers (m : ResolvedModel) (k : ForeignKey) : List String :=
  k.columns.map fun p => memberNamed (m.storage.tables.find? k.table) p.2

def keyMethod (k : ForeignKey) : String :=
  if k.isPrincipal then "HasPrincipalKey" else "HasForeignKey"

def callsFor (m : ResolvedModel) (t : Table) (entityType : String) (k : ForeignKey) :
    RelationshipShape → List String
  | .manyToOne =>
    ["HasOne(" ++ navigationLambda k ++ ")", "WithMany(" ++ inverseLambda k ++ ")",
      "HasForeignKey(" ++ keyLambda (ownMembers t k) ++ ")"]
  | .oneToMany =>
    ["HasMany(" ++ navigationLambda k ++ ")", "WithOne(" ++ inverseLambda k ++ ")",
      "HasForeignKey(" ++
        ", ".intercalate ((otherMembers m k).map fun n => "\x22" ++ n ++ "\x22") ++ ")"]
  | .oneToOne =>
    ["HasOne(" ++ navigationLambda k ++ ")", "WithOne(" ++ inverseLambda k ++ ")",
      keyMethod k ++ "<" ++ entityType ++ ">(" ++ keyLambda (ownMembers t k) ++ ")"]

def relationship (m : ResolvedModel) (t : Table) (entityType : String) (k : ForeignKey) :
    Except Fault Relationship :=
  match shapeOf k with
  | some shape => .ok ⟨k.association, callsFor m t entityType k shape⟩
  | none => .error (.unsupportedShape k.source k.destination t.name k.text)

def tableBinding (c : Config) (m : ResolvedModel) (t : Table) : Except Fault TableBinding := do
  return ⟨if t.isView then "ToView" else "ToTable", t.name, ← constantReference c m t.schema⟩

def tableConfiguration (c : Config) (m : ResolvedModel) (t : Table) (x : Mapping) :
    Except Fault EntityConfiguration := do
  let bucket ← c.bucket t.schema
  let entityName := t.entityName.display
  let entityType := domainType bucket.display entityName
  let properties ← x.correspondences.mapM (facetsFor t)
  let binding ← tableBinding c m t
  let relationships ← t.foreignKeys.mapM (relationship m t entityType)
  return {
    bucket, entityType, properties, relationships
    className := configurationName entityName
    binding := some binding
    keys := if t.isView then [] else t.primaryKeys.map columnMember }

def mappingConfiguration (c : Config) (m : ResolvedModel) (x : Mapping) :
    Except Fault EntityConfiguration :=
  match m.storage.resolveTable? x.table with
  | some t => tableConfiguration c m t x
  | none => .error (.absentTable x.table)

def complexConfiguration (c : Config) (t : ComplexType) : EntityConfiguration where
  bucket := c.defaultBucket
  className := configurationName t.fixedName.display
  entityType := domainType c.defaultBucket.display t.fixedName.display
  binding := none
  keys := []
  properties := []
  relationships := []

end EntityScaffold.Emission
