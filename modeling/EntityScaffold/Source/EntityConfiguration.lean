import EntityScaffold.Source.Names

/-!
Configuration classes: how an entity type is bound to its table or view, its key, the facets of its
properties and its relationships. A type without a binding has no table of its own.
-/
namespace EntityScaffold.Source

structure TableBinding where
  method : String
  name : String
  schema : String
  deriving DecidableEq, Repr

structure PropertyFacets where
  name : String
  facets : List String
  deriving DecidableEq, Repr

structure Relationship where
  association : String
  calls : List String
  deriving DecidableEq, Repr

structure EntityConfiguration where
  bucket : Label
  className : String
  entityType : String
  binding : Option TableBinding
  keys : List String
  properties : List PropertyFacets
  relationships : List Relationship
  callSeparator : String := "\n                ."
  deriving DecidableEq, Repr

def TableBinding.line (b : TableBinding) : String :=
  "builder." ++ b.method ++ "(" ++ literal b.name ++ ", " ++ b.schema ++ ");"

def PropertyFacets.line (p : PropertyFacets) : String :=
  "builder.Property(x => x." ++ p.name ++ ")" ++ chain "." p.facets ++ ";"

def Relationship.lines (separator : String) (r : Relationship) : List String :=
  ["", "// " ++ r.association, "builder." ++ separator.intercalate r.calls ++ ";"]

namespace EntityConfiguration

def keyLine (c : EntityConfiguration) : String :=
  if c.keys.isEmpty then "builder.HasNoKey();" else "builder.HasKey(" ++ keyLambda c.keys ++ ");"

def body (c : EntityConfiguration) : List String :=
  (c.binding.map (·.line)).toList ++ [c.keyLine] ++ c.properties.map (·.line) ++
    c.relationships.flatMap (·.lines c.callSeparator)

def lines (names : UnitNames) (c : EntityConfiguration) : List String :=
  ["using Microsoft.EntityFrameworkCore;",
    "using Microsoft.EntityFrameworkCore.Metadata.Builders;", ""] ++
    block ("namespace " ++ names.rootNamespace ++ ".Configuration." ++ c.bucket.display)
      (block
        ("public class " ++ c.className ++ " : IEntityTypeConfiguration<" ++ c.entityType ++ ">")
        (block ("public void Configure(EntityTypeBuilder<" ++ c.entityType ++ "> builder)")
          c.body))

end EntityConfiguration

end EntityScaffold.Source
