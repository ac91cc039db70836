import EntityScaffold.Config
import EntityScaffold.Model.Resolved
import EntityScaffold.Source.DomainClass
import EntityScaffold.Source.TypeTable

/-!
Domain classes of the entities in use and of the complex types that function imports return. A class
imports the namespaces of its navigations' targets, apart from its own.
-/
namespace EntityScaffold.Emission
open Source

def entityBase : String := "Entity"

def memberOf (owner : String) (p : Property) : Except Fault Member := do
  return ⟨p.name, ← builtinTypes.declaration (some p.type) (p.isNullable.getD false)
    (some (owner ++ "." ++ p.name))⟩

def navigationMember (n : Navigation) : NavigationMember where
  name := n.identifier.display
  type := n.targetTypeName.display
  isCollection := n.multiplicity.isMany

def domainNamespace (c : Config) (bucket : String) : String :=
  c.rootNamespace ++ ".Domain." ++ bucket

def usingsOf (c : Config) (bucket : Label) (e : Entity) : Except Fault (List String) := do
  let targets ← e.navigations.mapM fun n => c.bucket n.targetSchema
  return sortTexts ((targets.filter (· != bucket)).map fun t => domainNamespace c t.display).eraseDups

def entityClass (c : Config) (e : Entity) : Except Fault DomainClass := do
  let bucket ← c.bucket e.schema
  let usings ← usingsOf c bucket e
  return {
    bucket, usings
    className := e.fixedName
    baseClass := some entityBase
    properties := ← e.properties.mapM (memberOf e.name)
    navigations := e.navigations.map navigationMember }

def complexClass (c : Config) (t : ComplexType) : Except Fault DomainClass := do
  return {
    bucket := c.defaultBucket
    className := t.fixedName
    baseClass := none
    usings := []
    properties := ← t.properties.mapM (memberOf t.name)
    navigations := [] }

end EntityScaffold.Emission
