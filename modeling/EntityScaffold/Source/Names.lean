import EntityScaffold.Model.Label
import EntityScaffold.Source.Layout
import EntityScaffold.Source.Literal

/-!
The names that all source units of a run share, and the two smallest units: the class of schema
constants, and the repository of an entity with its interface.
-/
namespace EntityScaffold.Source

structure UnitNames where
  rootNamespace : String
  contextName : String
  schemaClass : String
  deriving DecidableEq, Repr

structure SchemaConstants where
  constants : List (String × String)
  deriving DecidableEq, Repr

def SchemaConstants.lines (names : UnitNames) (u : SchemaConstants) : List String :=
  block ("namespace " ++ names.rootNamespace)
    (block ("public static class " ++ names.schemaClass)
      (u.constants.map fun c => "public const string " ++ c.1 ++ " = " ++ literal c.2 ++ ";"))

structure Repository where
  bucket : Label
  entityName : String
  entityType : String
  deriving DecidableEq, Repr

namespace Repository

def interfaceName (u : Repository) : String := "I" ++ u.entityName ++ "Repository"

def className (u : Repository) : String := u.entityName ++ "Repository"

def contracts (names : UnitNames) : String := names.rootNamespace ++ ".Contracts"

def interfaceLines (names : UnitNames) (u : Repository) : List String :=
  ("using " ++ contracts names ++ ";") :: "" ::
    block ("namespace " ++ contracts names ++ ".Repositories." ++ u.bucket.display)
      (block ("public interface " ++ u.interfaceName ++ " : IRepository<" ++ u.entityType ++ ">")
        [])

def lines (names : UnitNames) (u : Repository) : List String :=
  ("using " ++ contracts names ++ ".Repositories." ++ u.bucket.display ++ ";") :: "" ::
    block ("namespace " ++ names.rootNamespace ++ ".Repositories." ++ u.bucket.display)
      (block
        ("public class " ++ u.className ++ " : Repository<" ++ u.entityType ++ ">, " ++
          u.interfaceName)
        (block ("public " ++ u.className ++ "(" ++ names.contextName ++ " context) : base(context)")
          []))

end Repository

end EntityScaffold.Source
