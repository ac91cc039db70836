import EntityScaffold.Emission.Procedures
import EntityScaffold.Naming.Plural

/-!
The context of a model: a set and a configuration for each entity in use, a configuration for each
complex type that is returned, and a method for each function import.
-/
namespace EntityScaffold.Emission
open Source

def entityTypeOf (c : Config) (e : Entity) : Except Fault String := do
  return domainType (← c.bucket e.schema).display e.fixedName.display

def entitySetMember (c : Config) (e : Entity) : Except Fault EntitySetMember := do
  let type ← entityTypeOf c e
  return ⟨type, (← Naming.pluralLabel e.fixedName).display⟩

def configurationType (bucket name : String) : String :=
  "Configuration." ++ bucket ++ "." ++ configurationName name

def entityConfigurationType (c : Config) (e : Entity) : Except Fault String := do
  return configurationType (← c.bucket e.schema).display e.fixedName.display

def complexConfigurationType (c : Config) (t : ComplexType) : String :=
  configurationType c.defaultBucket.display t.fixedName.display

def registeredConfigurations (c : Config) (m : ResolvedModel) (entities : List Entity) :
    Except Fault (List String) := do
  return (← entities.mapM (entityConfigurationType c)) ++
    m.returnedComplexTypes.map (complexConfigurationType c)

inductive ImportMethod where
  | function (f : FunctionMethod)
  | procedure (p : ProcedureMethod)

def ImportMethod.function? : ImportMethod → Option FunctionMethod
  | .function f => some f
  | .procedure _ => none

def ImportMethod.procedure? : ImportMethod → Option ProcedureMethod
  | .function _ => none
  | .procedure p => some p

def importMethod (c : Config) (m : ResolvedModel) (f : FunctionImport) : Noted ImportMethod :=
  if f.isComposable then (do return .function (← functionMethod c m f))
  else (do return .procedure (← procedureMethod c m f))

def contextUnit (c : Config) (m : ResolvedModel) : Noted ContextClass := do
  let entities ← m.orderedEntities
  let sets ← Noted.lift (entities.mapM (entitySetMember c))
  let configurations ← registeredConfigurations c m entities
  let methods ← m.conceptual.functions.entries.mapM (importMethod c m)
  return {
    sets, configurations
    functions := methods.filterMap (·.function?)
    procedures := methods.filterMap (·.procedure?) }

end EntityScaffold.Emission
