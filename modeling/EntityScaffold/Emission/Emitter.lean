import EntityScaffold.Emission.Context
import EntityScaffold.Emission.DomainClasses
import EntityScaffold.Source.Artifact
import EntityScaffold.Trace

/-!
Emitters: what each kind of artifact is made from, in order. A mapping whose configuration would
have the path of an earlier one is left out with a notice.
-/
namespace EntityScaffold

open Source Emission

inductive Emitter where
  | schemaConstants
  | domainModel
  | mappingConfiguration
  | context
  | repository
  deriving DecidableEq, Repr

namespace Emission

def emitSchema (c : Config) (m : ResolvedModel) : Trace SourceUnit :=
  .ofExcept ((schemaUnit c m).map .schemaConstants)

def emitDomain (c : Config) (m : ResolvedModel) : Trace SourceUnit :=
  .after (Noted.lift m.orderedEntities) (fun entities =>
      Trace.forEach entities fun e => .ofExcept ((entityClass c e).map .domainClass)) ++
    Trace.forEach m.returnedComplexTypes fun t =>
      .ofExcept ((complexClass c t).map .domainClass)

def mappingUnit (c : Config) (m : ResolvedModel) (x : Mapping) :
    Except Fault (SourceUnit × String) := do
  let unit := SourceUnit.entityConfiguration (← mappingConfiguration c m x)
  return (unit, ← unit.path c)

/-- Goes through the mappings with the paths that have been emitted. A unit without a path stops
there. -/
def emitMappings (c : Config) (m : ResolvedModel) (emitted : List String) :
    List Mapping → Trace SourceUnit
  | [] => .empty
  | x :: rest =>
    match mappingUnit c m x with
    | .error f => .fault f
    | .ok (unit, path) =>
      if path ∈ emitted then
        .ofNotice (.repeatedFragment x.text) ++ emitMappings c m emitted rest
      else .one unit ++ emitMappings c m (path :: emitted) rest

def emitConfigurations (c : Config) (m : ResolvedModel) : Trace SourceUnit :=
  emitMappings c m [] m.mappings ++
    Trace.forEach m.returnedComplexTypes fun t =>
      .one (.entityConfiguration (complexConfiguration c t))

def emitContext (c : Config) (m : ResolvedModel) : Trace SourceUnit :=
  .ofNoted (do return .contextClass (← contextUnit c m))

def repositoryOf (c : Config) (e : Entity) : Except Fault Repository := do
  let bucket ← c.bucket e.schema
  return ⟨bucket, e.fixedName.display, domainType bucket.display e.fixedName.display⟩

def entityRepository (c : Config) (e : Entity) : Trace SourceUnit :=
  .after (Noted.lift (repositoryOf c e)) fun r =>
    .one (.repositoryInterface r) ++ .one (.repository r)

def emitRepositories (c : Config) (m : ResolvedModel) : Trace SourceUnit :=
  .after (Noted.lift m.orderedEntities) fun entities =>
    Trace.forEach entities (entityRepository c)

end Emission

namespace Emitter

def all : List Emitter :=
  [.schemaConstants, .domainModel, .mappingConfiguration, .context, .repository]

def kind : Emitter → ArtifactKind
  | .schemaConstants => .schema
  | .domainModel => .domain
  | .mappingConfiguration => .configuration
  | .context => .context
  | .repository => .repository

def className : Emitter → String
  | .schemaConstants => "SchemaConstantsEmitter"
  | .domainModel => "DomainModelEmitter"
  | .mappingConfiguration => "MappingConfigurationEmitter"
  | .context => "ContextEmitter"
  | .repository => "RepositoryEmitter"

def units (c : Config) (m : ResolvedModel) : Emitter → Trace SourceUnit
  | .schemaConstants => emitSchema c m
  | .domainModel => emitDomain c m
  | .mappingConfiguration => emitConfigurations c m
  | .context => emitContext c m
  | .repository => emitRepositories c m

def artifacts (c : Config) (m : ResolvedModel) (e : Emitter) : Trace Artifact :=
  (e.units c m).tryMap (·.artifact c)

end Emitter

end EntityScaffold
