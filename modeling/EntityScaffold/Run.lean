import EntityScaffold.Binding.Bind
import EntityScaffold.Emission.Emitter
import EntityScaffold.Files.Document
import EntityScaffold.Reading.Conceptual
import EntityScaffold.Reading.Mapping
import EntityScaffold.Reading.Storage
import EntityScaffold.Xml.Document

/-!
Runs: a document is read and bound, and every enabled kind of artifact is emitted from it. A run is
a trace of the artifacts with events in between that say how far it has come. It writes nothing.
-/
namespace EntityScaffold
open Source

inductive RunEvent where
  | reading (source : String)
  | readingSections
  | bound (entities tables : Nat)
  | generating (kind : ArtifactKind)
  | generated (count : Nat)
  deriving DecidableEq, Repr

def RunEvent.message : RunEvent → String
  | .reading source => s!"Reading {source}"
  | .readingSections => "Reading storage, conceptual and mapping sections"
  | .bound entities tables => s!"Bound {entities} entities to {tables} tables"
  | .generating kind => "Generating " ++ kind.text ++ " artifacts"
  | .generated count => s!"Generated {count} artifacts"

inductive RunItem where
  | event (e : RunEvent)
  | artifact (a : Artifact)

def RunItem.artifact? : RunItem → Option Artifact
  | .event _ => none
  | .artifact a => some a

def readAndBind (c : Config) (root : Xml.Element) : Noted ResolvedModel := do
  let naming ← Noted.lift c.naming
  let storage ← Reading.readStorage ⟨naming, c.defaultSchema⟩ root
  let conceptual ← Reading.readConceptual naming root
  let mappings ← Noted.lift (Reading.readMappings root)
  let functionMappings ← Noted.lift (Reading.readFunctionMappings root)
  Binding.bind storage conceptual mappings functionMappings

def parseDocument (d : SourceDocument) : Except Fault Xml.Element :=
  match Xml.ofBytes? d.content with
  | some root => .ok root
  | none => .error (.malformedDocument d.source)

def resolveDocument (c : Config) (d : SourceDocument) : Noted ResolvedModel := do
  let root ← Noted.lift (parseDocument d)
  readAndBind c root

/-- The emitters of a run, schema constants always first. -/
def enabledEmitters (c : Config) : List Emitter :=
  [.schemaConstants] ++
  (if c.emitDomainModels then [.domainModel] else []) ++
  (if c.emitMappingConfiguration then [.mappingConfiguration] else []) ++
  (if c.emitContext then [.context] else []) ++
  (if c.emitRepositories then [.repository] else [])

def emitterItems (c : Config) (m : ResolvedModel) (e : Emitter) : Trace RunItem :=
  .one (.event (.generating e.kind)) ++ (e.artifacts c m).map .artifact

def emissionItems (c : Config) (m : ResolvedModel) : Trace RunItem :=
  Trace.forEach (enabledEmitters c) (emitterItems c m)

def artifactsOf (x : Trace RunItem) : List Artifact := x.items.filterMap (·.artifact?)

def emitModel (c : Config) (m : ResolvedModel) : Trace RunItem :=
  let emission := emissionItems c m
  .one (.event (.bound m.usedEntities.length m.usedTables.length)) ++ emission ++
    .one (.event (.generated (artifactsOf emission).length))

def runDocument (c : Config) (d : SourceDocument) : Trace RunItem :=
  .one (.event .readingSections) ++ .after (resolveDocument c d) (emitModel c)

def loadSource (c : Config) (t : FileTree) : Noted SourceDocument := do
  t.loadDocument (← Noted.lift c.sourcePath.text)

def runSource (c : Config) (t : FileTree) : Trace RunItem :=
  if c.sourcePath.isGiven then
    .one (.event (.reading c.sourcePath.display)) ++
      .after (loadSource c t) (runDocument c)
  else .fault .noSource

def Config.sourceText? (c : Config) : Option String :=
  if c.sourcePath.isNull then none else some c.sourcePath.display

def runContent (c : Config) (content : List UInt8) : Trace RunItem :=
  runDocument c ⟨c.sourceText?, content⟩

end EntityScaffold
