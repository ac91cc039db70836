import EntityScaffold.Config
import EntityScaffold.Source.ContextClass
import EntityScaffold.Source.DomainClass
import EntityScaffold.Source.EntityConfiguration

/-!
Source units of every kind, and the artifacts they become: a path with slashes and the text of the
file. The extension is added to the whole path.
-/
namespace EntityScaffold.Source

inductive ArtifactKind where
  | schema
  | domain
  | configuration
  | context
  | repository
  deriving DecidableEq, Repr

def ArtifactKind.text : ArtifactKind → String
  | .schema => "schema"
  | .domain => "domain"
  | .configuration => "configuration"
  | .context => "context"
  | .repository => "repository"

inductive SourceUnit where
  | schemaConstants (u : SchemaConstants)
  | domainClass (u : DomainClass)
  | entityConfiguration (u : EntityConfiguration)
  | contextClass (u : ContextClass)
  | repositoryInterface (u : Repository)
  | repository (u : Repository)
  deriving DecidableEq, Repr

structure Artifact where
  path : String
  kind : ArtifactKind
  content : String
  deriving DecidableEq, Repr

namespace SourceUnit

def kind : SourceUnit → ArtifactKind
  | .schemaConstants _ => .schema
  | .domainClass _ => .domain
  | .entityConfiguration _ => .configuration
  | .contextClass _ => .context
  | .repositoryInterface _ | .repository _ => .repository

def pathParts (names : UnitNames) : SourceUnit → List Label
  | .schemaConstants _ => [.str names.schemaClass]
  | .domainClass u => [.str "Domain", u.bucket, u.className]
  | .entityConfiguration u => [.str "Configuration", u.bucket, .str u.className]
  | .contextClass _ => [.str names.contextName]
  | .repositoryInterface u => [.str "IRepositories", u.bucket, .str u.interfaceName]
  | .repository u => [.str "Repositories", u.bucket, .str u.className]

def lines (names : UnitNames) : SourceUnit → List String
  | .schemaConstants u => u.lines names
  | .domainClass u => u.lines names
  | .entityConfiguration u => u.lines names
  | .contextClass u => u.lines names
  | .repositoryInterface u => u.interfaceLines names
  | .repository u => u.lines names

def path (c : Config) (u : SourceUnit) : Except Fault String := do
  return "/".intercalate (← (u.pathParts c.unitNames).mapM Label.text) ++ (← c.fileExtension.text)

def artifact (c : Config) (u : SourceUnit) : Except Fault Artifact := do
  return ⟨← u.path c, u.kind, codeText (u.lines c.unitNames)⟩

end SourceUnit

end EntityScaffold.Source
