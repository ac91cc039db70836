import EntityScaffold.Text.Quoted

/-!
The switches of the command line. A switch has one or more names and may take a value; a long name
may be cut short where that leaves no doubt.
-/
namespace EntityScaffold.CommandLine

inductive Switch where
  | help
  | rootNamespace
  | modelName
  | config
  | noContext
  | noModels
  | noRepositories
  | noConfigurations
  | dryRun
  | verbose
  | version
  deriving DecidableEq, Repr

namespace Switch

def all : List Switch :=
  [.help, .rootNamespace, .modelName, .config, .noContext, .noModels, .noRepositories,
    .noConfigurations, .dryRun, .verbose, .version]

def names : Switch → List String
  | .help => ["-h", "--help"]
  | .rootNamespace => ["--namespace", "-n"]
  | .modelName => ["--model-name", "-m"]
  | .config => ["--config"]
  | .noContext => ["--no-context"]
  | .noModels => ["--no-models"]
  | .noRepositories => ["--no-repositories"]
  | .noConfigurations => ["--no-configurations"]
  | .dryRun => ["--dry-run"]
  | .verbose => ["--verbose", "-v"]
  | .version => ["--version"]

def takesValue : Switch → Bool
  | .rootNamespace | .modelName | .config => true
  | _ => false

def title (s : Switch) : String := "/".intercalate s.names

def named : List (String × Switch) := all.flatMap fun s => s.names.map fun n => (n, s)

def ofName? (name : String) : Option Switch := named.lookup name

end Switch

inductive UsageFlaw where
  | ambiguous (given : String) (names : List String)
  | missingValue (switch : Switch)
  | strayValue (switch : Switch) (value : String)
  | missingArguments (names : List String)
  | unrecognized (arguments : List String)
  deriving DecidableEq, Repr

def UsageFlaw.message : UsageFlaw → String
  | .ambiguous given names =>
    s!"ambiguous option: {given} could match " ++ ", ".intercalate names
  | .missingValue s => "argument " ++ s.title ++ ": expected one argument"
  | .strayValue s v =>
    "argument " ++ s.title ++ ": ignored explicit argument " ++ Text.quoted v
  | .missingArguments names =>
    "the following arguments are required: " ++ ", ".intercalate names
  | .unrecognized arguments => "unrecognized arguments: " ++ " ".intercalate arguments

def programName : String := "edmx-migrator"

def versionText : String := programName ++ " 0.1.0\n"

def usageError (f : UsageFlaw) : String := programName ++ ": error: " ++ f.message

end EntityScaffold.CommandLine
