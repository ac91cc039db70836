import EntityScaffold.CommandLine.Token
import EntityScaffold.Settings.Layers

/-!
Arguments: two words, the source and the destination, and switches before, between and after them.
What is left over is refused at the end, all at once. A divider in front of a word or behind it
belongs to the word; a word or a value that is spelled like a divider is taken for one where none
is beside it, and then nothing is left of it.
-/
namespace EntityScaffold.CommandLine

inductive Given where
  | text (text : String)
  | nothing
  deriving DecidableEq, Repr

namespace Given

def ofText (text : String) : Given := if text = dividerText then .nothing else .text text

/-- An argument of which nothing is left is an empty list. -/
def value : Given → Json
  | .text t => .str t
  | .nothing => .arr []

def text? : Given → Option String
  | .text t => some t
  | .nothing => none

end Given

structure Arguments where
  words : List Given := []
  leftOver : List String := []
  rootNamespace : Option Given := none
  modelName : Option Given := none
  config : Option Given := none
  given : List Switch := []
  deriving DecidableEq, Repr

/-- Why a command line is not acted on: it is refused, or it only asks about the program. -/
inductive Refusal where
  | usage (flaw : UsageFlaw)
  | help
  | version
  deriving DecidableEq, Repr

abbrev Parsing := Except Refusal

namespace Arguments

def wordNames : List String := ["source", "destination"]

def missing (a : Arguments) : Nat := wordNames.length - a.words.length

def setValue (a : Arguments) (s : Switch) (value : Given) : Arguments :=
  match s with
  | .rootNamespace => { a with rootNamespace := some value }
  | .modelName => { a with modelName := some value }
  | .config => { a with config := some value }
  | _ => a

def useFlag (a : Arguments) (s : Switch) : Parsing Arguments :=
  match s with
  | .help => .error .help
  | .version => .error .version
  | _ => .ok { a with given := s :: a.given }

def useFlags (a : Arguments) (flags : List Switch) : Parsing Arguments := flags.foldlM useFlag a

def dropDividers (ts : List Token) : List Token := ts.dropWhile (· == .divider)

/-- Takes words from the front, as many as are missing, with the dividers beside them. -/
def takeWords : Nat → Arguments → List Token → Arguments × List Token
  | 0, a, ts => (a, ts)
  | n + 1, a, ts =>
    match dropDividers ts with
    | .word text :: rest =>
      let taken := if ts.head? = some .divider then .text text else .ofText text
      takeWords n { a with words := a.words ++ [taken] } (dropDividers rest)
    | _ => (a, ts)

/-- What a switch and the letters behind it come to: some flags, and a last switch with its value or
without one. -/
structure Cluster where
  flags : List Switch
  last : Switch
  value : Option (List Char)
  deriving DecidableEq, Repr

def strayValue (s : Switch) (text : List Char) : UsageFlaw := .strayValue s (String.ofList text)

def readLetters (flags : List Switch) (s : Switch) (text : List Char) : Except UsageFlaw Cluster :=
  if s.takesValue then .ok ⟨flags, s, some text⟩
  else
    match text with
    | [] => .error (strayValue s [])
    | c :: rest =>
      match Switch.ofName? (String.ofList ['-', c]) with
      | none => .error (strayValue s (c :: rest))
      | some next =>
        if rest.isEmpty then .ok ⟨flags ++ [s], next, none⟩
        else readLetters (flags ++ [s]) next rest
termination_by text.length

def clusterOf (s : Switch) : Attachment → Except UsageFlaw Cluster
  | .none => .ok ⟨[], s, none⟩
  | .value text =>
    if s.takesValue then .ok ⟨[], s, some text⟩ else .error (strayValue s text)
  | .letters text => readLetters [] s text

/-- Uses a cluster; a switch that still lacks its value takes the next word. -/
def useCluster (a : Arguments) (c : Cluster) (ts : List Token) :
    Parsing (Arguments × List Token) :=
  match c.value with
  | some text => do
    let a ← a.useFlags c.flags
    return (a.setValue c.last (.ofText (String.ofList text)), ts)
  | none =>
    if c.last.takesValue then
      match ts with
      | .word text :: rest => do
        let a ← a.useFlags c.flags
        return (a.setValue c.last (.ofText text), rest)
      | _ => .error (.usage (.missingValue c.last))
    else do return (← a.useFlags (c.flags ++ [c.last]), ts)

def useSwitch (a : Arguments) (s : Switch) (value : Attachment) (ts : List Token) :
    Parsing (Arguments × List Token) :=
  match clusterOf s value with
  | .ok c => a.useCluster c ts
  | .error flaw => .error (.usage flaw)

def textOf : Token → String
  | .word text | .unknown text => text
  | .divider => dividerText
  | .switch _ name _ => name

def leave (a : Arguments) (ts : List Token) : Arguments :=
  { a with leftOver := a.leftOver ++ ts.map textOf }

/-- Goes through the tokens; each round uses up at least one of them. -/
def consume : Nat → Arguments → List Token → Parsing Arguments
  | 0, a, _ => .ok a
  | fuel + 1, a, ts =>
    match ts with
    | [] => .ok a
    | .switch s _ value :: rest => do
      let (a, rest) ← a.useSwitch s value rest
      consume fuel a rest
    | .unknown text :: rest => consume fuel { a with leftOver := a.leftOver ++ [text] } rest
    | ts =>
      let (b, rest) := takeWords a.missing a ts
      if rest.length < ts.length then consume fuel b rest
      else
        consume fuel (a.leave (ts.takeWhile fun t => !t.isSwitch))
          (ts.dropWhile fun t => !t.isSwitch)

def check (a : Arguments) : Parsing Arguments :=
  if a.missing ≠ 0 then
    .error (.usage (.missingArguments (wordNames.drop a.words.length)))
  else if a.leftOver ≠ [] then .error (.usage (.unrecognized a.leftOver))
  else .ok a

def parse (texts : List String) : Parsing Arguments :=
  match tokens texts with
  | .error flaw => .error (.usage flaw)
  | .ok ts => do
    let a ← consume (ts.length + 1) {} ts
    a.check

def has (a : Arguments) (s : Switch) : Bool := a.given.contains s

def valueOf : Option Given → Json
  | some given => given.value
  | none => .null

/-- A switch that turns something off says nothing where it is not given. -/
def offValue (a : Arguments) (s : Switch) : Json := if a.has s then .bool false else .null

def layer (a : Arguments) : SettingLayer :=
  [(SettingKey.sourcePath.text, valueOf a.words[0]?),
    (SettingKey.destinationRoot.text, valueOf a.words[1]?),
    (SettingKey.rootNamespace.text, valueOf a.rootNamespace),
    (SettingKey.modelName.text, valueOf a.modelName),
    (SettingKey.emitContext.text, a.offValue .noContext),
    (SettingKey.emitDomainModels.text, a.offValue .noModels),
    (SettingKey.emitRepositories.text, a.offValue .noRepositories),
    (SettingKey.emitMappingConfiguration.text, a.offValue .noConfigurations)]

def settingsFile? (a : Arguments) : Option String := a.config.bind (·.text?)

end Arguments

end EntityScaffold.CommandLine
