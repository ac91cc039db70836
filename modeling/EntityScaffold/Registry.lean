import EntityScaffold.Catalog
import EntityScaffold.Emission.Emitter
import EntityScaffold.Settings.File

/-!
Registries of emitters by kind, whatever emitters are. A kind may have aliases; kinds and aliases are
compared in lower case. Registering a kind that is there changes nothing unless it replaces. An alias
that clashes stops a registration, and what was entered before it stays. Names may come as labels;
one that is no text is refused when its letters are needed.
-/
namespace EntityScaffold

structure KindEntry (ε : Type) where
  kind : String
  emitter : ε
  deriving DecidableEq, Repr

instance {ε : Type} : Keyed (KindEntry ε) := ⟨KindEntry.kind⟩

structure AliasEntry where
  name : String
  kind : String
  deriving DecidableEq, Repr

instance : Keyed AliasEntry := ⟨AliasEntry.name⟩

structure Registry (ε : Type := Emitter) where
  kinds : Catalog (KindEntry ε) := .empty
  aliases : Catalog AliasEntry := .empty

namespace Registry

section names

variable {ε : Type}

def empty : Registry ε := {}

instance : Inhabited (Registry ε) := ⟨empty⟩

def aliasFlaw? (r : Registry ε) (kind name : String) : Option RegistryFlaw :=
  if r.kinds.contains (Text.lower name) then some (.aliasIsKind name)
  else
    match r.aliases.find? (Text.lower name) with
    | some a => if a.kind = kind then none else some (.aliasTaken name a.kind)
    | none => none

def addAlias (r : Registry ε) (kind name : String) : Registry ε :=
  { r with aliases := r.aliases.insert ⟨Text.lower name, kind⟩ }

def aliasFault? (r : Registry ε) (kind : String) (replace : Bool) (name : String) : Option Fault :=
  if replace then none else (r.aliasFlaw? kind name).map .registry

/-- Enters aliases in order until one clashes or is no text; an alias equal to its kind is passed
over. -/
def addAliases (r : Registry ε) (kind : String) (replace : Bool) :
    List Label → Registry ε × Except Fault Unit
  | [] => (r, .ok ())
  | name :: rest =>
    match Label.letters name with
    | .error f => (r, .error f)
    | .ok name =>
      if Text.lower name = kind then r.addAliases kind replace rest
      else
        match r.aliasFault? kind replace name with
        | some f => (r, .error f)
        | none => (r.addAlias kind name).addAliases kind replace rest

def addGivenAliases (r : Registry ε) (kind : String) (replace : Bool) (aliases : Label) :
    Registry ε × Except Fault Unit :=
  if Label.isGiven aliases then
    match Label.parts aliases with
    | .error f => (r, .error f)
    | .ok names => r.addAliases kind replace names
  else (r, .ok ())

/-- Registers an emitter; `none` stands for something that is no emitter. -/
def register (r : Registry ε) (kind : Label) (emitter : Option ε) (aliases : Label)
    (replace : Bool) : Registry ε × Except Fault Unit :=
  match emitter, Label.letters kind with
  | none, _ => (r, .error (.registry .notAnEmitter))
  | some _, .error f => (r, .error f)
  | some e, .ok kind =>
    if r.kinds.contains (Text.lower kind) && !replace then (r, .ok ())
    else
      { r with kinds := r.kinds.insert ⟨Text.lower kind, e⟩ }.addGivenAliases (Text.lower kind)
        replace aliases

def unregister (r : Registry ε) (kind : String) : Registry ε where
  kinds := r.kinds.filter fun k => k.kind != Text.lower kind
  aliases := r.aliases.filter fun a => a.kind != Text.lower kind

def listKinds (r : Registry ε) : List String := sortTexts r.kinds.keys

def aliasesOf (r : Registry ε) (kind : String) : List String :=
  sortTexts ((r.aliases.entries.filter fun a => a.kind == Text.lower kind).map (·.name))

def supports (r : Registry ε) (name : String) : Bool :=
  r.kinds.contains (Text.lower name) || r.aliases.contains (Text.lower name)

def emitter (r : Registry ε) (name : String) : Except Fault ε :=
  match r.kinds.find? (Text.lower name) with
  | some k => .ok k.emitter
  | none =>
    match r.aliases.find? (Text.lower name) with
    | some a =>
      match r.kinds.find? a.kind with
      | some k => .ok k.emitter
      | none => .error (.absentEntry a.kind)
    | none => .error (.registry (.unknownKind name r.listKinds))

end names

inductive SettingsSource where
  | none
  | layer (values : SettingLayer)
  | file (name : String)
  | whole (values : SettingLayer)
  | other (type : String)

def SettingsSource.ofJson : Json → SettingsSource
  | .null => .none
  | .obj fields => .layer fields
  | .str name => .file name
  | value => .other value.formName

def SettingsSource.load (t : FileTree) : SettingsSource → Except Fault Settings
  | .none => Settings.load t .none []
  | .layer values => Settings.load t .none values
  | .file name => Settings.load t (some name) []
  | .whole values => Settings.ofValues values
  | .other type => .error (.registry (.settingsType type))

/-- The emitter of a name together with its settings, from which its naming rules must follow; the
name is looked up first. -/
def create {ε : Type} (r : Registry ε) (t : FileTree) (name : String) (source : SettingsSource) :
    Except Fault (ε × Settings) := do
  let e ← r.emitter name
  let settings ← source.load t
  discard settings.naming
  return (e, settings)

def builtin : Registry :=
  let add (r : Registry) (e : Emitter) (aliases : List String) : Registry :=
    (r.register (.str e.kind.text) (some e) (.arr (aliases.map .str)) false).1
  let r := add empty .schemaConstants ["schemas", "schema-constants"]
  let r := add r .domainModel ["models", "domain-models"]
  let r := add r .mappingConfiguration ["configurations", "mapping"]
  let r := add r .context ["dbcontext"]
  add r .repository ["repositories"]

end Registry

end EntityScaffold
