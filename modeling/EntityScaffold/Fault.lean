import EntityScaffold.Model.Multiplicity
import EntityScaffold.Files.FileError

/-!
Why a step fails. Every cause keeps what its message names; the wording is made in one place. A
migration stops at the first fault. `Fault.isReported` tells the causes that a run answers with a
message from those that mean its input broke a promise.
-/
namespace EntityScaffold

inductive DocumentSection where
  | storage
  | conceptual
  | mapping
  deriving DecidableEq, Repr

def DocumentSection.title : DocumentSection → String
  | .storage => "storage schema (SSDL)"
  | .conceptual => "conceptual schema (CSDL)"
  | .mapping => "C-S mapping"

inductive ConstraintEnd where
  | principal
  | dependent
  deriving DecidableEq, Repr

def ConstraintEnd.title : ConstraintEnd → String
  | .principal => "Principal"
  | .dependent => "Dependent"

inductive AssociationFlaw where
  | endCount (found : Nat)
  | unknownTable (table : String)
  | unknownEntity (entity : String)
  | unknownMultiplicity (token : Option String)
  | duplicateRoles
  | constraintCount
  | constraintEnd (which : ConstraintEnd)
  | strayRole
  | columnMismatch
  deriving DecidableEq, Repr

def AssociationFlaw.message (name : String) : AssociationFlaw → String
  | .endCount n => s!"Association '{name}' must have exactly two ends, found {n}"
  | .unknownTable t => s!"Association '{name}' references unknown table '{t}'"
  | .unknownEntity e => s!"Association '{name}' references unknown entity '{e}'"
  | .unknownMultiplicity t =>
    s!"Unrecognized multiplicity '" ++ t.getD "None" ++ s!"' in association '{name}'"
  | .duplicateRoles => s!"Association '{name}' declares duplicate roles"
  | .constraintCount => s!"Association '{name}' must have exactly one referential constraint"
  | .constraintEnd w =>
    s!"Association '{name}' must have exactly one " ++ w.title ++ " element"
  | .strayRole => s!"Association '{name}' constraint names a role that has no end"
  | .columnMismatch => s!"Association '{name}' has mismatched principal/dependent columns"

/-- A name that some model lacks; `mapping` is the mapping's own description. -/
inductive ReferenceFlaw where
  | mappedTable (mapping table : String)
  | mappedEntity (mapping entity : String)
  | mappedColumn (mapping column table : String)
  | navigationTarget (entity target : String)
  | unmappedTarget (entity target : String)
  | foreignKeyTable (foreignKey table : String)
  deriving DecidableEq, Repr

def ReferenceFlaw.message : ReferenceFlaw → String
  | .mappedTable m t =>
    s!"Mapping {m} references table '{t}', which is not in the storage model"
  | .mappedEntity m e =>
    s!"Mapping {m} references entity '{e}', which is not in the conceptual model"
  | .mappedColumn m c t =>
    s!"Mapping {m} references column '{c}', which table '{t}' does not have"
  | .navigationTarget e t => s!"Navigation from '{e}' targets unknown entity '{t}'"
  | .unmappedTarget e t =>
    s!"Navigation from '{e}' targets entity '{t}', which is not mapped to any table"
  | .foreignKeyTable k t => s!"Foreign key {k} on '{t}' targets an unknown table"

inductive SettingsFlaw where
  | fileMissing (path : String)
  | fileNotJson (path : String)
  | fileUnreadable (path : String) (error : FileError)
  | fileMalformed
  | fileNotObject (path : String)
  | unknownKeys (keys : List String)
  | overridesNotObject
  | unsaved (path : String) (error : FileError)
  deriving DecidableEq, Repr

def SettingsFlaw.message : SettingsFlaw → String
  | .fileMissing p => s!"Configuration file not found: {p}"
  | .fileNotJson p => s!"Configuration file must be JSON: {p}"
  | .fileUnreadable p e => s!"Failed to load configuration file {p}: " ++ e.message
  | .fileMalformed => "Invalid JSON in configuration file"
  | .fileNotObject p => s!"Configuration file must contain a JSON object: {p}"
  | .unknownKeys ks => "Unknown configuration keys: " ++ ", ".intercalate ks
  | .overridesNotObject => "name_overrides must be an object of raw name -> identifier"
  | .unsaved p e => s!"Failed to save configuration to {p}: " ++ e.message

inductive RegistryFlaw where
  | notAnEmitter
  | aliasIsKind (name : String)
  | aliasTaken (name target : String)
  | unknownKind (kind : String) (available : List String)
  | settingsType (name : String)
  deriving DecidableEq, Repr

def RegistryFlaw.message : RegistryFlaw → String
  | .notAnEmitter => "Emitter class must inherit from ArtifactEmitter"
  | .aliasIsKind a => s!"Alias '{a}' conflicts with an existing kind"
  | .aliasTaken a t => s!"Alias '{a}' already points to '{t}'"
  | .unknownKind k ks =>
    s!"No emitter registered for kind: {k}. Available: " ++ ", ".intercalate ks
  | .settingsType n => s!"Invalid config type: <class '{n}'>"

/-- What a layout or a template lacks: a value it shows, a part of such a value, or the template
itself. An owner is named by the kind of value it is. -/
inductive LayoutFlaw where
  | undefined (name : String)
  | undefinedPart (owner name : String)
  | undefinedElement (owner : String) (index : Nat)
  | missing (template : String)
  deriving DecidableEq, Repr

def LayoutFlaw.message : LayoutFlaw → String
  | .undefined n => s!"'{n}' is undefined"
  | .undefinedPart o n => s!"'{o}' has no attribute '{n}'"
  | .undefinedElement o i => s!"{o} has no element {i}"
  | .missing t => t

inductive Fault where
  | malformedDocument (source : Option String)
  | fileNotFound (path : String)
  | noSource
  | missingSection (which : DocumentSection)
  | association (name : String) (flaw : AssociationFlaw)
  | reference (flaw : ReferenceFlaw)
  | unsupportedType (type : String) (owner : Option String)
  | unsupportedShape (source destination : Multiplicity) (table foreignKey : String)
  | noFreeName (base : String)
  | folder (path : String) (error : FileError)
  | write (path : String) (error : FileError)
  | layout (template : String) (flaw : LayoutFlaw)
  | settings (flaw : SettingsFlaw)
  | registry (flaw : RegistryFlaw)
  | brokenReplacement (acronym : String)
  | brokenName (name : String)
  | absentEntry (name : String)
  | absentTable (name : String)
  | unknownDirection (mode : String)
  | wrongForm (shown : String)
  | wrongSize (shown : String)
  | notText (shown : String)
  | wrongMoment
  | oversizedNumber
  | unusablePath (path : String)
  | unreachable (error : FileError)
  deriving DecidableEq, Repr

namespace Fault

def suffixLimit : Nat := 10000

def message : Fault → String
  | .malformedDocument _ => "Invalid XML in EDMX document"
  | .fileNotFound p => s!"File not found: {p}"
  | .noSource => "No EDMX source was given"
  | .missingSection s => "The EDMX document does not contain a " ++ s.title ++ " section."
  | .association n f => f.message n
  | .reference f => f.message
  | .unsupportedType t none => s!"Unsupported type: {t}"
  | .unsupportedType t (some "") => s!"Unsupported type: {t}"
  | .unsupportedType t (some o) => s!"Unsupported type: {t} ({o})"
  | .unsupportedShape s d t k =>
    "Unsupported multiplicity combination " ++ s.token ++ " -> " ++ d.token ++
      s!" on '{t}' ({k})"
  | .noFreeName b =>
    s!"Could not find a free identifier for '{b}' after {suffixLimit} attempts"
  | .folder p e => s!"Failed to create folder {p}: " ++ e.message
  | .write p e => s!"Failed to write {p}: " ++ e.message
  | .layout t f => s!"Failed to render template {t}: " ++ f.message
  | .settings f => f.message
  | .registry f => f.message
  | .brokenReplacement a => s!"bad escape in {a}"
  | .brokenName n => s!"no name: {n}"
  | .absentEntry n => s!"no entry {n}"
  | .absentTable n => s!"no table {n}"
  | .unknownDirection m => s!"Unknown parameter mode: {m}"
  | .wrongForm t => s!"{t} has not the form that is needed"
  | .wrongSize t => s!"{t} has not as many parts as are needed"
  | .notText t => s!"{t} is no text"
  | .wrongMoment => "no such day or time of day"
  | .oversizedNumber => "a number has too many digits"
  | .unusablePath p => s!"no path can hold a character of {p}"
  | .unreachable e => e.message

/-- Faults that end a run with a message. The others break what the callers of a step promise:
a registry asked for a kind it lacks, a value of the wrong form, or a path that no system takes. -/
def isReported : Fault → Bool
  | .registry _ | .brokenReplacement _ | .brokenName _ | .absentEntry _ | .absentTable _
  | .unknownDirection _ | .wrongForm _ | .wrongSize _ | .notText _ | .wrongMoment
  | .oversizedNumber | .unusablePath _ | .unreachable _ => false
  | _ => true

end Fault

end EntityScaffold
