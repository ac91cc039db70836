/-!
What a step leaves in the log besides its answer, and the order in which it does so.
-/
namespace EntityScaffold

inductive NoticeLevel where
  | warning
  | error
  deriving DecidableEq, Repr

def NoticeLevel.title : NoticeLevel → String
  | .warning => "WARNING"
  | .error => "ERROR"

inductive Notice where
  | noEntityContainer
  | unmatchedEntitySet (set : String)
  | unknownMode (mode : Option String) (owner : String)
  | ignoredMaxLength (raw : String)
  | unknownProperty (entity property column : String)
  | repeatedFragment (mapping : String)
  | unmappedImport (function : String)
  | unmappedReturn (function entity : String)
  | fileNotFound (path : String)
  | unusualSuffix (path : String)
  | writeFailed (text : String)
  deriving DecidableEq, Repr

namespace Notice

def level : Notice → NoticeLevel
  | .fileNotFound _ | .writeFailed _ => .error
  | _ => .warning

def message : Notice → String
  | .noEntityContainer => "SSDL has no entity container; using default schema for all tables"
  | .unmatchedEntitySet s => s!"Entity set '{s}' has no matching storage type"
  | .unknownMode m o =>
    "Unknown parameter mode '" ++ m.getD "None" ++ s!"' in {o}; assuming In"
  | .ignoredMaxLength r => s!"Ignoring non-numeric MaxLength '{r}'"
  | .unknownProperty e p c => s!"Entity '{e}' has no property '{p}' mapped from column '{c}'"
  | .repeatedFragment m => s!"Skipping additional mapping fragment {m}"
  | .unmappedImport f => s!"Function import '{f}' has no storage mapping; calling it by name"
  | .unmappedReturn f e =>
    s!"Function import '{f}' returns entity '{e}', which is not mapped to a table"
  | .fileNotFound p => s!"File not found: {p}"
  | .unusualSuffix p => s!"File does not have an .edmx extension: {p}"
  | .writeFailed t => t

end Notice

end EntityScaffold
