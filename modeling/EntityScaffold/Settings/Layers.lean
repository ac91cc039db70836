import EntityScaffold.Fault
import EntityScaffold.Settings.Key
import EntityScaffold.Sorting

/-!
Settings from layers: the defaults, a file, and explicit values on top. A null in the file counts as
a value; an explicit null counts as not given. Names that no key has are refused, all at once.
-/
namespace EntityScaffold

abbrev SettingLayer := List (String × Json)

namespace Settings

def given (custom : SettingLayer) : SettingLayer := custom.filter fun f => !f.2.isNull

/-- The names of two layers that no key has, sorted and each once. -/
def unknownNames (file custom : SettingLayer) : List String :=
  sortTexts (((file ++ custom).map Prod.fst).filter fun n => !SettingKey.isKnown n).eraseDups

def isObject : Json → Bool
  | .obj _ => true
  | _ => false

def ofLayers (file custom : SettingLayer) : Except SettingsFlaw Settings :=
  let unknown := unknownNames file (given custom)
  let merged := (defaults.overlay file).overlay (given custom)
  let overrides := merged.value .nameOverrides
  if unknown ≠ [] then .error (.unknownKeys unknown)
  else if overrides.truthy && !isObject overrides then .error .overridesNotObject
  else .ok merged

/-- Settings whose values are taken as they are, null included. -/
def ofValues (values : SettingLayer) : Except Fault Settings :=
  match values.find? fun f => !SettingKey.isKnown f.1 with
  | some f => .error (.wrongForm f.1)
  | none => .ok (defaults.overlay values)

end Settings

end EntityScaffold
