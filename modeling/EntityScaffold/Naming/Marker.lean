import EntityScaffold.Text.Case

/-!
Markers at the front of database names: those that say a name belongs to a view, and those that say
it belongs to a stored procedure or function. A marker is dropped in any case, and only when
something is left behind it.
-/
namespace EntityScaffold.Naming
open Text

def viewMarkers : List String := ["view_", "vista_", "vista", "vw_", "vw"]

def functionMarkers : List String := ["usp_", "sp_", "ufn_", "fn_", "pa_"]

def dropMarker? (markers : List String) (name : List Char) : Option (List Char) :=
  let lowered := lowerChars name
  (markers.find? fun m => m.toList.isPrefixOf lowered && m.length < name.length).map fun m =>
    name.drop m.length

/-- A lone `v` counts only before a capital letter. -/
def dropLoneMarker (name : List Char) : List Char :=
  match name with
  | v :: c :: rest => if (v == 'v' || v == 'V') && isUpper c then c :: rest else name
  | _ => name

def withoutViewMarker (name : List Char) : List Char :=
  (dropMarker? viewMarkers name).getD (dropLoneMarker name)

def withoutFunctionMarker (name : List Char) : List Char :=
  (dropMarker? functionMarkers name).getD name

def stripViewMarker (name : String) : String := String.ofList (withoutViewMarker name.toList)

def stripFunctionMarker (name : String) : String :=
  String.ofList (withoutFunctionMarker name.toList)

end EntityScaffold.Naming
