import EntityScaffold.Xml.Name

/-!
Markup that is read and dropped: comments and character data sections.
-/
namespace EntityScaffold.Xml

/-- The rest after a comment, whose text holds no two hyphens in a row. -/
def afterComment? : List Char → Option (List Char)
  | '-' :: '-' :: '>' :: rest => some rest
  | '-' :: '-' :: _ => none
  | _ :: rest => afterComment? rest
  | [] => none

def afterData? : List Char → Option (List Char)
  | ']' :: ']' :: '>' :: rest => some rest
  | _ :: rest => afterData? rest
  | [] => none

end EntityScaffold.Xml
