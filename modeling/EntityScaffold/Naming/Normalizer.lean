import EntityScaffold.Naming.Acronym
import EntityScaffold.Naming.Marker
import EntityScaffold.Naming.Words

/-!
Fixed names: the identifiers that generated code uses for raw database and model names. A name is
converted twice, because a name of single letters settles only on the second pass. An override
gives the fixed name outright, whatever value it holds. Acronyms and suffix words must be texts as
soon as a name is converted.
-/
namespace EntityScaffold.Naming
open Text

structure NamingRules where
  acronyms : List Label
  suffixWords : List Label
  overrides : List (String × Label)

namespace NamingRules

def ofTexts (acronyms suffixWords : List String) (overrides : List (String × String)) :
    NamingRules :=
  ⟨acronyms.map .str, suffixWords.map .str, overrides.map fun o => (o.1, .str o.2)⟩

/-- Capitalizes a suffix word that ends a longer name. The cut is made by the word's own length. -/
def capitalizeSuffix (word : String) (name : List Char) : List Char :=
  match word.toList with
  | [] => name
  | w :: ws =>
    if (lowerChars (w :: ws)).isSuffixOf name && (w :: ws).length < name.length then
      name.take (name.length - (w :: ws).length) ++ upperChar w ++ ws
    else name

def applySuffix (word : Label) (name : List Char) : Except Fault (List Char) := do
  return capitalizeSuffix (← word.letters) name

def applyAcronyms (rules : NamingRules) (name : List Char) : Except Fault (List Char) :=
  (rules.acronyms.filter Label.isGiven).foldlM (fun name a => applyAcronym a name) name

def applySuffixes (rules : NamingRules) (name : List Char) : Except Fault (List Char) :=
  (rules.suffixWords.filter Label.isGiven).foldlM (fun name w => applySuffix w name) name

def applyCasing (rules : NamingRules) (name : List Char) : Except Fault (List Char) := do
  rules.applySuffixes (← rules.applyAcronyms name)

def convert (rules : NamingRules) (name : List Char) : Except Fault (List Char) :=
  if looksPascal defaultLookahead name then
    rules.applyCasing (name.filter (· != '_'))
  else rules.applyCasing (joinWords name)

def convertTwice (rules : NamingRules) (name : List Char) : Except Fault (List Char) := do
  rules.convert (← rules.convert name)

def viewLabel : String := "View"

/-- The fixed name of a table, entity, type or schema. A blank name is left as it is. -/
def normalize (rules : NamingRules) (name : String) (isView : Bool) : Except Fault Label :=
  if allBlank name.toList then .ok (.str name)
  else
    match rules.overrides.lookup name with
    | some fixed => .ok fixed
    | none =>
      if isView then
        (rules.convertTwice (withoutViewMarker name.toList)).map fun cs =>
          .str (viewLabel ++ String.ofList cs)
      else (rules.convertTwice name.toList).map fun cs => .str (String.ofList cs)

def normalizeFunction (rules : NamingRules) (name : String) : Except Fault Label :=
  match rules.overrides.lookup name with
  | some fixed => .ok fixed
  | none => rules.normalize (stripFunctionMarker name) false

end NamingRules

end EntityScaffold.Naming
