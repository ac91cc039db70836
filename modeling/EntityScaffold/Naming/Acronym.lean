import EntityScaffold.Model.Label

/-!
Acronyms inside a name. Every place where the letters of an acronym stand, in any case, takes its
capital form. That form is a replacement text, in which a backslash is an escape: two of them mean
one, one before an ASCII letter, before a digit that would name a group, or at the end means
nothing and is refused, even when the acronym stands nowhere in the name.
-/
namespace EntityScaffold.Naming
open Text

def isOctal (c : Char) : Bool := '0' ≤ c && c ≤ '7'

def octalValue (ds : List Char) : Nat := ds.foldl (fun n c => n * 8 + (c.toNat - 48)) 0

/-- What an escape stands for, and how many characters it takes behind its backslash. -/
def escape? : List Char → Option (List Char × Nat)
  | [] => none
  | c :: rest =>
    if c = '\\' then some (['\\'], 1)
    else if c = '0' then
      let more := (rest.take 2).takeWhile isOctal
      some ([Char.ofNat (octalValue more)], 1 + more.length)
    else if c.isAlpha then none
    else if c.isDigit then
      let digits := c :: rest.take 2
      if digits.length = 3 && digits.all isOctal && octalValue digits ≤ 255 then
        some ([Char.ofNat (octalValue digits)], 3)
      else none
    else some (['\\', c], 1)

/-- The literal text of a replacement, or nothing if an escape in it is refused; `skip` characters
belong to an escape already read. -/
def literalText? : Nat → List Char → Option (List Char)
  | _, [] => some []
  | skip + 1, _ :: cs => literalText? skip cs
  | 0, c :: cs =>
    if c = '\\' then
      (escape? cs).bind fun e => (literalText? e.2 cs).map (e.1 ++ ·)
    else (literalText? 0 cs).map (c :: ·)

def replacementText? (cs : List Char) : Option (List Char) := literalText? 0 cs

def beginsFolded : List Char → List Char → Bool
  | [], _ => true
  | _ :: _, [] => false
  | n :: ns, c :: cs => foldCase n == foldCase c && beginsFolded ns cs

/-- Puts `text` in place of every occurrence of `needle` from the left; `skip` characters of an
occurrence already replaced are still to be passed. -/
def replaceFolded (needle text : List Char) : Nat → List Char → List Char
  | _, [] => []
  | skip + 1, _ :: cs => replaceFolded needle text skip cs
  | 0, c :: cs =>
    if beginsFolded needle (c :: cs) then
      text ++ replaceFolded needle text (needle.length - 1) cs
    else c :: replaceFolded needle text 0 cs

def replaceAcronym (acronym : String) (name : List Char) : Except Fault (List Char) :=
  match replacementText? (upperChars acronym.toList) with
  | none => .error (.brokenReplacement acronym)
  | some text => .ok (replaceFolded acronym.toList text 0 name)

/-- An acronym that is no text has no form to look for. -/
def applyAcronym (acronym : Label) (name : List Char) : Except Fault (List Char) := do
  replaceAcronym (← acronym.text) name

end EntityScaffold.Naming
