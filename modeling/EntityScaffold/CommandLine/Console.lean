import EntityScaffold.CommandLine.Markup
import EntityScaffold.Fault

/-!
Consoles. A console is told lines one after another and may refuse one, which ends what is being told.
One that reads markup refuses text that turns off a style which is not on.
-/
namespace EntityScaffold.CommandLine

inductive ConsoleLine where
  | text (markup : String)
  | table (title : String) (columns : List String) (rows : List (List String))
  deriving DecidableEq, Repr

def ConsoleLine.texts : ConsoleLine → List String
  | .text markup => [markup]
  | .table title columns rows => title :: (columns :: rows).flatten

/-- By what it was told before, a console may refuse a line. Its faults are its own: none is among
those that a run answers with a message. -/
structure Console where
  refusal? : List ConsoleLine → ConsoleLine → Option Fault
  unreported : ∀ told line f, refusal? told line = some f → f.isReported = false

namespace Console

def willing : Console := ⟨fun _ _ => none, fun _ _ _ refused => by cases refused⟩

def marked : Console where
  refusal? := fun _ line => (line.texts.find? fun text => !Markup.isWellFormed text).map .wrongForm
  unreported := fun _ _ _ refused => by
    obtain ⟨_, _, rfl⟩ := Option.map_eq_some_iff.1 refused
    rfl

/-- All that a console was told when it has been told further lines, and why it refused the next, if
it did. -/
def hear (k : Console) (told : List ConsoleLine) :
    List ConsoleLine → List ConsoleLine × Option Fault
  | [] => (told, none)
  | line :: rest =>
    match k.refusal? told line with
    | some f => (told, some f)
    | none => k.hear (told ++ [line]) rest

end Console

def padded (width : Nat) (text : String) : String :=
  text ++ String.ofList (List.replicate (width - text.length) ' ')

def cellWidth (rows : List (List String)) (column : Nat) : Nat :=
  (rows.map fun r => (r[column]?.getD "").length).foldl max 0

def tableLines (rows : List (List String)) : List String :=
  rows.map fun r => "  ".intercalate (r.mapIdx fun i text => padded (cellWidth rows i) text)

def ConsoleLine.plain : ConsoleLine → List String
  | .text markup => [Markup.plainText markup]
  | .table title columns rows =>
    Markup.plainText title :: tableLines ((columns :: rows).map (·.map Markup.plainText))

end EntityScaffold.CommandLine
