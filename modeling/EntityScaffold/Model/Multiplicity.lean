/-!
How many rows stand at one end of an association, written as a fixed token that must be spelled
exactly.
-/
namespace EntityScaffold

inductive Multiplicity where
  | one
  | zeroOrOne
  | many
  | zeroOrMany
  deriving DecidableEq, Repr

namespace Multiplicity

def token : Multiplicity → String
  | .one => "1"
  | .zeroOrOne => "0..1"
  | .many => "*"
  | .zeroOrMany => "0..*"

def label : Multiplicity → String
  | .one => "ONE"
  | .zeroOrOne => "ZERO_OR_ONE"
  | .many => "MANY"
  | .zeroOrMany => "ZERO_OR_MANY"

def all : List Multiplicity := [.one, .zeroOrOne, .many, .zeroOrMany]

def ofToken? (text : String) : Option Multiplicity := all.find? fun m => m.token == text

def isMany : Multiplicity → Bool
  | .many | .zeroOrMany => true
  | .one | .zeroOrOne => false

theorem ofToken?_token (m : Multiplicity) : ofToken? m.token = some m := by
  cases m <;> decide

theorem token_of_ofToken? {text : String} {m : Multiplicity} (h : ofToken? text = some m) :
    m.token = text := by
  have found := List.find?_some h
  simpa using found

end Multiplicity

end EntityScaffold
