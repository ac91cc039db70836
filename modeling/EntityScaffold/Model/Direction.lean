import EntityScaffold.Text.Case

/-!
Which way a parameter carries its value. A direction may be spelled in any case; one that is not
given at all is `in`.
-/
namespace EntityScaffold

inductive Direction where
  | in
  | out
  | inOut
  deriving DecidableEq, Repr

namespace Direction

def token : Direction → String
  | .in => "In"
  | .out => "Out"
  | .inOut => "InOut"

def all : List Direction := [.in, .out, .inOut]

def ofToken? (text : String) : Option Direction :=
  all.find? fun d => Text.lower d.token == Text.lower text

def ofMode? : Option String → Option Direction
  | none => some .in
  | some "" => some .in
  | some text => ofToken? text

end Direction

end EntityScaffold
