import EntityScaffold.Fault

/-!
The multiplicity of an association end. A token that is missing is as wrong as an unknown one.
-/
namespace EntityScaffold.Reading

def multiplicityOf (association : String) (token : Option String) : Except Fault Multiplicity :=
  match token.bind Multiplicity.ofToken? with
  | some m => .ok m
  | none => .error (.association association (.unknownMultiplicity token))

end EntityScaffold.Reading
