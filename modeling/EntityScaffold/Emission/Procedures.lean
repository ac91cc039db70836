import EntityScaffold.Emission.Configurations
import EntityScaffold.Noted
import EntityScaffold.Reading.TypeName
import EntityScaffold.Source.ContextClass
import EntityScaffold.Source.TypeTable

/-!
Methods for function imports. A composable import becomes a database function. Any other becomes a
procedure call, with one variable, one line of setup and one placeholder for each parameter; the
one parameter that comes back is its result, unless it answers rows.
-/
namespace EntityScaffold.Emission
open Source

structure StoreTarget where
  name : String
  schema : Label
  deriving DecidableEq, Repr

def storeTarget (c : Config) (m : ResolvedModel) (f : FunctionImport) : Noted StoreTarget :=
  match m.storedFunctionFor? f with
  | some s => pure ⟨s.name, s.schema⟩
  | none => do
    Noted.note (.unmappedImport f.name)
    pure ⟨f.name, c.defaultSchema⟩

def rowType (c : Config) (m : ResolvedModel) (f : FunctionImport) : Noted String :=
  if isGiven f.returnComplexType then
    match m.conceptual.complexTypes.find? (f.returnComplexType.getD "") with
    | some t => pure (domainType c.defaultBucket.display t.fixedName.display)
    | none => Noted.fail (.absentEntry (f.returnComplexType.getD ""))
  else
    match m.conceptual.entities.find? (f.returnEntityType.getD "") with
    | some e => do
      if !e.isUsed then Noted.note (.unmappedReturn f.name e.name)
      pure (domainType (← Noted.lift (c.bucket e.schema)).display e.fixedName.display)
    | none => Noted.fail (.absentEntry (f.returnEntityType.getD ""))

def parameterType (f : FunctionImport) (p : Parameter) : Except Fault CodeType :=
  builtinTypes.resolve p.type (some (f.name ++ "." ++ p.name))

structure TypedParameter where
  parameter : Parameter
  type : CodeType
  deriving DecidableEq, Repr

namespace TypedParameter

def name (p : TypedParameter) : String := p.parameter.name

def declaration (p : TypedParameter) : String := p.type.declaration (p.parameter.isNullable.getD false)

def argument (p : TypedParameter) : String := p.declaration ++ " " ++ p.name

def sqlVariable (p : TypedParameter) : String := p.name ++ "Param"

def comesBack (p : TypedParameter) : Bool := p.parameter.direction != .in

end TypedParameter

def typedParameters (f : FunctionImport) : Except Fault (List TypedParameter) :=
  f.parameters.mapM fun p => (parameterType f p).map (TypedParameter.mk p)

def scalarReturnType (f : FunctionImport) : Except Fault String :=
  match f.returnType with
  | none | some "" => .ok "int"
  | some type =>
    let element := (Reading.enclosed? Reading.collectionOpening type.toList).getD type.toList
    builtinTypes.declaration (some (String.ofList element)) true (some f.name)

def functionMethod (c : Config) (m : ResolvedModel) (f : FunctionImport) : Noted FunctionMethod := do
  let target ← storeTarget c m f
  let parameters ← typedParameters f
  let returnType ←
    if f.returnsRows then (do return "IQueryable<" ++ (← rowType c m f) ++ ">" : Noted String)
    else Noted.lift (scalarReturnType f)
  let schema ← constantReference c m target.schema
  let names := ", ".intercalate (f.parameters.map (·.name))
  return {
    name := f.fixedName.display
    arguments := ", ".intercalate (parameters.map (·.argument))
    returnType, schema
    body :=
      if f.returnsRows then "FromExpression(() => " ++ f.fixedName.display ++ "(" ++ names ++ "))"
      else "throw new NotSupportedException()"
    isStatic := !f.returnsRows
    storeName := target.name }

inductive CallKind where
  | scalar
  | rows
  | execute
  deriving DecidableEq, Repr

def outputsOf (f : FunctionImport) : List Parameter :=
  f.parameters.filter fun p => p.direction != .in

def callKind (f : FunctionImport) : CallKind :=
  if (outputsOf f).length = 1 && !f.returnsRows then .scalar
  else if f.returnsRows then .rows
  else .execute

/-- Whether a parameter is the result of the call, and so is not assigned. -/
def isResult (kind : CallKind) (p : TypedParameter) : Bool := kind == .scalar && p.comesBack

def argument? (kind : CallKind) (p : TypedParameter) : Option String :=
  match p.parameter.direction with
  | .in => some p.argument
  | .inOut => some (if isResult kind p then p.argument else "ref " ++ p.argument)
  | .out => if isResult kind p then none else some ("out " ++ p.argument)

def nullableValue (p : TypedParameter) : String := "(object?)" ++ p.name ++ " ?? DBNull.Value"

def outputSetup (p : TypedParameter) (direction value : String) : String :=
  "var " ++ p.sqlVariable ++ " = new SqlParameter \x7b ParameterName = \x22@" ++ p.name ++
    "\x22, Direction = " ++ direction ++ ", Value = " ++ value ++
    (if p.type.isValue then "" else ", Size = -1") ++ " \x7d;"

def setupLine (p : TypedParameter) : String :=
  match p.parameter.direction with
  | .in => "var " ++ p.sqlVariable ++ " = new SqlParameter(\x22@" ++ p.name ++ "\x22, " ++
      nullableValue p ++ ");"
  | .inOut => outputSetup p "ParameterDirection.InputOutput" (nullableValue p)
  | .out => outputSetup p "ParameterDirection.Output" "DBNull.Value"

def placeholder (p : TypedParameter) : String :=
  "@" ++ p.name ++ " = @" ++ p.name ++ if p.comesBack then " OUTPUT" else ""

def convertedValue (p : TypedParameter) : String :=
  p.sqlVariable ++ ".Value is DBNull ? default : (" ++ p.declaration ++ ")" ++ p.sqlVariable ++ ".Value"

def assignment? (kind : CallKind) (p : TypedParameter) : Option String :=
  if p.comesBack && !isResult kind p then some (p.name ++ " = " ++ convertedValue p ++ ";")
  else none

def sqlText (target : StoreTarget) (placeholders : List String) : String :=
  "EXEC [" ++ target.schema.display ++ "].[" ++ target.name ++ "]" ++
    if placeholders.isEmpty then "" else " " ++ ", ".intercalate placeholders

/-- The return type, which is found before the types of the other parameters. -/
def callReturn (c : Config) (m : ResolvedModel) (f : FunctionImport) :
    CallKind → Noted (String × String)
  | .scalar => do
    match outputsOf f with
    | p :: _ =>
      let type ← parameterType f p
      return ("", type.declaration (p.isNullable.getD false))
    | [] => return ("", "int")
  | .rows => do
    let row ← rowType c m f
    return (row, "List<" ++ row ++ ">")
  | .execute => pure ("", "int")

def callResult (kind : CallKind) (row : String) (parameters : List TypedParameter) : CallResult :=
  match kind with
  | .rows => .rows row
  | .execute => .execute
  | .scalar => .scalar (((parameters.find? (isResult kind)).map convertedValue).getD "")

def procedureMethod (c : Config) (m : ResolvedModel) (f : FunctionImport) :
    Noted ProcedureMethod := do
  let target ← storeTarget c m f
  let kind := callKind f
  let (row, returnType) ← callReturn c m f kind
  let parameters ← typedParameters f
  return {
    name := f.fixedName.display
    result := callResult kind row parameters
    returnType
    arguments := ", ".intercalate (parameters.filterMap (argument? kind))
    setup := parameters.map setupLine
    sql := sqlText target (parameters.map placeholder)
    sqlArguments := String.join (parameters.map fun p => ", " ++ p.sqlVariable)
    assignments := parameters.filterMap (assignment? kind) }

end EntityScaffold.Emission
