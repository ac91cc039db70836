import EntityScaffold.Source.Names

/-!
The context class: a set for each entity, the registration of every configuration, and a method for
each function import, which is a database function or the call of a stored procedure.
-/
namespace EntityScaffold.Source

structure EntitySetMember where
  type : String
  name : String
  deriving DecidableEq, Repr

structure FunctionMethod where
  name : String
  arguments : String
  returnType : String
  body : String
  isStatic : Bool
  storeName : String
  schema : String
  deriving DecidableEq, Repr

/-- What a procedure call answers: rows of a type, the value of a parameter, or a row count. -/
inductive CallResult where
  | rows (type : String)
  | scalar (expression : String)
  | execute
  deriving DecidableEq, Repr

structure ProcedureMethod where
  name : String
  result : CallResult
  returnType : String
  arguments : String
  setup : List String
  sql : String
  sqlArguments : String
  assignments : List String
  deriving DecidableEq, Repr

structure ContextClass where
  sets : List EntitySetMember
  configurations : List String
  functions : List FunctionMethod
  procedures : List ProcedureMethod
  deriving DecidableEq, Repr

def EntitySetMember.line (s : EntitySetMember) : String :=
  "public DbSet<" ++ s.type ++ "> " ++ s.name ++ " \x7b get; set; \x7d"

namespace FunctionMethod

def registration (names : UnitNames) (f : FunctionMethod) : List String :=
  ["modelBuilder.HasDbFunction(typeof(" ++ names.contextName ++ ").GetMethod(nameof(" ++ f.name ++
      "))!)",
    indented (".HasName(" ++ literal f.storeName ++ ")"),
    indented (".HasSchema(" ++ f.schema ++ ");")]

def lines (f : FunctionMethod) : List String :=
  ["",
    "public " ++ (if f.isStatic then "static " else "") ++ f.returnType ++ " " ++ f.name ++ "(" ++
      f.arguments ++ ")",
    indented ("=> " ++ f.body ++ ";")]

end FunctionMethod

namespace ProcedureMethod

def callArguments (p : ProcedureMethod) : String := "(" ++ literal p.sql ++ p.sqlArguments ++ ")"

def callLines (p : ProcedureMethod) : List String :=
  match p.result with
  | .rows type =>
    ["var result = Set<" ++ type ++ ">()", indented (".FromSqlRaw" ++ p.callArguments),
      indented ".ToList();"]
  | _ => ["var result = Database.ExecuteSqlRaw" ++ p.callArguments ++ ";"]

def returned (p : ProcedureMethod) : String :=
  match p.result with
  | .scalar expression => expression
  | _ => "result"

def lines (p : ProcedureMethod) : List String :=
  "" :: block ("public " ++ p.returnType ++ " " ++ p.name ++ "(" ++ p.arguments ++ ")")
    (p.setup ++ p.callLines ++ p.assignments ++ ["return " ++ p.returned ++ ";"])

end ProcedureMethod

namespace ContextClass

def usings : List String :=
  ["using System;", "using System.Collections.Generic;", "using System.Data;",
    "using System.Linq;", "using Microsoft.Data.SqlClient;",
    "using Microsoft.EntityFrameworkCore;"]

def modelLines (names : UnitNames) (c : ContextClass) : List String :=
  "base.OnModelCreating(modelBuilder);" ::
    c.configurations.map (fun x => "modelBuilder.ApplyConfiguration(new " ++ x ++ "());") ++
    c.functions.flatMap (·.registration names)

def body (names : UnitNames) (c : ContextClass) : List String :=
  block
      ("public " ++ names.contextName ++ "(DbContextOptions<" ++ names.contextName ++
        "> options) : base(options)") [] ++
    "" :: block "protected override void OnConfiguring(DbContextOptionsBuilder optionsBuilder)"
      ["base.OnConfiguring(optionsBuilder);"] ++
    "" :: c.sets.map (·.line) ++
    "" :: block "protected override void OnModelCreating(ModelBuilder modelBuilder)"
      (c.modelLines names) ++
    c.functions.flatMap (·.lines) ++ c.procedures.flatMap (·.lines)

def lines (names : UnitNames) (c : ContextClass) : List String :=
  usings ++ "" :: block ("namespace " ++ names.rootNamespace)
    (block ("public class " ++ names.contextName ++ " : DbContext") (c.body names))

end ContextClass

end EntityScaffold.Source
