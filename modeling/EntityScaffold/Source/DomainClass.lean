import EntityScaffold.Source.Names

/-!
Domain classes: the class of an entity, or of a complex type that a function returns. Collections
are made empty when an object is made.
-/
namespace EntityScaffold.Source

structure Member where
  name : String
  type : String
  deriving DecidableEq, Repr

structure NavigationMember where
  name : String
  type : String
  isCollection : Bool
  deriving DecidableEq, Repr

structure DomainClass where
  bucket : Label
  className : Label
  baseClass : Option String
  usings : List String
  properties : List Member
  navigations : List NavigationMember
  deriving DecidableEq, Repr

def accessors : String := " \x7b get; set; \x7d"

def Member.line (m : Member) : String := "public " ++ m.type ++ " " ++ m.name ++ accessors

def NavigationMember.line (n : NavigationMember) : String :=
  if n.isCollection then "public virtual ICollection<" ++ n.type ++ "> " ++ n.name ++ accessors
  else "public virtual " ++ n.type ++ "? " ++ n.name ++ accessors

def NavigationMember.creation (n : NavigationMember) : String :=
  n.name ++ " = new HashSet<" ++ n.type ++ ">();"

namespace DomainClass

def header (c : DomainClass) : String :=
  "public class " ++ c.className.display ++
    match c.baseClass with
    | some base => " : " ++ base
    | none => ""

def navigationLines (c : DomainClass) : List String :=
  if c.navigations.isEmpty then [] else "" :: c.navigations.map (·.line)

def description (c : DomainClass) : String :=
  "$\x22" ++ " - ".intercalate (c.properties.map fun m => "\x7b" ++ m.name ++ "\x7d") ++ "\x22"

def body (c : DomainClass) : List String :=
  block ("public " ++ c.className.display ++ "()")
      ((c.navigations.filter (·.isCollection)).map (·.creation)) ++
    "" :: c.properties.map (·.line) ++ c.navigationLines ++
    "" :: block "public override string ToString()" ["return " ++ c.description ++ ";"]

def lines (names : UnitNames) (c : DomainClass) : List String :=
  ["using System;", "using System.Collections.Generic;"] ++
    c.usings.map (fun u => "using " ++ u ++ ";") ++
    "" :: block ("namespace " ++ names.rootNamespace ++ ".Domain." ++ c.bucket.display)
      (block c.header c.body)

end DomainClass

end EntityScaffold.Source
