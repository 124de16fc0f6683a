import SourceEmitter.DottedName
import SourceEmitter.Layout
import SourceEmitter.Variables

/-!
# Generation plans

What is to be generated: a layout, variables, and one description per file. The kind of a unit
says how it is rendered; the fields that a kind does not use are ignored.
-/

namespace SourceEmitter

structure ArgumentPlan where
  type : String
  name : String
deriving DecidableEq, Repr

structure FieldPlan where
  type : String
  name : String
  doc : Option String := none
deriving DecidableEq, Repr

/-- A method of a class; a constructor returns the empty text. -/
structure MethodPlan where
  access : String := "public"
  modifiers : String := ""
  returns : String := ""
  name : String
  args : List ArgumentPlan := []
  throws : List String := []
  doc : Option String := none
  annotations : List String := []
  body : List String := []
deriving DecidableEq, Repr

/-- One generated file. -/
structure UnitPlan where
  kind : String
  name : String
  package : Option String := none
  header : List String := []
  imports : List String := []
  doc : Option String := none
  access : String := "public"
  modifiers : String := ""
  superclass : Option String := none
  interfaces : List String := []
  fields : List FieldPlan := []
  methods : List MethodPlan := []
  lines : List String := []
deriving DecidableEq, Repr

/-- The name behind its package, if a package is given and not empty, and else the name alone. -/
def UnitPlan.fullName (unit : UnitPlan) : String :=
  DottedName.ofParts (unit.package.getD "") unit.name

/-- A layout, the variables of all texts, and the units to generate, in order. -/
structure Plan where
  layout : Layout := {}
  vars : Variables := .empty
  units : List UnitPlan := []

end SourceEmitter
