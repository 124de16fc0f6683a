import SourceEmitter.OutputError

/-!
# What plans fail with

A plan fails if it cannot be read, if a unit of it cannot be rendered, and with the errors of the
output and of the sink beneath it.
-/

namespace SourceEmitter

inductive UnitFault where
  | noClassName
  | noResourceName
deriving DecidableEq, Repr

def UnitFault.message : UnitFault → String
  | noClassName => "class name is empty"
  | noResourceName => "resource name is empty"

inductive PlanError where
  | noSuchKind (kind : String)
  | badUnit (name : String) (fault : UnitFault)
  | output (error : OutputError)
  | io (fault : IoFault)
  | unreadable
deriving DecidableEq, Repr

/-- The wording of an error, where this library has one. -/
def PlanError.message? : PlanError → Option String
  | noSuchKind kind => some ("Unknown unit kind: " ++ kind)
  | badUnit name fault => some ("Invalid unit " ++ name ++ ": " ++ fault.message)
  | output error => error.message?.map ("Emit error: " ++ ·)
  | io fault => fault.message?
  | unreadable => none

end SourceEmitter
