import SourceEmitter.SortedTable
import SourceEmitter.Text.CharClass
import SourceEmitter.Text.Replace

/-!
# Variables and their expansion

A variable is referred to as a value, as a getter call or as a setter name. Expansion goes through
the variables in key order and, for one variable, through the three forms in that order; every pass
replaces all references of its form in the text as it then is. References to unknown variables are
kept.
-/

namespace SourceEmitter

/-- The ways in which a text refers to a variable. -/
inductive ReferenceForm where
  | value
  | getter
  | setter
deriving DecidableEq, Repr

namespace ReferenceForm

/-- The forms in the order in which they are replaced. -/
def all : List ReferenceForm := [value, getter, setter]

/-- What stands before the name of the variable inside the braces. -/
def marker : ReferenceForm → String
  | value => ""
  | getter => "get:"
  | setter => "set:"

/-- The text that refers to the variable `name` in this form. -/
def reference (form : ReferenceForm) (name : String) : String :=
  "$\x7b" ++ form.marker ++ name ++ "\x7d"

def meaning (form : ReferenceForm) (text : String) : String :=
  match form with
  | value => text
  | getter => "get" ++ Text.capitalize text ++ "()"
  | setter => "set" ++ Text.capitalize text

end ReferenceForm

structure Variables where
  table : SortedTable String

namespace Variables

def empty : Variables := ⟨.empty⟩

/-- Gives a variable a value, in place of the one it had. -/
def assign (vars : Variables) (name value : String) : Variables :=
  ⟨vars.table.insert name value⟩

/-- The variables of a list of names and values; of two values of one name the later counts. -/
def ofList (pairs : List (String × String)) : Variables := ⟨.ofList pairs⟩

def get? (vars : Variables) (name : String) : Option String := vars.table.get? name

def isEmpty (vars : Variables) : Bool := vars.table.isEmpty

/-- One pass: replaces every reference to `name` in one form. -/
def replaceForm (name value : String) (text : List Char) (form : ReferenceForm) : List Char :=
  Text.replaceAll (form.reference name).toList (form.meaning value).toList text

/-- Replaces every reference to one variable, form by form. -/
def replaceVar (text : List Char) (var : String × String) : List Char :=
  ReferenceForm.all.foldl (replaceForm var.1 var.2) text

/-- The text with its references to these variables replaced. -/
def expand (vars : Variables) (text : String) : String :=
  String.ofList (vars.table.entries.foldl replaceVar text.toList)

@[simp] theorem expand_empty (text : String) : empty.expand text = text := by
  simp [expand, empty, SortedTable.empty]

end Variables

end SourceEmitter
