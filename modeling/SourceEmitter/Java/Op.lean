import SourceEmitter.Java
import SourceEmitter.Writer.Op

/-!
# Java operations as data

The operations of a writer of Java source as values: those of any writer, and one for every call
that opens, continues or closes a construct.
-/

namespace SourceEmitter

/-- The calls that open, continue or close a Java construct. -/
inductive JavaCall where
  | lineComment (text : String)
  | ownLineComment (text : String)
  | comment (forceBlock : Bool) (lines : List String)
  | docComment (forceBlock : Bool) (lines : List String)
  | packageDecl (name : String)
  | importDecl (spec : String)
  | annotate (name : String) (params : List String)
  | openClass (access modifiers name : String)
  | addSuperclass (name : String)
  | addInterface (name : String)
  | closeClass
  | openMethod (access modifiers returns name : String)
  | openConstructor (name : String)
  | addArgument (type name : String)
  | addException (name : String)
  | closeMethod
  | field (access type name : String)
  | documentedField (type name : String) (doc : Option String)
  | openIf (condition : String)
  | openIfHeader
  | ifCondition (text : String)
  | closeIf
  | openWhile (condition : String)
  | openWhileHeader
  | whileCondition (text : String)
  | closeWhile
  | openFor (init compare increment : String)
  | openForEach (item items : String)
  | closeFor

def JavaCall.apply (w : Writer) : JavaCall → Writer
  | lineComment text => w.lineComment text
  | ownLineComment text => w.ownLineComment text
  | comment forceBlock lines => w.comment forceBlock lines
  | docComment forceBlock lines => w.docComment forceBlock lines
  | packageDecl name => w.packageDecl name
  | importDecl spec => w.importDecl spec
  | annotate name params => w.annotate name params
  | openClass access modifiers name => w.openClass access modifiers name
  | addSuperclass name => w.addSuperclass name
  | addInterface name => w.addInterface name
  | openMethod access modifiers returns name => w.openMethod access modifiers returns name
  | openConstructor name => w.openConstructor name
  | addArgument type name => w.addArgument type name
  | addException name => w.addException name
  | field access type name => w.field access type name
  | documentedField type name doc => w.documentedField type name doc
  | openIf condition => w.openIf condition
  | openIfHeader => w.openIfHeader
  | openWhile condition => w.openWhile condition
  | openWhileHeader => w.openWhileHeader
  | ifCondition text | whileCondition text => w.writeAhead text
  | openFor init compare increment => w.openFor init compare increment
  | openForEach item items => w.openForEach item items
  | closeClass | closeMethod | closeIf | closeWhile | closeFor => w.closeBody

/-- An operation of a writer of Java source. -/
inductive JavaOp where
  | base (op : Op)
  | java (call : JavaCall)

namespace JavaOp

def apply (w : Writer) : JavaOp → Writer
  | base op => op.apply w
  | java call => call.apply w

def applyAll (w : Writer) (ops : List JavaOp) : Writer := ops.foldl apply w

def run (w : Writer) : JavaOp → Step
  | base op => op.run w
  | java call => .plain .nothing (call.apply w)

/-- Performs operations in order and records their steps. -/
def runAll (w : Writer) : List JavaOp → List Step
  | [] => []
  | op :: rest =>
    let step := run w op
    step :: runAll step.after rest

@[simp] theorem after_run (w : Writer) (op : JavaOp) : (run w op).after = apply w op := by
  cases op with
  | base op => exact op.after_run w
  | java call => rfl

theorem final_runAll (w : Writer) (ops : List JavaOp) :
    Step.final w (runAll w ops) = applyAll w ops := by
  induction ops generalizing w with
  | nil => rfl
  | cons op rest ih => simp [runAll, Step.final_cons, ih, applyAll]

end JavaOp

end SourceEmitter
