import SourceEmitter.Writer

/-!
# Operations as data

Every operation of a writer as a value, so that histories of a writer can be quantified over. An
operation that depends on the runs of calls holds its body, which consists of operations again, to
any depth. A step records the answer of an operation, the steps of its body if that ran, and the
writer behind it.
-/

namespace SourceEmitter

/-- The operations without a body. -/
inductive Action where
  | indentMore
  | indentLess
  | startLine
  | startList
  | separate
  | setOnce (text : String)
  | writeOnce
  | defer (text : String)
  | deferLine (text : String)
  | release
  | releaseInPlace
  | releaseFirst
  | write (text : String)
  | writeLine (text : String)
  | fullLine (text : String)
  | blankLine
  | writeAhead (text : String)
  | openBlock (header : String)
  | closeBlock
  | writeWith (vars : Variables) (text : String)
  | writeLinesWith (vars : Variables) (texts : List String)
  | fullLinesWith (vars : Variables) (texts : List String)
  | record (caller : Caller)
  /-- Writes a text and answers whether the writer is free of failures behind it. -/
  | tryWrite (text : String)
  | askMargin
  | askStyle
  | askDescription
  | takeFailure
  /-- A change of the room in the sink, which is no call of the writer. -/
  | setRoom (room : Option Nat)

/-- What an operation tells its caller. -/
inductive Answer where
  | nothing
  | flag (value : Bool)
  | text (value : String)
  | style (value : Style)
  | failure (value : Option SinkFault)
deriving DecidableEq, Repr

def Action.apply (w : Writer) : Action → Writer
  | indentMore => w.indentMore
  | indentLess => w.indentLess
  | startLine => w.startLine
  | startList => w.startList
  | separate => w.separate
  | setOnce text => w.setOnce text
  | writeOnce => w.writeOnce
  | defer text => w.defer text
  | deferLine text => w.deferLine text
  | release => w.release
  | releaseInPlace => w.releaseInPlace
  | releaseFirst => w.releaseFirst
  | write text => w.write text
  | writeLine text => w.writeLine text
  | fullLine text => w.fullLine text
  | blankLine => w.blankLine
  | writeAhead text => w.writeAhead text
  | openBlock header => w.openBlock header
  | closeBlock => w.closeBlock
  | writeWith vars text => w.writeWith vars text
  | writeLinesWith vars texts => w.writeLinesWith vars texts
  | fullLinesWith vars texts => w.fullLinesWith vars texts
  | record caller => w.record caller
  | tryWrite text => w.write text
  | askMargin | askStyle | askDescription => w
  | takeFailure => w.clearFailure
  | setRoom room => { w with sink := w.sink.setRoom room }

/-- The answer of an action, given the writer before and behind it. -/
def Action.answer (before after : Writer) : Action → Answer
  | tryWrite _ => .flag !after.hasFailed
  | askMargin => .text before.margin
  | askStyle => .style before.style
  | askDescription => .text before.describe
  | takeFailure => .failure before.failure
  | _ => .nothing

/-- An operation of a writer, with its body if it has one. -/
inductive Op where
  | act (action : Action)
  | ifNewRun (caller : Caller) (body : List Op)
  | ifSameRun (caller : Caller) (body : List Op)

mutual

def Op.apply (w : Writer) : Op → Writer
  | .act action => action.apply w
  | .ifNewRun caller body => w.ifNewRun caller fun w => Op.applyAll w body
  | .ifSameRun caller body => w.ifSameRun caller fun w => Op.applyAll w body

def Op.applyAll (w : Writer) : List Op → Writer
  | [] => w
  | op :: rest => Op.applyAll (Op.apply w op) rest

end

/-- What became of an operation: its answer or the steps of its body, which is `none` if the body
did not run, and the writer behind it. -/
inductive Step where
  | plain (answer : Answer) (after : Writer)
  | nested (steps : Option (List Step)) (after : Writer)

def Step.after : Step → Writer
  | plain _ after | nested _ after => after

def Step.final (w : Writer) (steps : List Step) : Writer :=
  match steps.getLast? with
  | none => w
  | some step => step.after

mutual

def Op.run (w : Writer) : Op → Step
  | .act action =>
    let after := action.apply w
    .plain (action.answer w after) after
  | .ifNewRun caller body =>
    if w.runs.startsRun caller then
      let steps := Op.runAll w body
      .nested (some steps) ((Step.final w steps).record caller)
    else .nested none (w.record caller)
  | .ifSameRun caller body =>
    if w.runs.startsRun caller then .nested none (w.record caller)
    else
      let steps := Op.runAll w body
      .nested (some steps) ((Step.final w steps).record caller)

/-- Performs operations in order and records their steps. -/
def Op.runAll (w : Writer) : List Op → List Step
  | [] => []
  | op :: rest =>
    let step := Op.run w op
    step :: Op.runAll step.after rest

end

theorem Step.final_cons (w : Writer) (step : Step) (steps : List Step) :
    Step.final w (step :: steps) = Step.final step.after steps := by
  cases steps with
  | nil => rfl
  | cons next rest =>
    simp [Step.final, List.getLast?_eq_some_getLast]

mutual

/-- A recorded run has the effect of the operation. -/
@[simp] theorem Op.after_run (w : Writer) : (op : Op) → (op.run w).after = op.apply w
  | .act _ => rfl
  | .ifNewRun caller body => by
    unfold Op.run Op.apply Writer.ifNewRun
    split
    · simp [Step.after, Op.final_runAll w body]
    · rfl
  | .ifSameRun caller body => by
    unfold Op.run Op.apply Writer.ifSameRun
    split
    · rfl
    · simp [Step.after, Op.final_runAll w body]

theorem Op.final_runAll (w : Writer) :
    (ops : List Op) → Step.final w (Op.runAll w ops) = Op.applyAll w ops
  | [] => rfl
  | op :: rest => by
    rw [Op.runAll, Step.final_cons, Op.applyAll, Op.final_runAll, Op.after_run]

end

@[simp] theorem Op.applyAll_append (w : Writer) (first second : List Op) :
    Op.applyAll w (first ++ second) = Op.applyAll (Op.applyAll w first) second := by
  induction first generalizing w with
  | nil => simp [Op.applyAll]
  | cons op rest ih => simp [Op.applyAll, ih]

end SourceEmitter
