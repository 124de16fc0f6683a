import SourceEmitter.Java.Op

/-!
# Operations as primitive moves

Every operation of a writer is a sequence of a few primitive moves, and every call that emits a
Java construct is a sequence of operations. The sequence depends on nothing but the runs of
callers, which decide whether the body of an operation is performed. A property of all histories
therefore needs one case for each move.
-/

namespace SourceEmitter

/-- The primitive changes of a writer. The last two are made to its failure and to its sink. -/
inductive Move where
  | put (text : String)
  | putMargin
  | putLineEnd
  | separate
  | writeOnce
  | setOnce (text : String)
  | startList
  | defer (text : String)
  | deferLine (text : String)
  | release
  | releaseInPlace
  | releaseFirst
  | indentMore
  | indentLess
  | record (caller : Caller)
  | clearFailure
  | setRoom (room : Option Nat)

namespace Move

def apply (w : Writer) : Move → Writer
  | put text => w.put text
  | putMargin => w.put w.margin
  | putLineEnd => w.put w.style.lineEnd
  | separate => w.separate
  | writeOnce => w.writeOnce
  | setOnce text => w.setOnce text
  | startList => w.startList
  | defer text => w.defer text
  | deferLine text => w.deferLine text
  | release => w.release
  | releaseInPlace => w.releaseInPlace
  | releaseFirst => w.releaseFirst
  | indentMore => w.indentMore
  | indentLess => w.indentLess
  | record caller => w.record caller
  | clearFailure => w.clearFailure
  | setRoom room => { w with sink := w.sink.setRoom room }

def applyAll (w : Writer) (moves : List Move) : Writer := moves.foldl apply w

@[simp] theorem applyAll_nil (w : Writer) : applyAll w [] = w := rfl
@[simp] theorem applyAll_cons (w : Writer) (move : Move) (rest : List Move) :
    applyAll w (move :: rest) = applyAll (move.apply w) rest := rfl
@[simp] theorem applyAll_append (w : Writer) (first second : List Move) :
    applyAll w (first ++ second) = applyAll (applyAll w first) second :=
  List.foldl_append

def runs (tracker : RunTracker) : Move → RunTracker
  | record caller => tracker.record caller
  | _ => tracker

def runsAll (tracker : RunTracker) (moves : List Move) : RunTracker := moves.foldl runs tracker

def line (text : String) : List Move := [release, putMargin, put text, putLineEnd]

end Move

namespace Writer

@[simp] theorem style_put (w : Writer) (text : String) : (w.put text).style = w.style := by
  unfold put; split <;> rfl
@[simp] theorem margin_put (w : Writer) (text : String) : (w.put text).margin = w.margin := by
  unfold put; split <;> rfl
@[simp] theorem runs_put (w : Writer) (text : String) : (w.put text).runs = w.runs := by
  unfold put; split <;> rfl

@[simp] theorem style_putAll (w : Writer) (texts : List String) :
    (w.putAll texts).style = w.style := by
  induction texts generalizing w with
  | nil => rfl
  | cons text rest ih => exact (ih _).trans (style_put w text)

@[simp] theorem margin_putAll (w : Writer) (texts : List String) :
    (w.putAll texts).margin = w.margin := by
  induction texts generalizing w with
  | nil => rfl
  | cons text rest ih => exact (ih _).trans (margin_put w text)

@[simp] theorem runs_putAll (w : Writer) (texts : List String) :
    (w.putAll texts).runs = w.runs := by
  induction texts generalizing w with
  | nil => rfl
  | cons text rest ih => exact (ih _).trans (runs_put w text)

@[simp] theorem style_release (w : Writer) : w.release.style = w.style := by simp [release]
@[simp] theorem margin_release (w : Writer) : w.release.margin = w.margin := by simp [release]

theorem applyAll_line (w : Writer) (text : String) :
    Move.applyAll w (Move.line text) = w.fullLine text := by
  simp [Move.line, Move.apply, fullLine, startLine]

theorem applyAll_writeLine (w : Writer) (text : String) :
    Move.applyAll w [.release, .put text, .putLineEnd] = w.writeLine text := by
  simp [Move.apply, writeLine]

end Writer

/-- Only a recording move changes the runs of callers. -/
theorem Move.runs_apply (w : Writer) (move : Move) : (move.apply w).runs = move.runs w.runs := by
  cases move with
  | record caller => rfl
  | put text => exact w.runs_put text
  | putMargin => exact w.runs_put _
  | putLineEnd => exact w.runs_put _
  | separate => exact Writer.runs_put _ _
  | writeOnce => exact Writer.runs_put _ _
  | release => exact Writer.runs_putAll _ _
  | releaseInPlace => exact Writer.runs_putAll _ _
  | releaseFirst => exact Writer.runs_putAll _ _
  | setOnce | startList | defer | deferLine | indentMore | indentLess | clearFailure | setRoom =>
    rfl

theorem Move.runs_applyAll (w : Writer) (moves : List Move) :
    (Move.applyAll w moves).runs = Move.runsAll w.runs moves := by
  induction moves generalizing w with
  | nil => rfl
  | cons move rest ih =>
    rw [Move.applyAll_cons, ih, Move.runs_apply]
    rfl

/-- The moves of an action. Questions move nothing. -/
def Action.moves : Action → List Move
  | indentMore => [.indentMore]
  | indentLess => [.indentLess]
  | startLine => [.release, .putMargin]
  | startList => [.startList]
  | separate => [.separate]
  | setOnce text => [.setOnce text]
  | writeOnce => [.writeOnce]
  | defer text => [.defer text]
  | deferLine text => [.deferLine text]
  | release => [.release]
  | releaseInPlace => [.releaseInPlace]
  | releaseFirst => [.releaseFirst]
  | write text | tryWrite text => [.release, .put text]
  | writeLine text => [.release, .put text, .putLineEnd]
  | fullLine text => Move.line text
  | blankLine => Move.line ""
  | writeAhead text => [.put text]
  | openBlock header => [.release, .putMargin, .release, .put header, .deferLine " \x7b"]
  | closeBlock => Move.line "\x7d"
  | writeWith vars text => [.release, .put (vars.expand text)]
  | writeLinesWith vars texts =>
    texts.flatMap fun text => [.release, .put (vars.expand text), .putLineEnd]
  | fullLinesWith vars texts => texts.flatMap fun text => Move.line (vars.expand text)
  | record caller => [.record caller]
  | askMargin | askStyle | askDescription => []
  | takeFailure => [.clearFailure]
  | setRoom room => [.setRoom room]

/-- Steps that are sequences of moves stay so when they are repeated over a list. -/
theorem Move.applyAll_flatMap {α : Type} (step : Writer → α → Writer) (moves : α → List Move)
    (h : ∀ w x, Move.applyAll w (moves x) = step w x) (w : Writer) (xs : List α) :
    Move.applyAll w (xs.flatMap moves) = xs.foldl step w := by
  induction xs generalizing w with
  | nil => rfl
  | cons x rest ih => rw [List.flatMap_cons, Move.applyAll_append, h, ih, List.foldl_cons]

theorem Action.applyAll_moves (w : Writer) (action : Action) :
    Move.applyAll w action.moves = action.apply w := by
  cases action with
  | writeLine text => exact w.applyAll_writeLine text
  | fullLine text => exact w.applyAll_line text
  | blankLine => exact w.applyAll_line ""
  | closeBlock => exact w.applyAll_line "\x7d"
  | startLine => simp [moves, Move.apply, Action.apply, Writer.startLine]
  | writeLinesWith vars texts =>
    exact Move.applyAll_flatMap _ _ (fun w text => w.applyAll_writeLine (vars.expand text)) w texts
  | fullLinesWith vars texts =>
    exact Move.applyAll_flatMap _ _ (fun w text => w.applyAll_line (vars.expand text)) w texts
  | openBlock header =>
    simp [moves, Move.apply, Action.apply, Writer.openBlock, Writer.startLine, Writer.write]
  | indentMore | indentLess | startList | separate | setOnce | writeOnce | defer | deferLine
  | release | releaseInPlace | releaseFirst | write | tryWrite | writeAhead | writeWith | record
  | askMargin | askStyle | askDescription | takeFailure | setRoom => rfl

mutual

/-- The moves of an operation when the runs of callers stand as given. -/
def Op.moves (tracker : RunTracker) : Op → List Move
  | .act action => action.moves
  | .ifNewRun caller body =>
    (if tracker.startsRun caller then Op.movesAll tracker body else []) ++ [.record caller]
  | .ifSameRun caller body =>
    (if tracker.startsRun caller then [] else Op.movesAll tracker body) ++ [.record caller]

def Op.movesAll (tracker : RunTracker) : List Op → List Move
  | [] => []
  | op :: rest =>
    Op.moves tracker op ++ Op.movesAll (Move.runsAll tracker (Op.moves tracker op)) rest

end

mutual

/-- An operation makes its moves, whatever the sink and the failure are. -/
theorem Op.applyAll_moves (w : Writer) :
    (op : Op) → Move.applyAll w (op.moves w.runs) = op.apply w
  | .act action => by
    rw [Op.moves, Op.apply, Action.applyAll_moves]
  | .ifNewRun caller body => by
    unfold Op.moves Op.apply Writer.ifNewRun
    rw [Move.applyAll_append]
    split
    · rw [Op.applyAll_movesAll w body]
      rfl
    · rfl
  | .ifSameRun caller body => by
    unfold Op.moves Op.apply Writer.ifSameRun
    rw [Move.applyAll_append]
    split
    · rfl
    · rw [Op.applyAll_movesAll w body]
      rfl

theorem Op.applyAll_movesAll (w : Writer) :
    (ops : List Op) → Move.applyAll w (Op.movesAll w.runs ops) = Op.applyAll w ops
  | [] => rfl
  | op :: rest => by
    have hop := Op.applyAll_moves w op
    have hruns : Move.runsAll w.runs (op.moves w.runs) = (op.apply w).runs := by
      rw [← hop, Move.runs_applyAll]
    rw [Op.movesAll, Move.applyAll_append, hop, hruns, Op.applyAll_movesAll (op.apply w) rest]
    rfl

end

end SourceEmitter
