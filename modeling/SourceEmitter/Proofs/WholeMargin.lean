import SourceEmitter.Proofs.ErrorLatch
import SourceEmitter.Proofs.Reports
import SourceEmitter.Proofs.Standing

/-!
# Whole margins

A writer keeps no count of its level, only the margin itself, and takes units off it by their length
in bytes. The margin is nevertheless a whole number of units at every moment: the level is counted
here over the operations alone, for any unit, and a cut always falls between two units. Nothing is
said of margins that did not grow from an empty one.
-/

namespace SourceEmitter

/-- The level behind an action. No level is below zero. -/
def Action.level (level : Nat) : Action → Nat
  | indentMore => level + 1
  | indentLess => level - 1
  | _ => level

/-- The level behind a Java call: what opens a body goes one level deeper and what closes one goes
one level back. -/
def JavaCall.level (level : Nat) : JavaCall → Nat
  | openClass _ _ _ | openMethod _ _ _ _ | openConstructor _ | openIf _ | openIfHeader | openWhile _
  | openWhileHeader | openFor _ _ _ | openForEach _ _ => level + 1
  | closeClass | closeMethod | closeIf | closeWhile | closeFor => level - 1
  | _ => level

mutual

/-- The level behind an operation in front of which `last` was the last report. Its body counts if
it runs. -/
def Op.level (last : Option Caller) (level : Nat) : Op → Nat
  | .act action => action.level level
  | .ifNewRun caller body => if last = some caller then level else Op.levelAll last level body
  | .ifSameRun caller body => if last = some caller then Op.levelAll last level body else level

def Op.levelAll (last : Option Caller) (level : Nat) : List Op → Nat
  | [] => level
  | op :: rest => Op.levelAll (op.report?.or last) (Op.level last level op) rest

end

mutual

/-- The levels behind the steps of an operation, in bodies as well, in the order of execution. -/
def Op.levels (last : Option Caller) (level : Nat) : Op → List Nat
  | .act action => [action.level level]
  | .ifNewRun caller body =>
    (if last = some caller then [] else Op.levelsAll last level body) ++
      [Op.level last level (.ifNewRun caller body)]
  | .ifSameRun caller body =>
    (if last = some caller then Op.levelsAll last level body else []) ++
      [Op.level last level (.ifSameRun caller body)]

def Op.levelsAll (last : Option Caller) (level : Nat) : List Op → List Nat
  | [] => []
  | op :: rest =>
    Op.levels last level op ++ Op.levelsAll (op.report?.or last) (Op.level last level op) rest

end

namespace JavaOp

def level (last : Option Caller) (level : Nat) : JavaOp → Nat
  | base op => op.level last level
  | java call => call.level level

/-- The level behind a history in front of which `last` was the last report. -/
def levelAll (last : Option Caller) (level : Nat) : List JavaOp → Nat
  | [] => level
  | op :: rest => levelAll (op.report?.or last) (op.level last level) rest

def levels (last : Option Caller) (level : Nat) : JavaOp → List Nat
  | base op => op.levels last level
  | java call => [call.level level]

/-- The levels behind all steps of a history, in bodies as well. -/
def levelsAll (last : Option Caller) (level : Nat) : List JavaOp → List Nat
  | [] => []
  | op :: rest => op.levels last level ++ levelsAll (op.report?.or last) (op.level last level) rest

end JavaOp

/-- A writer whose margin has as many units of its style as the level says. The bytes that stay when
one unit is taken off are a whole number of characters. -/
structure Writer.StandsAt (style : Style) (level : Nat) (w : Writer) : Prop where
  style_eq : w.style = style
  margin : w.margin = style.lead level
  depth : w.depth = if style.indentation = "" then 0 else level
  cut : (String.Pos.Raw.mk
    (w.margin.utf8ByteSize - style.indentation.utf8ByteSize)).IsValid w.margin

theorem Style.utf8ByteSize_lead (style : Style) (level : Nat) :
    (style.lead level).utf8ByteSize = level * style.indentation.utf8ByteSize := by
  induction level with
  | zero => simp [lead, String.join]
  | succ level ih => rw [lead_succ, String.utf8ByteSize_append, ih, Nat.succ_mul]

/-- One unit off the bytes of a margin leaves the bytes of the margin one level up. -/
theorem Style.lead_cut (style : Style) (level : Nat) :
    (style.lead level).utf8ByteSize - style.indentation.utf8ByteSize =
      (style.lead (level - 1)).utf8ByteSize := by
  rw [utf8ByteSize_lead, utf8ByteSize_lead, Nat.sub_mul, Nat.one_mul]

theorem Style.exists_lead_append (style : Style) (level : Nat) :
    ∃ rest, style.lead level = style.lead (level - 1) ++ rest := by
  cases level with
  | zero => exact ⟨"", by simp⟩
  | succ level => exact ⟨style.indentation, style.lead_succ level⟩

namespace Writer

theorem StandsAt.of_margin {style : Style} {level : Nat} {w : Writer} (hstyle : w.style = style)
    (hmargin : w.margin = style.lead level) : w.StandsAt style level := by
  refine ⟨hstyle, hmargin, ?_, ?_⟩
  · rw [Writer.depth, hstyle, hmargin, style.utf8ByteSize_lead]
    split
    next hempty => rw [hempty, String.utf8ByteSize_empty, Nat.div_zero]
    next hunit =>
      have hpos : 0 < style.indentation.utf8ByteSize := by
        simpa [Nat.pos_iff_ne_zero] using hunit
      exact Nat.mul_div_cancel level hpos
  · obtain ⟨rest, hrest⟩ := style.exists_lead_append level
    rw [hmargin, style.lead_cut, String.Pos.Raw.isValid_iff_exists_append]
    exact ⟨style.lead (level - 1), rest, hrest, rfl⟩

theorem standsAt_start (sink : Sink) (style : Style) : (start sink style).StandsAt style 0 :=
  .of_margin rfl rfl

/-- Taking one unit off a whole margin leaves a whole margin. -/
theorem margin_indentLess {style : Style} {level : Nat} {w : Writer}
    (h : w.StandsAt style level) : w.indentLess.margin = style.lead (level - 1) := by
  obtain ⟨rest, hrest⟩ := style.exists_lead_append level
  have hkept := keepBytes_append (style.lead (level - 1)).toList rest.toList
  rw [String.ofList_toList, ← String.toList_append, ← hrest] at hkept
  simp only [indentLess, h.style_eq, h.margin, style.lead_cut, hkept, String.ofList_toList]

end Writer

def Move.level (level : Nat) : Move → Nat
  | indentMore => level + 1
  | indentLess => level - 1
  | _ => level

theorem Move.standsAt_apply {style : Style} {level : Nat} {w : Writer}
    (h : w.StandsAt style level) (move : Move) :
    (move.apply w).StandsAt style (move.level level) := by
  have hstate := move.state_apply w
  have hstyle : (move.apply w).style = (move.next w.state).style :=
    congrArg WriterState.style hstate
  have hmargin : (move.apply w).margin = (move.next w.state).margin :=
    congrArg WriterState.margin hstate
  cases move with
  | indentMore =>
    refine .of_margin h.style_eq ?_
    rw [hmargin, Move.level, style.lead_succ, ← h.margin, ← h.style_eq]
    rfl
  | indentLess => exact .of_margin h.style_eq (Writer.margin_indentLess h)
  | _ => exact .of_margin (hstyle.trans h.style_eq) (hmargin.trans h.margin)

theorem Move.standsAt_applyAll {style : Style} {level : Nat} {w : Writer}
    (h : w.StandsAt style level) (moves : List Move) :
    (Move.applyAll w moves).StandsAt style (moves.foldl Move.level level) := by
  induction moves generalizing w level with
  | nil => exact h
  | cons move rest ih => exact ih (move.standsAt_apply h)

theorem Action.foldl_level_moves (level : Nat) (action : Action) :
    action.moves.foldl Move.level level = action.level level := by
  cases action with
  | writeLinesWith vars texts | fullLinesWith vars texts =>
    rw [moves, List.foldl_flatMap, List.foldl_fixed' fun _ => rfl]
    rfl
  | _ => rfl

theorem Action.standsAt_apply {style : Style} {level : Nat} {w : Writer}
    (h : w.StandsAt style level) (action : Action) :
    (action.apply w).StandsAt style (action.level level) := by
  rw [← action.applyAll_moves, ← action.foldl_level_moves]
  exact Move.standsAt_applyAll h action.moves

theorem Op.levelAll_acts (last : Option Caller) (level : Nat) (actions : List Action) :
    Op.levelAll last level (Op.acts actions) = actions.foldl Action.level level := by
  induction actions generalizing last level with
  | nil => rfl
  | cons action rest ih => exact ih _ _

theorem Action.foldl_level_of_writes {actions : List Action} (h : actions.all writes = true)
    (level : Nat) : actions.foldl Action.level level = level := by
  induction actions with
  | nil => rfl
  | cons action rest ih =>
    obtain ⟨haction, hrest⟩ := Bool.and_eq_true_iff.1 h
    have hkeeps : action.level level = level := by
      cases action with
      | indentMore | indentLess => cases haction
      | _ => rfl
    rw [List.foldl_cons, hkeeps, ih hrest]

/-- The operations of a Java call lead to the level of the call. -/
theorem JavaCall.levelAll_ops (last : Option Caller) (level : Nat) (call : JavaCall) :
    Op.levelAll last level call.ops = call.level level := by
  by_cases hwrites : call.writes = true
  · obtain ⟨actions, hops, hactions⟩ := ops_of_writes hwrites
    have hkeeps : call.level level = level := by
      cases call with
      | openClass | openMethod | openConstructor | openIf | openIfHeader | openWhile
      | openWhileHeader | openFor | openForEach | closeClass | closeMethod | closeIf | closeWhile
      | closeFor => cases hwrites
      | _ => rfl
    rw [hops, Op.levelAll_acts, Action.foldl_level_of_writes hactions, hkeeps]
  · cases call with
    | openClass | openMethod | openConstructor =>
      rw [ops, Op.levelAll_acts]
      simp only [Action.openClass, Action.openMethod, List.foldl_append,
        Action.foldl_level_of_writes (Action.writes_word _)]
      rfl
    | addInterface | addException =>
      rw [ops, Op.levelAll, Op.levelAll_acts, Op.level, Op.levelAll_acts]
      exact ite_self level
    | openIf | openIfHeader | openWhile | openWhileHeader | openFor | openForEach | closeClass
    | closeMethod | closeIf | closeWhile | closeFor => rfl
    | _ => exact absurd rfl hwrites

theorem Writer.StandsAt.record {style : Style} {level : Nat} {w : Writer}
    (h : w.StandsAt style level) (caller : Caller) : (w.record caller).StandsAt style level :=
  Move.standsAt_apply h (.record caller)

mutual

/-- An operation leads to its level, and its body does if it runs. -/
theorem Op.standsAt_apply {style : Style} {level : Nat} {w : Writer} (h : w.StandsAt style level) :
    (op : Op) → (op.apply w).StandsAt style (op.level w.runs.last level)
  | .act action => action.standsAt_apply h
  | .ifNewRun caller body => by
    have hbody := Op.standsAt_applyAll h body
    rw [Op.apply_ifNewRun, Op.level]
    by_cases hlast : w.runs.last = some caller
    · simpa only [if_pos hlast] using h.record caller
    · simpa only [if_neg hlast] using hbody.record caller
  | .ifSameRun caller body => by
    have hbody := Op.standsAt_applyAll h body
    rw [Op.apply_ifSameRun, Op.level]
    by_cases hlast : w.runs.last = some caller
    · simpa only [if_pos hlast] using hbody.record caller
    · simpa only [if_neg hlast] using h.record caller

theorem Op.standsAt_applyAll {style : Style} {level : Nat} {w : Writer}
    (h : w.StandsAt style level) :
    (ops : List Op) → (Op.applyAll w ops).StandsAt style (Op.levelAll w.runs.last level ops)
  | [] => h
  | op :: rest => by
    have hrest := Op.standsAt_applyAll (Op.standsAt_apply h op) rest
    rwa [op.last_apply] at hrest

end

namespace JavaOp

theorem standsAt_apply {style : Style} {level : Nat} {w : Writer} (h : w.StandsAt style level)
    (op : JavaOp) : (op.apply w).StandsAt style (op.level w.runs.last level) := by
  cases op with
  | base op => exact op.standsAt_apply h
  | java call =>
    have hcall := Op.standsAt_applyAll h call.ops
    rwa [call.levelAll_ops, call.applyAll_ops] at hcall

theorem standsAt_applyAll {style : Style} {level : Nat} {w : Writer} (h : w.StandsAt style level)
    (history : List JavaOp) :
    (applyAll w history).StandsAt style (levelAll w.runs.last level history) := by
  induction history generalizing w level with
  | nil => exact h
  | cons op rest ih =>
    have hrest := ih (standsAt_apply h op)
    rwa [last_apply] at hrest

end JavaOp

mutual

/-- Behind every step of an operation a writer stands at the level of that step. -/
theorem Op.standsAt_writers {style : Style} {level : Nat} {w : Writer}
    (h : w.StandsAt style level) :
    (op : Op) → List.Forall₂ (Writer.StandsAt style) (op.levels w.runs.last level)
      (op.run w).writers
  | .act action => .cons (action.standsAt_apply h) .nil
  | .ifNewRun caller body => by
    have hafter := Op.standsAt_apply h (.ifNewRun caller body)
    have hbody := Op.standsAt_writersAll h body
    rw [← Op.after_run, Op.run_ifNewRun] at hafter
    rw [Op.run_ifNewRun, Op.levels]
    by_cases hlast : w.runs.last = some caller
    · simp only [if_pos hlast] at hafter ⊢
      exact .cons hafter .nil
    · simp only [if_neg hlast] at hafter ⊢
      exact List.rel_append hbody (.cons hafter .nil)
  | .ifSameRun caller body => by
    have hafter := Op.standsAt_apply h (.ifSameRun caller body)
    have hbody := Op.standsAt_writersAll h body
    rw [← Op.after_run, Op.run_ifSameRun] at hafter
    rw [Op.run_ifSameRun, Op.levels]
    by_cases hlast : w.runs.last = some caller
    · simp only [if_pos hlast] at hafter ⊢
      exact List.rel_append hbody (.cons hafter .nil)
    · simp only [if_neg hlast] at hafter ⊢
      exact .cons hafter .nil

theorem Op.standsAt_writersAll {style : Style} {level : Nat} {w : Writer}
    (h : w.StandsAt style level) :
    (ops : List Op) → List.Forall₂ (Writer.StandsAt style) (Op.levelsAll w.runs.last level ops)
      (Step.writersAll (Op.runAll w ops))
  | [] => .nil
  | op :: rest => by
    have hrest := Op.standsAt_writersAll (Op.standsAt_apply h op) rest
    rw [op.last_apply, ← op.after_run] at hrest
    exact List.rel_append (Op.standsAt_writers h op) hrest

end

theorem JavaOp.standsAt_writersAll {style : Style} {level : Nat} {w : Writer}
    (h : w.StandsAt style level) (history : List JavaOp) :
    List.Forall₂ (Writer.StandsAt style) (levelsAll w.runs.last level history)
      (Step.writersAll (runAll w history)) := by
  induction history generalizing w level with
  | nil => exact .nil
  | cons op rest ih =>
    have hop : List.Forall₂ (Writer.StandsAt style) (op.levels w.runs.last level)
        (op.run w).writers := by
      cases op with
      | base op => exact op.standsAt_writers h
      | java call => exact .cons (standsAt_apply h (.java call)) .nil
    have hrest := ih (standsAt_apply h op)
    rw [last_apply, ← after_run] at hrest
    exact List.rel_append hop hrest

/-- Whatever the unit of indentation is and whatever becomes of the sink, the margin of a writer is
a whole number of units behind every step of a history, in bodies as well: one more behind each
operation that opens a body or goes deeper, and one less, but never less than none, behind each that
closes or goes back. The units can be counted from the margin unless they are empty, and a unit is
taken off between two characters. -/
theorem margin_is_whole_units (sink : Sink) (style : Style) (history : List JavaOp) :
    let start := Writer.start sink style
    start.StandsAt style 0 ∧
      List.Forall₂ (Writer.StandsAt style) (JavaOp.levelsAll none 0 history)
        (Step.writersAll (JavaOp.runAll start history)) ∧
      (JavaOp.applyAll start history).StandsAt style (JavaOp.levelAll none 0 history) := by
  intro start
  have hstart := Writer.standsAt_start sink style
  exact ⟨hstart, JavaOp.standsAt_writersAll hstart history,
    JavaOp.standsAt_applyAll hstart history⟩

/-- A unit of two bytes is taken off an empty margin and put on by a class and by one of two bodies.
-/
example :
    let deeper : JavaOp := .base (.ifNewRun ⟨"a"⟩ [.act .indentMore])
    let history : List JavaOp :=
      [.base (.act .indentLess), .java (.openClass "" "" "A"), deeper, deeper, .java .closeClass]
    JavaOp.levelsAll none 0 history = [0, 1, 2, 2, 2, 1] ∧
      (JavaOp.applyAll (.start .unlimited ⟨"é", "", ""⟩) history).margin = "é" := by
  decide +kernel

end SourceEmitter
