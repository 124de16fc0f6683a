import Mathlib.Data.List.Basic
import SourceEmitter.Proofs.JavaCalls

/-!
# Reports of callers

Which report a writer has last seen, and which bodies run for it, depends on nothing but the
reports in front of an operation. A body starts with the report from before its call, and what it
reports itself counts inside it alone: behind the call its caller has reported last.
-/

namespace SourceEmitter

def Action.report? : Action → Option Caller
  | record caller => some caller
  | _ => none

/-- The caller under which an operation has reported when it is done, if it reports. -/
def Op.report? : Op → Option Caller
  | .act action => action.report?
  | .ifNewRun caller _ | .ifSameRun caller _ => some caller

/-- The caller under which a Java call reports, if it does. -/
def JavaCall.report? : JavaCall → Option Caller
  | openClass _ _ _ => some Writer.classCaller
  | openMethod _ _ _ _ | openConstructor _ => some Writer.methodCaller
  | addInterface _ => some Writer.interfaceCaller
  | addException _ => some Writer.exceptionCaller
  | _ => none

def JavaOp.report? : JavaOp → Option Caller
  | base op => op.report?
  | java call => call.report?

/-- The last report behind some operations: that of the last of them which reports, and otherwise
the one before them. What is reported inside their bodies has no part in it. -/
def lastReport {α : Type} (report? : α → Option Caller) (before : Option Caller) (ops : List α) :
    Option Caller :=
  (ops.filterMap report?).getLast?.or before

@[simp] theorem lastReport_nil {α : Type} (report? : α → Option Caller) (before : Option Caller) :
    lastReport report? before [] = before := rfl

@[simp] theorem lastReport_cons {α : Type} (report? : α → Option Caller) (before : Option Caller)
    (op : α) (rest : List α) :
    lastReport report? before (op :: rest) = lastReport report? ((report? op).or before) rest := by
  cases hop : report? op with
  | none => simp [lastReport, hop]
  | some caller =>
    cases hrest : (rest.filterMap report?).getLast? <;>
      simp [lastReport, hop, hrest, List.getLast?_cons]

/-- Only a recording action changes the last report. -/
theorem Action.last_apply (w : Writer) (action : Action) :
    (action.apply w).runs.last = action.report?.or w.runs.last := by
  rw [← Action.applyAll_moves, Move.runs_applyAll]
  cases action with
  | writeLinesWith vars texts | fullLinesWith vars texts =>
    rw [moves, Move.runsAll, List.foldl_flatMap, List.foldl_fixed' fun _ => rfl]
    rfl
  | _ => rfl

theorem Op.last_apply (w : Writer) (op : Op) :
    (op.apply w).runs.last = op.report?.or w.runs.last := by
  cases op with
  | act action => exact action.last_apply w
  | ifNewRun caller body => rfl
  | ifSameRun caller body => rfl

theorem Op.last_applyAll (w : Writer) (ops : List Op) :
    (Op.applyAll w ops).runs.last = lastReport Op.report? w.runs.last ops := by
  induction ops generalizing w with
  | nil => rfl
  | cons op rest ih => rw [Op.applyAll, ih, op.last_apply, lastReport_cons]

theorem Action.report?_of_writes {action : Action} (h : action.writes = true) :
    action.report? = none := by
  cases action with
  | record => cases h
  | _ => rfl

theorem Action.filterMap_report? {actions : List Action} (h : actions.all writes = true) :
    actions.filterMap report? = [] :=
  List.filterMap_eq_nil_iff.2 fun action hmem =>
    report?_of_writes (List.all_eq_true.1 h action hmem)

theorem Op.lastReport_acts (before : Option Caller) (actions : List Action) :
    lastReport Op.report? before (Op.acts actions) = lastReport Action.report? before actions := by
  rw [lastReport, acts, List.filterMap_map]
  rfl

/-- The operations of a Java call report as the call does. -/
theorem JavaCall.lastReport_ops (before : Option Caller) (call : JavaCall) :
    lastReport Op.report? before call.ops = call.report?.or before := by
  by_cases hwrites : call.writes = true
  · obtain ⟨actions, hops, hactions⟩ := ops_of_writes hwrites
    have hsilent : call.report? = none := by
      cases call with
      | openClass | openMethod | openConstructor | addInterface | addException => cases hwrites
      | _ => rfl
    rw [hops, Op.lastReport_acts, lastReport, Action.filterMap_report? hactions, hsilent]
    rfl
  · cases call with
    | openClass | openMethod | openConstructor =>
      rw [ops, Op.lastReport_acts, lastReport]
      simp only [Action.openClass, Action.openMethod, List.filterMap_append,
        Action.filterMap_report? (Action.writes_word _)]
      rfl
    | addInterface | addException | openIf | openIfHeader | openWhile | openWhileHeader | openFor
    | openForEach | closeClass | closeMethod | closeIf | closeWhile | closeFor => rfl
    | _ => exact absurd rfl hwrites

theorem JavaOp.last_apply (w : Writer) (op : JavaOp) :
    (op.apply w).runs.last = op.report?.or w.runs.last := by
  cases op with
  | base op => exact op.last_apply w
  | java call =>
    rw [← applyAll_ops, Op.last_applyAll]
    exact call.lastReport_ops w.runs.last

theorem JavaOp.last_applyAll (w : Writer) (ops : List JavaOp) :
    (JavaOp.applyAll w ops).runs.last = lastReport JavaOp.report? w.runs.last ops := by
  induction ops generalizing w with
  | nil => rfl
  | cons op rest ih =>
    rw [lastReport_cons, ← last_apply]
    exact ih (op.apply w)

section

variable (w : Writer) (caller : Caller) (body : List Op)

theorem Op.run_ifNewRun : (Op.ifNewRun caller body).run w =
    if w.runs.last = some caller then .nested none (w.record caller)
    else .nested (some (Op.runAll w body)) ((Op.applyAll w body).record caller) := by
  have hstarts := w.runs.startsRun_iff caller
  unfold Op.run
  by_cases hlast : w.runs.last = some caller
  · rw [if_pos hlast, if_neg fun hnew => hstarts.1 hnew hlast]
  · rw [if_neg hlast, if_pos (hstarts.2 hlast), ← Op.final_runAll]

theorem Op.run_ifSameRun : (Op.ifSameRun caller body).run w =
    if w.runs.last = some caller then
      .nested (some (Op.runAll w body)) ((Op.applyAll w body).record caller)
    else .nested none (w.record caller) := by
  have hstarts := w.runs.startsRun_iff caller
  unfold Op.run
  by_cases hlast : w.runs.last = some caller
  · rw [if_pos hlast, if_neg fun hnew => hstarts.1 hnew hlast, ← Op.final_runAll]
  · rw [if_neg hlast, if_pos (hstarts.2 hlast)]

theorem Op.apply_ifNewRun : (Op.ifNewRun caller body).apply w =
    if w.runs.last = some caller then w.record caller else (Op.applyAll w body).record caller := by
  rw [← Op.after_run, Op.run_ifNewRun]
  split <;> rfl

theorem Op.apply_ifSameRun : (Op.ifSameRun caller body).apply w =
    if w.runs.last = some caller then (Op.applyAll w body).record caller else w.record caller := by
  rw [← Op.after_run, Op.run_ifSameRun]
  split <;> rfl

end

mutual

/-- The step of an operation in front of which `last` was the last report. Its body runs exactly if
its condition holds of that report, which the body still finds, and behind it nothing but the
operation's own report counts. -/
inductive Step.Keeps : Option Caller → Op → Step → Prop
  | act {last : Option Caller} {action : Action} {answer : Answer} {after : Writer}
      (behind : after.runs.last = action.report?.or last) :
      Keeps last (.act action) (.plain answer after)
  | newRun {last : Option Caller} {caller : Caller} {body : List Op} {steps : Option (List Step)}
      {after : Writer} (runs : steps.isSome = true ↔ last ≠ some caller)
      (inside : ∀ inner, steps = some inner → KeepsAll last body inner)
      (behind : after.runs.last = some caller) :
      Keeps last (.ifNewRun caller body) (.nested steps after)
  | sameRun {last : Option Caller} {caller : Caller} {body : List Op} {steps : Option (List Step)}
      {after : Writer} (runs : steps.isSome = true ↔ last = some caller)
      (inside : ∀ inner, steps = some inner → KeepsAll last body inner)
      (behind : after.runs.last = some caller) :
      Keeps last (.ifSameRun caller body) (.nested steps after)

/-- The steps of operations in a row, each behind the last report of those in front of it. -/
inductive Step.KeepsAll : Option Caller → List Op → List Step → Prop
  | intro {last : Option Caller} {ops : List Op} {steps : List Step}
      (length : steps.length = ops.length)
      (each : ∀ i op step, ops[i]? = some op → steps[i]? = some step →
        Keeps (lastReport Op.report? last (ops.take i)) op step) :
      KeepsAll last ops steps

end

theorem Step.KeepsAll.cons {last : Option Caller} {op : Op} {ops : List Op} {step : Step}
    {steps : List Step} (first : Step.Keeps last op step)
    (rest : Step.KeepsAll (op.report?.or last) ops steps) :
    Step.KeepsAll last (op :: ops) (step :: steps) := by
  obtain ⟨hlength, heach⟩ := rest
  refine .intro (congrArg (· + 1) hlength) fun i other found hop hstep => ?_
  cases i with
  | zero =>
    cases hop
    cases hstep
    exact first
  | succ i =>
    rw [List.take_succ_cons, lastReport_cons]
    exact heach i other found hop hstep

mutual

theorem Op.keeps_run (w : Writer) : (op : Op) → (op.run w).Keeps w.runs.last op
  | .act action => .act (action.last_apply w)
  | .ifNewRun caller body => by
    have hbody := Op.keepsAll_runAll w body
    rw [Op.run_ifNewRun]
    by_cases hlast : w.runs.last = some caller
    · rw [if_pos hlast]
      exact .newRun (iff_of_false nofun fun hnew => hnew hlast) nofun rfl
    · rw [if_neg hlast]
      exact .newRun (iff_of_true rfl hlast) (fun _ hinner => Option.some.inj hinner ▸ hbody) rfl
  | .ifSameRun caller body => by
    have hbody := Op.keepsAll_runAll w body
    rw [Op.run_ifSameRun]
    by_cases hlast : w.runs.last = some caller
    · rw [if_pos hlast]
      exact .sameRun (iff_of_true rfl hlast) (fun _ hinner => Option.some.inj hinner ▸ hbody) rfl
    · rw [if_neg hlast]
      exact .sameRun (iff_of_false nofun hlast) nofun rfl

theorem Op.keepsAll_runAll (w : Writer) :
    (ops : List Op) → Step.KeepsAll w.runs.last ops (Op.runAll w ops)
  | [] => .intro rfl nofun
  | op :: rest => by
    have hrest := Op.keepsAll_runAll (op.apply w) rest
    rw [op.last_apply, ← op.after_run] at hrest
    exact .cons (Op.keeps_run w op) hrest

end

/-- The step of an operation on Java source that is performed by `before`. A call that emits a
construct keeps to the reports in all operations it consists of. -/
def JavaOp.Keeps (before : Writer) (last : Option Caller) (step : Step) : JavaOp → Prop
  | base op => step.Keeps last op
  | java call =>
    step.after = Step.final before (Op.runAll before call.ops) ∧
      Step.KeepsAll last call.ops (Op.runAll before call.ops) ∧
      step.after.runs.last = call.report?.or last

theorem JavaOp.keeps_run (w : Writer) (op : JavaOp) :
    op.Keeps w w.runs.last (op.run w) := by
  cases op with
  | base op => exact op.keeps_run w
  | java call =>
    have hafter : call.apply w = Step.final w (Op.runAll w call.ops) := by
      rw [Op.final_runAll, call.applyAll_ops]
    exact ⟨hafter, Op.keepsAll_runAll w call.ops, JavaOp.last_apply w (.java call)⟩

/-- The step at a place of a history is that of its operation behind those in front of it. -/
theorem JavaOp.getElem?_runAll (w : Writer) (history : List JavaOp) (i : Nat) :
    (runAll w history)[i]? =
      history[i]?.map fun op => run (applyAll w (history.take i)) op := by
  induction history generalizing w i with
  | nil => rfl
  | cons op rest ih =>
    cases i with
    | zero => rfl
    | succ i =>
      rw [runAll, List.getElem?_cons_succ, List.getElem?_cons_succ, ih, after_run,
        List.take_succ_cons]
      rfl

theorem JavaOp.length_runAll (w : Writer) (history : List JavaOp) :
    (runAll w history).length = history.length := by
  induction history generalizing w with
  | nil => rfl
  | cons op rest ih => exact congrArg (· + 1) (ih _)

/-- At every place of a history the last report is that of the last operation in front of it which
reports, or the one before the history. The operation at that place, the operations in its body and
in all bodies inside it keep to the reports: a body runs exactly if its condition holds of the last
report in front of its call. -/
theorem bodies_run_by_reports (w : Writer) (history : List JavaOp) :
    let last := fun i => lastReport JavaOp.report? w.runs.last (history.take i)
    (∀ i, (JavaOp.applyAll w (history.take i)).runs.last = last i) ∧
      (JavaOp.applyAll w history).runs.last = lastReport JavaOp.report? w.runs.last history ∧
      (JavaOp.runAll w history).length = history.length ∧
      ∀ i (op : JavaOp) (step : Step), history[i]? = some op →
        (JavaOp.runAll w history)[i]? = some step →
        op.Keeps (JavaOp.applyAll w (history.take i)) (last i) step := by
  intro last
  refine ⟨fun i => JavaOp.last_applyAll w _, JavaOp.last_applyAll w history,
    JavaOp.length_runAll w history, ?_⟩
  intro i op step hop hstep
  have hrun : JavaOp.run (JavaOp.applyAll w (history.take i)) op = step := by
    rw [JavaOp.getElem?_runAll, hop] at hstep
    exact Option.some.inj hstep
  have hkeeps := JavaOp.keeps_run (JavaOp.applyAll w (history.take i)) op
  rwa [JavaOp.last_applyAll, hrun] at hkeeps

/-- A caller that reports inside its own body goes on with its run, there and behind the body. -/
example :
    let inner : Op := .ifNewRun ⟨"a"⟩ [.act (.write "x")]
    let outer : Op := .ifNewRun ⟨"a"⟩ [inner, inner]
    (Op.applyAll (.start .unlimited Style.default) [outer, outer]).textSoFar = "x" := by
  decide +kernel

end SourceEmitter
