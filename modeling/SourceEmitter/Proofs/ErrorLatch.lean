import Mathlib.Data.List.Forall2
import SourceEmitter.Proofs.Outlet

/-!
# A sink that fills up

The same operations run once on a sink with room for some number of bytes and once on a sink
without limit. The limited sink always holds the longest start of the unlimited one that fits, also
in the middle of an operation, of a queue or of a character, and the writer has failed exactly when
something did not fit. Histories that take the failure or change the room are left out.
-/

namespace SourceEmitter

namespace Outlet

/-- The outlet of a sink that had room for some bytes, when `data` has been set out for it. -/
def filled (room : Nat) (refuses : Bool) (data : ByteArray) : Outlet where
  sink := ⟨data.extract 0 room, some (room - data.size), refuses, 0⟩
  failure := if room < data.size then some .closed else none

/-- The outlet of a sink without limit, when `data` has been set out for it. -/
def holding (data : ByteArray) : Outlet := ⟨.holding data, none⟩

theorem extract_of_size_le {data : ByteArray} {room : Nat} (h : data.size ≤ room) :
    data.extract 0 room = data := by
  conv_lhs => rw [← Nat.max_eq_left h]
  exact ByteArray.extract_zero_max_size

theorem extract_append_of_le {data more : ByteArray} {room : Nat} (h : room ≤ data.size) :
    (data ++ more).extract 0 room = data.extract 0 room := by
  rw [ByteArray.extract_append, Nat.sub_eq_zero_of_le h, Nat.zero_sub, ByteArray.extract_same,
    ByteArray.append_empty]

theorem extract_append_of_size_le {data more : ByteArray} {room : Nat}
    (h : data.size ≤ room) :
    (data ++ more).extract 0 room = data ++ more.extract 0 (room - data.size) := by
  rw [ByteArray.extract_append, extract_of_size_le h, Nat.zero_sub]

theorem filled_empty (room : Nat) (refuses : Bool) :
    filled room refuses ByteArray.empty = ⟨.limited (some room) refuses, none⟩ := by
  rw [filled, extract_of_size_le (ByteArray.size_empty ▸ Nat.zero_le room)]
  simp [Sink.limited]

theorem put_holding (data : ByteArray) (text : String) :
    (holding data).put text = holding (data ++ text.toByteArray) :=
  put_endless rfl text

/-- A text that is set out leaves the start that fits, whether it is taken whole, in part, or,
behind a failure, not at all. -/
theorem put_filled (room : Nat) (refuses : Bool) (data : ByteArray) (text : String) :
    (filled room refuses data).put text = filled room refuses (data ++ text.toByteArray) := by
  have hsize : (data ++ text.toByteArray).size = data.size + text.toByteArray.size :=
    ByteArray.size_append
  by_cases hover : room < data.size
  · have hput : (filled room refuses data).put text = filled room refuses data := by
      simp [put, filled, hover]
    rw [hput]
    simp only [filled, hsize, extract_append_of_le (Nat.le_of_lt hover), if_pos hover,
      if_pos (Nat.lt_add_right text.toByteArray.size hover)]
    congr 3
    omega
  · have hle : data.size ≤ room := Nat.le_of_not_lt hover
    by_cases hempty : text = ""
    · have hput : (filled room refuses data).put text = filled room refuses data := by
        simp [put, hempty]
      rw [hput, hempty, String.toByteArray_empty, ByteArray.append_empty]
    · have hput : (filled room refuses data).put text =
          ⟨((filled room refuses data).sink.accept text.toByteArray).1,
            ((filled room refuses data).sink.accept text.toByteArray).2⟩ := by
        simp [put, filled, hover, hempty]
      rw [hput]
      by_cases hfits : text.toByteArray.size ≤ room - data.size
      · have hall : ¬room < data.size + text.toByteArray.size := by omega
        have htotal : (data ++ text.toByteArray).size ≤ room := by omega
        simp only [filled, Sink.accept, if_pos hfits, extract_of_size_le hle,
          extract_of_size_le htotal, hsize, if_neg hall, Nat.sub_sub]
      · have hall : room < data.size + text.toByteArray.size := by omega
        have hleft : room - (data.size + text.toByteArray.size) = 0 := by omega
        simp only [filled, Sink.accept, if_neg hfits, extract_of_size_le hle,
          extract_append_of_size_le hle, hsize, if_pos hall, hleft]

end Outlet

/-- Two writers in one state, the first over a sink that had room for `room` bytes and the second
over one without limit, for both of which the same bytes have been set out. -/
structure Writer.Tracks (room : Nat) (refuses : Bool) (w v : Writer) : Prop where
  state : w.state = v.state
  outlets : ∃ data, w.outlet = .filled room refuses data ∧ v.outlet = .holding data

namespace Writer.Tracks

variable {room : Nat} {refuses : Bool} {w v : Writer}

theorem start (room : Nat) (refuses : Bool) (style : Style) :
    Tracks room refuses (.start (.limited (some room) refuses) style)
      (.start .unlimited style) :=
  ⟨rfl, ByteArray.empty, (Outlet.filled_empty room refuses).symm, rfl⟩

theorem outlets_putAll {data : ByteArray} {limited unlimited : Outlet} (texts : List String)
    (hl : limited = .filled room refuses data) (hu : unlimited = .holding data) :
    ∃ more, limited.putAll texts = .filled room refuses more ∧
      unlimited.putAll texts = .holding more := by
  induction texts generalizing data limited unlimited with
  | nil => exact ⟨data, hl, hu⟩
  | cons text rest ih =>
    have hl' : limited.put text = .filled room refuses (data ++ text.toByteArray) := by
      rw [hl, Outlet.put_filled]
    have hu' : unlimited.put text = .holding (data ++ text.toByteArray) := by
      rw [hu, Outlet.put_holding]
    exact ih hl' hu'

/-- Moves that leave the outlets alone keep the two writers in step. -/
theorem moves (h : Tracks room refuses w v) (moves : List Move)
    (hmoves : ∀ move ∈ moves, move.leavesOutlet = true) :
    Tracks room refuses (Move.applyAll w moves) (Move.applyAll v moves) := by
  obtain ⟨data, hl, hu⟩ := h.outlets
  constructor
  · rw [Move.state_applyAll, Move.state_applyAll, h.state]
  · rw [Move.outlet_applyAll w moves hmoves, Move.outlet_applyAll v moves hmoves, h.state]
    exact outlets_putAll _ hl hu

theorem runs_eq (h : Tracks room refuses w v) : w.runs = v.runs :=
  congrArg WriterState.runs h.state

theorem record (h : Tracks room refuses w v) (caller : Caller) :
    Tracks room refuses (w.record caller) (v.record caller) :=
  h.moves [.record caller] (by simp [Move.leavesOutlet])

theorem action (h : Tracks room refuses w v) (action : Action)
    (hact : action.leavesOutlet = true) :
    Tracks room refuses (action.apply w) (action.apply v) := by
  rw [← Action.applyAll_moves, ← Action.applyAll_moves]
  exact h.moves _ (action.leavesOutlet_moves hact)

theorem ops (h : Tracks room refuses w v) (ops : List Op)
    (hops : Op.allOf Action.leavesOutlet ops = true) :
    Tracks room refuses (Op.applyAll w ops) (Op.applyAll v ops) := by
  rw [← Op.applyAll_movesAll, ← Op.applyAll_movesAll, h.runs_eq]
  exact h.moves _ (Op.leavesOutlet_movesAll _ ops hops)

end Writer.Tracks

mutual

/-- The writers behind a step and behind the steps of its body, in the order of execution. -/
def Step.writers : Step → List Writer
  | .plain _ after => [after]
  | .nested none after => [after]
  | .nested (some steps) after => Step.writersAll steps ++ [after]

def Step.writersAll : List Step → List Writer
  | [] => []
  | step :: rest => Step.writers step ++ Step.writersAll rest

end

mutual

/-- Two writers in step stay so behind every operation of a history, in bodies as well. -/
theorem Writer.Tracks.writers {room : Nat} {refuses : Bool} {w v : Writer}
    (h : Tracks room refuses w v) : (op : Op) → op.all Action.leavesOutlet = true →
      List.Forall₂ (Tracks room refuses) (op.run w).writers (op.run v).writers
  | .act action, hop => .cons (h.action action hop) .nil
  | .ifNewRun caller body, hop => by
    unfold Op.run
    rw [h.runs_eq]
    split
    · refine List.rel_append (h.writersAll body hop) (.cons ?_ .nil)
      rw [Op.final_runAll, Op.final_runAll]
      exact (h.ops body hop).record caller
    · exact .cons (h.record caller) .nil
  | .ifSameRun caller body, hop => by
    unfold Op.run
    rw [h.runs_eq]
    split
    · exact .cons (h.record caller) .nil
    · refine List.rel_append (h.writersAll body hop) (.cons ?_ .nil)
      rw [Op.final_runAll, Op.final_runAll]
      exact (h.ops body hop).record caller

theorem Writer.Tracks.writersAll {room : Nat} {refuses : Bool} {w v : Writer}
    (h : Tracks room refuses w v) : (ops : List Op) → Op.allOf Action.leavesOutlet ops = true →
      List.Forall₂ (Tracks room refuses) (Step.writersAll (Op.runAll w ops))
        (Step.writersAll (Op.runAll v ops))
  | [], _ => .nil
  | op :: rest, hops => by
    obtain ⟨hop, hrest⟩ := Bool.and_eq_true_iff.1 hops
    refine List.rel_append (h.writers op hop) ?_
    rw [Op.after_run, Op.after_run]
    exact (h.ops [op] (Bool.and_eq_true_iff.2 ⟨hop, rfl⟩)).writersAll rest hrest

end

namespace Writer.Tracks

variable {room : Nat} {refuses : Bool} {w v : Writer}

theorem javaOp (h : Tracks room refuses w v) (op : JavaOp)
    (hop : op.all Action.leavesOutlet = true) :
    Tracks room refuses (op.apply w) (op.apply v) := by
  rw [← JavaOp.applyAll_ops, ← JavaOp.applyAll_ops]
  exact h.ops op.ops (op.leavesOutlet_ops hop)

theorem javaOps (h : Tracks room refuses w v) (ops : List JavaOp)
    (hops : ops.all (JavaOp.all Action.leavesOutlet) = true) :
    Tracks room refuses (JavaOp.applyAll w ops) (JavaOp.applyAll v ops) := by
  induction ops generalizing w v with
  | nil => exact h
  | cons op rest ih =>
    obtain ⟨hop, hrest⟩ := Bool.and_eq_true_iff.1 hops
    exact ih (h.javaOp op hop) hrest

theorem javaWriters (h : Tracks room refuses w v) (ops : List JavaOp)
    (hops : ops.all (JavaOp.all Action.leavesOutlet) = true) :
    List.Forall₂ (Tracks room refuses) (Step.writersAll (JavaOp.runAll w ops))
      (Step.writersAll (JavaOp.runAll v ops)) := by
  induction ops generalizing w v with
  | nil => exact .nil
  | cons op rest ih =>
    obtain ⟨hop, hrest⟩ := Bool.and_eq_true_iff.1 hops
    have hnext := h.javaOp op hop
    refine List.rel_append ?_ ?_
    · cases op with
      | base op => exact h.writers op hop
      | java call => exact .cons hnext .nil
    · rw [JavaOp.after_run, JavaOp.after_run]
      exact ih hnext hrest

end Writer.Tracks

/-- `w` holds the start of what `v` holds that fits into `room` bytes, and has failed exactly when
that is not all of it. -/
structure Writer.HoldsStartOf (room : Nat) (w v : Writer) : Prop where
  bytes : w.sink.bytes = v.sink.bytes.extract 0 (min room v.sink.bytes.size)
  failed : w.hasFailed = true ↔ room < v.sink.bytes.size

theorem Writer.Tracks.holdsStartOf {room : Nat} {refuses : Bool} {w v : Writer}
    (h : Tracks room refuses w v) : HoldsStartOf room w v := by
  obtain ⟨data, hl, hu⟩ := h.outlets
  have hv : v.sink.bytes = data := congrArg (·.sink.bytes) hu
  have hw : w.sink.bytes = data.extract 0 room := congrArg (·.sink.bytes) hl
  have hf : w.failure = if room < data.size then some .closed else none :=
    congrArg (·.failure) hl
  constructor
  · rw [hw, hv]
    rcases Nat.le_total room data.size with hle | hle
    · rw [Nat.min_eq_left hle]
    · rw [Nat.min_eq_right hle, Outlet.extract_of_size_le hle, ByteArray.extract_zero_size]
  · rw [hasFailed, hf, hv]
    split <;> simp [*]

/-- A sink that filled up is not flushed, and one that did not is flushed once. -/
theorem Outlet.close_filled (room : Nat) (refuses : Bool) (data : ByteArray) :
    (room < data.size → (filled room refuses data).close =
      ((filled room refuses data).sink, .error (.io (.sink .closed)))) ∧
    (data.size ≤ room → (filled room refuses data).close =
      (⟨data, some (room - data.size), refuses, 1⟩,
        if refuses then .error (.io (.sink .flushRefused)) else .ok ())) := by
  constructor
  · intro hover
    simp [close, filled, hover]
  · intro hle
    have hfits : ¬room < data.size := Nat.not_lt.2 hle
    cases refuses <;> simp [close, filled, Sink.flush, hfits, extract_of_size_le hle]

theorem Outlet.close_holding (data : ByteArray) : (holding data).close.1.bytes = data := rfl

/-- Behind every operation a sink with room for some bytes holds the longest start that fits of
what the same operations put into a sink without limit, and the writer has failed exactly when
something did not fit. Finishing succeeds exactly when the whole text, with what was pending, fits
and the flush is not refused; it flushes a text that fits once, and reports the failed write without
a flush when the text does not fit. -/
theorem limited_run_holds_start (style : Style) (room : Nat) (refuses : Bool) (ops : List JavaOp)
    (hops : ops.all (JavaOp.all Action.leavesOutlet) = true) :
    let limited := Writer.start (.limited (some room) refuses) style
    let unlimited := Writer.start .unlimited style
    let text := (JavaOp.applyAll unlimited ops).finish.1.bytes
    let finished := (JavaOp.applyAll limited ops).finish
    List.Forall₂ (Writer.HoldsStartOf room) (Step.writersAll (JavaOp.runAll limited ops))
        (Step.writersAll (JavaOp.runAll unlimited ops)) ∧
      (finished.2 = .ok () ↔ text.size ≤ room ∧ refuses = false) ∧
      (text.size ≤ room → finished.1.bytes = text ∧ finished.1.flushes = 1) ∧
      (room < text.size → finished.2 = .error (.io (.sink .closed)) ∧ finished.1.flushes = 0 ∧
        finished.1.bytes = text.extract 0 room) := by
  intro limited unlimited text finished
  have hstart := Writer.Tracks.start room refuses style
  have hrun : Writer.Tracks room refuses (JavaOp.applyAll limited ops)
      (JavaOp.applyAll unlimited ops) := hstart.javaOps ops hops
  obtain ⟨data, hl, hu⟩ := hrun.outlets
  have hpending : (JavaOp.applyAll limited ops).pending = (JavaOp.applyAll unlimited ops).pending :=
    congrArg WriterState.pending hrun.state
  obtain ⟨whole, hlw, huw⟩ := Writer.Tracks.outlets_putAll
    (JavaOp.applyAll unlimited ops).pending.fragments hl hu
  have htext : text = whole := by
    change (JavaOp.applyAll unlimited ops).finish.1.bytes = whole
    rw [Writer.finish_eq, huw, Outlet.close_holding]
  have hfinished : finished = (Outlet.filled room refuses whole).close := by
    change (JavaOp.applyAll limited ops).finish = _
    rw [Writer.finish_eq, hpending, hlw]
  obtain ⟨hover, hfits⟩ := Outlet.close_filled room refuses whole
  rw [htext, hfinished]
  refine ⟨(hstart.javaWriters ops hops).imp fun _ _ h => h.holdsStartOf, ?_, ?_, ?_⟩
  · by_cases hle : whole.size ≤ room
    · rw [hfits hle]
      cases refuses <;> simp [hle]
    · rw [hover (Nat.lt_of_not_le hle)]
      simp [hle]
  · intro hle
    rw [hfits hle]
    exact ⟨rfl, rfl⟩
  · intro hlt
    rw [hover hlt]
    exact ⟨rfl, rfl, rfl⟩

/-- A fragment that is pending when the writer finishes is cut inside a character of two bytes. -/
theorem limited_run_holds_start_in_character :
    let ops : List JavaOp :=
      [.java (.addInterface "I"), .base (.ifSameRun Writer.interfaceCaller [.act (.defer "é")])]
    let finished :=
      (JavaOp.applyAll (.start (.limited (some 14) false) Style.default) ops).finish
    ops.all (JavaOp.all Action.leavesOutlet) = true ∧
      finished.2 = .error (.io (.sink .closed)) ∧ finished.1.flushes = 0 := by
  intro ops finished
  have hlaw := (limited_run_holds_start Style.default 14 false ops rfl).2.2.2 (by decide +kernel)
  exact ⟨rfl, hlaw.1, hlaw.2.1⟩

end SourceEmitter
