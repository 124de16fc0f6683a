import SourceEmitter.Proofs.ErrorLatch

/-!
# Offers to a sink that fails

A run over a sink that fails, recovers and fails again sets out the same texts, leaves the same
states and performs the same bodies as the run over a sink without limit. Each text is offered once,
in order. The sink takes what fits of an offer, and nothing of one that is made while a failure is
kept, so a text that was dropped cannot turn up later.
-/

namespace SourceEmitter

namespace Sink

/-- The start of some bytes that fits into a room. -/
def fitting : Option Nat → ByteArray → ByteArray
  | none, data => data
  | some room, data => data.extract 0 room

theorem fitting_empty (room : Option Nat) : fitting room ByteArray.empty = ByteArray.empty := by
  cases room with
  | none => rfl
  | some room => exact Outlet.extract_of_size_le (ByteArray.size_empty ▸ Nat.zero_le room)

theorem bytes_accept (sink : Sink) (data : ByteArray) :
    (sink.accept data).1.bytes = sink.bytes ++ fitting sink.room data := by
  cases hroom : sink.room with
  | none => rw [accept_unlimited sink data hroom, fitting]
  | some room =>
    by_cases hfits : data.size ≤ room
    · simp [accept, fitting, hroom, hfits, Outlet.extract_of_size_le hfits]
    · simp [accept, fitting, hroom, hfits]

end Sink

/-- A text that is set out for a sink, with the failure that is kept and the room that is left at
that moment. -/
structure Offer where
  text : String
  failure : Option SinkFault
  room : Option Nat

namespace Offer

/-- Whether nothing stands in the way of the text, however long it is. -/
def IsFree (offer : Offer) : Prop := offer.failure = none ∧ offer.room = none

/-- The bytes of the text that the sink takes: none if a failure is kept, and otherwise the start
that fits. -/
def taken (offer : Offer) : ByteArray :=
  match offer.failure with
  | some _ => ByteArray.empty
  | none => Sink.fitting offer.room offer.text.toByteArray

def takenAll (offers : List Offer) : ByteArray :=
  offers.foldr (fun offer rest => offer.taken ++ rest) ByteArray.empty

@[simp] theorem takenAll_nil : takenAll [] = ByteArray.empty := rfl

@[simp] theorem takenAll_cons (offer : Offer) (rest : List Offer) :
    takenAll (offer :: rest) = offer.taken ++ takenAll rest := rfl

theorem takenAll_append (first second : List Offer) :
    takenAll (first ++ second) = takenAll first ++ takenAll second := by
  induction first with
  | nil => simp
  | cons offer rest ih => rw [List.cons_append, takenAll_cons, ih, takenAll_cons,
      ByteArray.append_assoc]

end Offer

/-- The offers by which some texts are put in a row. -/
def Outlet.offers (outlet : Outlet) : List String → List Offer
  | [] => []
  | text :: rest => ⟨text, outlet.failure, outlet.sink.room⟩ :: offers (outlet.put text) rest

namespace Move

def offers (w : Writer) (move : Move) : List Offer := w.outlet.offers (move.texts w.state)

def offersAll (w : Writer) : List Move → List Offer
  | [] => []
  | move :: rest => move.offers w ++ offersAll (move.apply w) rest

end Move

namespace JavaOp

def offers (w : Writer) (op : JavaOp) : List Offer :=
  Move.offersAll w (Op.movesAll w.runs op.ops)

/-- The offers of a history, each as the writer stands when it is made. -/
def offersAll (w : Writer) : List JavaOp → List Offer
  | [] => []
  | op :: rest => op.offers w ++ offersAll (op.apply w) rest

end JavaOp

namespace Outlet

theorem map_text_offers (outlet : Outlet) (texts : List String) :
    (outlet.offers texts).map Offer.text = texts := by
  induction texts generalizing outlet with
  | nil => rfl
  | cons text rest ih => rw [offers, List.map_cons, ih]

theorem bytes_put (outlet : Outlet) (text : String) :
    (outlet.put text).sink.bytes =
      outlet.sink.bytes ++ (Offer.mk text outlet.failure outlet.sink.room).taken := by
  obtain ⟨sink, failure⟩ := outlet
  cases failure with
  | some fault => exact ByteArray.append_empty.symm
  | none =>
    unfold put Offer.taken
    split
    next hempty =>
      have htext : text = "" := by simpa using hempty
      rw [htext, String.toByteArray_empty, Sink.fitting_empty, ByteArray.append_empty]
    next => exact sink.bytes_accept text.toByteArray

/-- Texts that are put in a row leave what is taken of their offers. -/
theorem bytes_putAll (outlet : Outlet) (texts : List String) :
    (outlet.putAll texts).sink.bytes =
      outlet.sink.bytes ++ Offer.takenAll (outlet.offers texts) := by
  induction texts generalizing outlet with
  | nil => exact ByteArray.append_empty.symm
  | cons text rest ih =>
    rw [putAll_cons, ih, bytes_put, offers, Offer.takenAll_cons, ByteArray.append_assoc]

theorem bytes_close (outlet : Outlet) : outlet.close.1.bytes = outlet.sink.bytes := by
  unfold close
  split
  next => rfl
  next =>
    cases hrefuses : outlet.sink.refusesFlush <;> simp [Sink.flush, hrefuses]

end Outlet

namespace Move

/-- A move adds to the sink what is taken of its offers. One that does not leave the outlet alone
sets out no text. -/
theorem bytes_apply (w : Writer) (move : Move) :
    (move.apply w).sink.bytes = w.sink.bytes ++ Offer.takenAll (move.offers w) := by
  by_cases hleaves : move.leavesOutlet = true
  · have houtlet := outlet_apply w move hleaves
    exact (congrArg (·.sink.bytes) houtlet).trans (w.outlet.bytes_putAll _)
  · cases move with
    | clearFailure | setRoom => exact ByteArray.append_empty.symm
    | _ => exact absurd rfl hleaves

theorem bytes_applyAll (w : Writer) (moves : List Move) :
    (applyAll w moves).sink.bytes = w.sink.bytes ++ Offer.takenAll (offersAll w moves) := by
  induction moves generalizing w with
  | nil => exact ByteArray.append_empty.symm
  | cons move rest ih =>
    rw [applyAll_cons, ih, bytes_apply, offersAll, Offer.takenAll_append, ByteArray.append_assoc]

end Move

namespace JavaOp

theorem bytes_apply (w : Writer) (op : JavaOp) :
    (op.apply w).sink.bytes = w.sink.bytes ++ Offer.takenAll (op.offers w) := by
  rw [← applyAll_ops, ← Op.applyAll_movesAll, Move.bytes_applyAll, offers]

/-- The bytes of a run are what is taken of its offers, in their order. -/
theorem bytes_applyAll (w : Writer) (history : List JavaOp) :
    (applyAll w history).sink.bytes =
      w.sink.bytes ++ Offer.takenAll (offersAll w history) := by
  induction history generalizing w with
  | nil => exact ByteArray.append_empty.symm
  | cons op rest ih =>
    have hrest : (applyAll w (op :: rest)).sink.bytes = (applyAll (op.apply w) rest).sink.bytes :=
      rfl
    rw [hrest, ih, bytes_apply, offersAll, Offer.takenAll_append, ByteArray.append_assoc]

end JavaOp

/-- The same move where room never ends. -/
def Move.calm : Move → Move
  | setRoom _ => setRoom none
  | move => move

/-- The same action where room never ends. -/
def Action.calm : Action → Action
  | setRoom _ => setRoom none
  | action => action

mutual

def Op.calm : Op → Op
  | .act action => .act action.calm
  | .ifNewRun caller body => .ifNewRun caller (Op.calmAll body)
  | .ifSameRun caller body => .ifSameRun caller (Op.calmAll body)

def Op.calmAll : List Op → List Op
  | [] => []
  | op :: rest => Op.calm op :: Op.calmAll rest

end

/-- The same operation where room never ends, at any depth. -/
def JavaOp.calm : JavaOp → JavaOp
  | base op => base op.calm
  | java call => java call

namespace Move

theorem calm_of_keepsRoom {move : Move} (h : move.keepsRoom = true) : move.calm = move := by
  cases move with
  | setRoom => cases h
  | _ => rfl

theorem map_calm_of_keepsRoom {moves : List Move} (h : ∀ move ∈ moves, move.keepsRoom = true) :
    moves.map calm = moves := by
  refine (List.map_congr_left fun move hm => ?_).trans (List.map_id moves)
  exact calm_of_keepsRoom (h move hm)

theorem next_calm (s : WriterState) (move : Move) : move.calm.next s = move.next s := by
  cases move <;> rfl

theorem texts_calm (s : WriterState) (move : Move) : move.calm.texts s = move.texts s := by
  cases move <;> rfl

theorem runs_calm (tracker : RunTracker) (move : Move) :
    move.calm.runs tracker = move.runs tracker := by
  cases move <;> rfl

theorem runsAll_calm (tracker : RunTracker) (moves : List Move) :
    runsAll tracker (moves.map calm) = runsAll tracker moves := by
  rw [runsAll, List.foldl_map, runsAll]
  simp only [runs_calm]

theorem nextAll_calm (s : WriterState) (moves : List Move) :
    nextAll s (moves.map calm) = nextAll s moves := by
  rw [nextAll, List.foldl_map, nextAll]
  simp only [next_calm]

theorem textsAll_calm (s : WriterState) (moves : List Move) :
    textsAll s (moves.map calm) = textsAll s moves := by
  induction moves generalizing s with
  | nil => rfl
  | cons move rest ih => rw [List.map_cons, textsAll, textsAll, texts_calm, next_calm, ih]

end Move

theorem Action.moves_calm (action : Action) : action.calm.moves = action.moves.map Move.calm := by
  by_cases hkeeps : action.keepsRoom = true
  · have hcalm : action.calm = action := by
      cases action with
      | setRoom => cases hkeeps
      | _ => rfl
    rw [hcalm, Move.map_calm_of_keepsRoom (action.keepsRoom_moves hkeeps)]
  · cases action with
    | setRoom => rfl
    | _ => exact absurd rfl hkeeps

mutual

/-- Without the changes of room an operation makes its moves without the changes of room. -/
theorem Op.moves_calm (tracker : RunTracker) :
    (op : Op) → op.calm.moves tracker = (op.moves tracker).map Move.calm
  | .act action => action.moves_calm
  | .ifNewRun caller body => by
    rw [Op.calm, Op.moves, Op.moves, List.map_append]
    split
    · rw [Op.movesAll_calm tracker body]
      rfl
    · rfl
  | .ifSameRun caller body => by
    rw [Op.calm, Op.moves, Op.moves, List.map_append]
    split
    · rfl
    · rw [Op.movesAll_calm tracker body]
      rfl

theorem Op.movesAll_calm (tracker : RunTracker) :
    (ops : List Op) → Op.movesAll tracker (Op.calmAll ops) = (Op.movesAll tracker ops).map Move.calm
  | [] => rfl
  | op :: rest => by
    rw [Op.calmAll, Op.movesAll, Op.movesAll, List.map_append, Op.moves_calm tracker op,
      Move.runsAll_calm, Op.movesAll_calm _ rest]

end

theorem JavaOp.moves_calm (tracker : RunTracker) (op : JavaOp) :
    Op.movesAll tracker op.calm.ops = (Op.movesAll tracker op.ops).map Move.calm := by
  cases op with
  | base op => exact Op.movesAll_calm tracker [op]
  | java call =>
    refine (Move.map_calm_of_keepsRoom fun move hm => Move.keepsRoom_of_leavesOutlet ?_).symm
    exact Op.leavesOutlet_movesAll tracker call.ops call.leavesOutlet_ops move hm

/-- Whether an outlet takes every text. -/
def Outlet.IsFree (outlet : Outlet) : Prop := outlet.failure = none ∧ outlet.sink.room = none

namespace Outlet.IsFree

variable {outlet : Outlet}

theorem put (h : outlet.IsFree) (text : String) : (outlet.put text).IsFree := by
  obtain ⟨sink, failure⟩ := outlet
  obtain ⟨rfl, hroom⟩ := h
  rw [put_endless hroom]
  exact ⟨rfl, hroom⟩

theorem putAll (h : outlet.IsFree) (texts : List String) : (outlet.putAll texts).IsFree := by
  induction texts generalizing outlet with
  | nil => exact h
  | cons text rest ih => exact ih (h.put text)

theorem offers (h : outlet.IsFree) (texts : List String) :
    ∀ offer ∈ outlet.offers texts, offer.IsFree := by
  induction texts generalizing outlet with
  | nil => exact fun _ hm => nomatch hm
  | cons text rest ih =>
    intro offer hm
    rcases List.mem_cons.1 hm with rfl | hm
    · exact h
    · exact ih (h.put text) offer hm

end Outlet.IsFree

namespace Move

theorem isFree_apply {w : Writer} (h : w.outlet.IsFree) (move : Move) :
    (move.calm.apply w).outlet.IsFree := by
  by_cases hleaves : move.leavesOutlet = true
  · rw [calm_of_keepsRoom (keepsRoom_of_leavesOutlet hleaves), outlet_apply w move hleaves]
    exact h.putAll _
  · cases move with
    | clearFailure => exact ⟨rfl, h.2⟩
    | setRoom => exact ⟨h.1, rfl⟩
    | _ => exact absurd rfl hleaves

theorem isFree_applyAll {w : Writer} (h : w.outlet.IsFree) (moves : List Move) :
    (applyAll w (moves.map calm)).outlet.IsFree ∧
      ∀ offer ∈ offersAll w (moves.map calm), offer.IsFree := by
  induction moves generalizing w with
  | nil => exact ⟨h, fun _ hm => nomatch hm⟩
  | cons move rest ih =>
    obtain ⟨hfree, hrest⟩ := ih (isFree_apply h move)
    refine ⟨hfree, fun offer hm => ?_⟩
    rcases List.mem_append.1 hm with hm | hm
    · exact h.offers _ offer hm
    · exact hrest offer hm

theorem map_text_offersAll (w : Writer) (moves : List Move) :
    (offersAll w moves).map Offer.text = textsAll w.state moves := by
  induction moves generalizing w with
  | nil => rfl
  | cons move rest ih =>
    rw [offersAll, List.map_append, ih, offers, Outlet.map_text_offers, state_apply, textsAll]

end Move

/-- A step without its answer: the states behind it and behind the steps of its body, if the body
ran. -/
inductive Course where
  | plain (state : WriterState)
  | nested (body : Option (List Course)) (state : WriterState)

mutual

def Step.course : Step → Course
  | .plain _ after => .plain after.state
  | .nested none after => .nested none after.state
  | .nested (some steps) after => .nested (some (Step.courses steps)) after.state

def Step.courses : List Step → List Course
  | [] => []
  | step :: rest => Step.course step :: Step.courses rest

end

section
variable {w v : Writer}

theorem Writer.runs_eq_of_state (h : w.state = v.state) : w.runs = v.runs :=
  congrArg WriterState.runs h

theorem Writer.state_record (h : w.state = v.state) (caller : Caller) :
    (w.record caller).state = (v.record caller).state :=
  congrArg (fun s : WriterState => { s with runs := s.runs.record caller }) h

theorem Op.state_applyAll_calm (h : w.state = v.state) (ops : List Op) :
    (Op.applyAll w ops).state = (Op.applyAll v (Op.calmAll ops)).state := by
  rw [← Op.applyAll_movesAll, ← Op.applyAll_movesAll, Move.state_applyAll, Move.state_applyAll,
    Op.movesAll_calm, Move.nextAll_calm, h, Writer.runs_eq_of_state h]

/-- The steps of a body that ran, and the report of its caller behind them. -/
theorem Step.course_body (h : w.state = v.state) (caller : Caller) (body : List Op)
    (hbody : Step.courses (Op.runAll w body) = Step.courses (Op.runAll v (Op.calmAll body))) :
    Step.course (.nested (some (Op.runAll w body))
        ((Step.final w (Op.runAll w body)).record caller)) =
      Step.course (.nested (some (Op.runAll v (Op.calmAll body)))
        ((Step.final v (Op.runAll v (Op.calmAll body))).record caller)) := by
  rw [Step.course, Step.course, hbody, Op.final_runAll, Op.final_runAll,
    Writer.state_record (Op.state_applyAll_calm h body)]

end

mutual

/-- Writers in one state perform an operation alike, in bodies as well. -/
theorem Op.course_run {w v : Writer} (h : w.state = v.state) :
    (op : Op) → (op.run w).course = (op.calm.run v).course
  | .act action => congrArg Course.plain (Op.state_applyAll_calm h [.act action])
  | .ifNewRun caller body => by
    rw [Op.calm, Op.run, Op.run, Writer.runs_eq_of_state h]
    split
    · exact Step.course_body h caller body (Op.courses_runAll h body)
    · exact congrArg (Course.nested none) (Writer.state_record h caller)
  | .ifSameRun caller body => by
    rw [Op.calm, Op.run, Op.run, Writer.runs_eq_of_state h]
    split
    · exact congrArg (Course.nested none) (Writer.state_record h caller)
    · exact Step.course_body h caller body (Op.courses_runAll h body)

theorem Op.courses_runAll {w v : Writer} (h : w.state = v.state) :
    (ops : List Op) → Step.courses (Op.runAll w ops) = Step.courses (Op.runAll v (Op.calmAll ops))
  | [] => rfl
  | op :: rest => by
    have hnext : (op.run w).after.state = (op.calm.run v).after.state := by
      rw [Op.after_run, Op.after_run]
      exact Op.state_applyAll_calm h [op]
    rw [Op.calmAll, Op.runAll, Op.runAll, Step.courses, Step.courses, Op.course_run h op,
      Op.courses_runAll hnext rest]

end

namespace JavaOp

variable {w v : Writer}

theorem state_apply_calm (h : w.state = v.state) (op : JavaOp) :
    (op.apply w).state = (op.calm.apply v).state := by
  rw [← applyAll_ops, ← applyAll_ops, ← Op.applyAll_movesAll, ← Op.applyAll_movesAll,
    Move.state_applyAll, Move.state_applyAll, moves_calm, Move.nextAll_calm, h,
    Writer.runs_eq_of_state h]

theorem course_run (h : w.state = v.state) (op : JavaOp) :
    (op.run w).course = (op.calm.run v).course := by
  cases op with
  | base op => exact op.course_run h
  | java call => exact congrArg Course.plain (state_apply_calm h (.java call))

theorem courses_runAll (h : w.state = v.state) (history : List JavaOp) :
    Step.courses (runAll w history) = Step.courses (runAll v (history.map calm)) := by
  induction history generalizing w v with
  | nil => rfl
  | cons op rest ih =>
    have hnext : (op.run w).after.state = (op.calm.run v).after.state := by
      rw [after_run, after_run]
      exact state_apply_calm h op
    rw [List.map_cons, runAll, runAll, Step.courses, Step.courses, course_run h op, ih hnext]

theorem isFree_apply (h : v.outlet.IsFree) (op : JavaOp) : (op.calm.apply v).outlet.IsFree := by
  rw [← applyAll_ops, ← Op.applyAll_movesAll, moves_calm]
  exact (Move.isFree_applyAll h _).1

/-- Writers in one state make offers of the same texts. -/
theorem texts_offersAll (h : w.state = v.state) (history : List JavaOp) :
    (offersAll w history).map Offer.text =
      (offersAll v (history.map calm)).map Offer.text := by
  induction history generalizing w v with
  | nil => rfl
  | cons op rest ih =>
    have hop : (op.offers w).map Offer.text = (op.calm.offers v).map Offer.text := by
      rw [offers, offers, Move.map_text_offersAll, Move.map_text_offersAll, moves_calm,
        Move.textsAll_calm, h, Writer.runs_eq_of_state h]
    rw [List.map_cons, offersAll, offersAll, List.map_append, List.map_append, hop,
      ih (state_apply_calm h op)]

theorem isFree_offersAll (h : v.outlet.IsFree) (history : List JavaOp) :
    ∀ offer ∈ offersAll v (history.map calm), offer.IsFree := by
  induction history generalizing v with
  | nil => exact fun _ hm => nomatch hm
  | cons op rest ih =>
    intro offer hm
    rcases List.mem_append.1 hm with hm | hm
    · rw [offers, moves_calm] at hm
      exact (Move.isFree_applyAll h _).2 offer hm
    · exact ih (isFree_apply h op) offer hm

end JavaOp

/-- Whatever the sink refuses, wherever failures are taken and room is changed, a history leaves the
states and performs the bodies that it would over a sink without limit, and sets out the same texts.
The sink gets what it takes of each text when it is offered, in order, and nothing of a text that is
offered while a failure is kept. Finishing is one more release. -/
theorem failing_sink_keeps_course (w : Writer) (history : List JavaOp) :
    let calm : Writer := { w with sink := .unlimited, failure := none }
    let offers := JavaOp.offersAll w history
    let calmOffers := JavaOp.offersAll calm (history.map JavaOp.calm)
    Step.courses (JavaOp.runAll w history) =
        Step.courses (JavaOp.runAll calm (history.map JavaOp.calm)) ∧
      offers.map Offer.text = calmOffers.map Offer.text ∧
      (∀ offer ∈ calmOffers, offer.IsFree) ∧
      (JavaOp.applyAll w history).sink.bytes = w.sink.bytes ++ Offer.takenAll offers ∧
      (JavaOp.applyAll w history).finish.1.bytes = w.sink.bytes ++
        Offer.takenAll (JavaOp.offersAll w (history ++ [.base (.act .release)])) := by
  intro calm offers calmOffers
  have hstate : w.state = calm.state := rfl
  have hfree : calm.outlet.IsFree := ⟨rfl, rfl⟩
  refine ⟨JavaOp.courses_runAll hstate history, JavaOp.texts_offersAll hstate history,
    JavaOp.isFree_offersAll hfree history, JavaOp.bytes_applyAll w history, ?_⟩
  rw [← JavaOp.bytes_applyAll, Writer.finish_eq, Outlet.bytes_close, ← Writer.outlet_release,
    JavaOp.applyAll, JavaOp.applyAll, List.foldl_append]
  rfl

/-- The fragment that is released behind the failure is lost, and the text behind it is not. -/
example :
    (JavaOp.applyAll (.start (.limited (some 1) false) .default)
      [.base (.act (.defer "c")), .base (.act (.writeAhead "ab")), .base (.act (.setRoom none)),
        .base (.act .release), .base (.act .takeFailure),
        .base (.act (.write "d"))]).sink.bytes = "ad".toByteArray := by
  decide +kernel

end SourceEmitter
