import SourceEmitter.Proofs.JavaCalls

/-!
# The texts of a run

A writer consists of a state and of an outlet, which is its sink together with the failure that
bars it. The state of a run never depends on the outlet, and the outlet sees nothing of a run but
the texts that the state sets out, in order. Questions about what reaches a sink are thereby
questions about a list of texts.
-/

namespace SourceEmitter

/-- What a writer keeps besides its sink and its failure. -/
structure WriterState where
  style : Style
  margin : String
  separator : SeparatorSlot
  once : OnceSlot
  pending : FragmentQueue
  runs : RunTracker
deriving DecidableEq, Repr

/-- A sink and the failure that bars it, if one does. -/
structure Outlet where
  sink : Sink
  failure : Option SinkFault

namespace Writer

def state (w : Writer) : WriterState :=
  ⟨w.style, w.margin, w.separator, w.once, w.pending, w.runs⟩

def outlet (w : Writer) : Outlet := ⟨w.sink, w.failure⟩

end Writer

namespace Outlet

def put (outlet : Outlet) (text : String) : Outlet :=
  if outlet.failure.isSome || text.isEmpty then outlet
  else ⟨(outlet.sink.accept text.toByteArray).1, (outlet.sink.accept text.toByteArray).2⟩

def putAll (outlet : Outlet) (texts : List String) : Outlet := texts.foldl put outlet

def close (outlet : Outlet) : Sink × Except OutputError Unit :=
  match outlet.failure with
  | some fault => (outlet.sink, .error (.io (.sink fault)))
  | none =>
    match outlet.sink.flush with
    | (sink, none) => (sink, .ok ())
    | (sink, some fault) => (sink, .error (.io (.sink fault)))

@[simp] theorem putAll_nil (outlet : Outlet) : outlet.putAll [] = outlet := rfl
@[simp] theorem putAll_cons (outlet : Outlet) (text : String) (rest : List String) :
    outlet.putAll (text :: rest) = (outlet.put text).putAll rest := rfl
@[simp] theorem putAll_append (outlet : Outlet) (first second : List String) :
    outlet.putAll (first ++ second) = (outlet.putAll first).putAll second :=
  List.foldl_append

end Outlet

namespace Move

def next (s : WriterState) : Move → WriterState
  | separate => { s with separator := s.separator.advance }
  | writeOnce => { s with once := s.once.take }
  | setOnce text => { s with once := ⟨text⟩ }
  | startList => { s with separator := s.separator.reset }
  | defer text => { s with pending := s.pending.push text }
  | deferLine text => { s with pending := s.pending.push (text ++ s.style.lineEnd) }
  | release => { s with pending := .empty }
  | releaseInPlace => { s with pending := s.pending.blankFirst.2 }
  | releaseFirst => { s with pending := s.pending.removeFirst.2 }
  | indentMore => { s with margin := s.margin ++ s.style.indentation }
  | indentLess =>
    { s with margin := String.ofList (Writer.keepBytes
        (s.margin.utf8ByteSize - s.style.indentation.utf8ByteSize) s.margin.toList) }
  | record caller => { s with runs := s.runs.record caller }
  | put _ | putMargin | putLineEnd | clearFailure | setRoom _ => s

/-- The texts that a move sets out for the sink. -/
def texts (s : WriterState) : Move → List String
  | put text => [text]
  | putMargin => [s.margin]
  | putLineEnd => [s.style.lineEnd]
  | separate => [s.separator.text]
  | writeOnce => [s.once.text]
  | release => s.pending.fragments
  | releaseInPlace => s.pending.blankFirst.1.toList
  | releaseFirst => s.pending.removeFirst.1.toList
  | setOnce _ | startList | defer _ | deferLine _ | indentMore | indentLess | record _
  | clearFailure | setRoom _ => []

/-- Whether a move leaves the outlet to the texts it sets out. -/
def leavesOutlet : Move → Bool
  | clearFailure | setRoom _ => false
  | _ => true

def nextAll (s : WriterState) (moves : List Move) : WriterState := moves.foldl next s

def textsAll (s : WriterState) : List Move → List String
  | [] => []
  | move :: rest => move.texts s ++ textsAll (move.next s) rest

@[simp] theorem nextAll_cons (s : WriterState) (move : Move) (rest : List Move) :
    nextAll s (move :: rest) = nextAll (move.next s) rest := rfl

end Move

namespace Writer

@[simp] theorem state_put (w : Writer) (text : String) : (w.put text).state = w.state := by
  unfold put; split <;> rfl

@[simp] theorem outlet_put (w : Writer) (text : String) :
    (w.put text).outlet = w.outlet.put text := by
  unfold put Outlet.put
  split
  next h => exact (if_pos h).symm
  next h => exact (if_neg h).symm

@[simp] theorem state_putAll (w : Writer) (texts : List String) :
    (w.putAll texts).state = w.state := by
  induction texts generalizing w with
  | nil => rfl
  | cons text rest ih => exact (ih _).trans (state_put w text)

@[simp] theorem outlet_putAll (w : Writer) (texts : List String) :
    (w.putAll texts).outlet = w.outlet.putAll texts := by
  induction texts generalizing w with
  | nil => rfl
  | cons text rest ih =>
    rw [Outlet.putAll_cons, ← outlet_put]
    exact ih _

theorem outlet_release (w : Writer) : w.release.outlet = w.outlet.putAll w.pending.fragments :=
  outlet_putAll _ _

/-- Finishing closes the outlet behind the pending fragments. -/
theorem finish_eq (w : Writer) :
    w.finish = (w.outlet.putAll w.pending.fragments).close := by
  rw [← outlet_release]
  rfl

end Writer

namespace Move

/-- The state behind a move depends on the state before it alone. -/
theorem state_apply (w : Writer) (move : Move) : (move.apply w).state = move.next w.state := by
  cases move with
  | put text => exact w.state_put text
  | putMargin => exact w.state_put _
  | putLineEnd => exact w.state_put _
  | separate => exact Writer.state_put _ _
  | writeOnce => exact Writer.state_put _ _
  | release => exact Writer.state_putAll _ _
  | releaseInPlace => exact Writer.state_putAll _ _
  | releaseFirst => exact Writer.state_putAll _ _
  | setOnce | startList | defer | deferLine | indentMore | indentLess | record | clearFailure
  | setRoom => rfl

/-- The outlet takes the texts that the state sets out. -/
theorem outlet_apply (w : Writer) (move : Move) (h : move.leavesOutlet = true) :
    (move.apply w).outlet = w.outlet.putAll (move.texts w.state) := by
  cases move with
  | put text => exact w.outlet_put text
  | putMargin => exact w.outlet_put _
  | putLineEnd => exact w.outlet_put _
  | separate => exact Writer.outlet_put _ _
  | writeOnce => exact Writer.outlet_put _ _
  | release => exact Writer.outlet_putAll _ _
  | releaseInPlace => exact Writer.outlet_putAll _ _
  | releaseFirst => exact Writer.outlet_putAll _ _
  | setOnce | startList | defer | deferLine | indentMore | indentLess | record => rfl
  | clearFailure | setRoom => cases h

theorem state_applyAll (w : Writer) (moves : List Move) :
    (applyAll w moves).state = nextAll w.state moves := by
  induction moves generalizing w with
  | nil => rfl
  | cons move rest ih => rw [applyAll_cons, ih, state_apply, nextAll_cons]

theorem outlet_applyAll (w : Writer) (moves : List Move)
    (h : ∀ move ∈ moves, move.leavesOutlet = true) :
    (applyAll w moves).outlet = w.outlet.putAll (textsAll w.state moves) := by
  induction moves generalizing w with
  | nil => rfl
  | cons move rest ih =>
    have hmove := h move List.mem_cons_self
    have hrest := fun m hm => h m (List.mem_cons_of_mem move hm)
    rw [applyAll_cons, ih _ hrest, outlet_apply w move hmove, state_apply, textsAll,
      Outlet.putAll_append]

end Move

/-- Whether an action neither takes the failure nor changes the room of the sink. -/
def Action.leavesOutlet : Action → Bool
  | takeFailure | setRoom _ => false
  | _ => true

mutual

/-- Whether all actions of an operation, at any depth, have a property. -/
def Op.all (p : Action → Bool) : Op → Bool
  | .act action => p action
  | .ifNewRun _ body => Op.allOf p body
  | .ifSameRun _ body => Op.allOf p body

def Op.allOf (p : Action → Bool) : List Op → Bool
  | [] => true
  | op :: rest => Op.all p op && Op.allOf p rest

end

/-- Whether all actions of an operation on Java source have a property. -/
def JavaOp.all (p : Action → Bool) : JavaOp → Bool
  | base op => op.all p
  | java _ => true

theorem Op.allOf_acts (p : Action → Bool) (actions : List Action) :
    Op.allOf p (Op.acts actions) = actions.all p := by
  induction actions with
  | nil => rfl
  | cons action rest ih =>
    rw [List.all_cons, ← ih]
    rfl

mutual

/-- What holds of the moves of every action with a property holds of the moves of every operation
whose actions have it, at any depth. -/
theorem Op.forall_moves {p : Action → Bool} {q : Move → Prop}
    (hact : ∀ action : Action, p action = true → ∀ move ∈ action.moves, q move)
    (hrecord : ∀ caller, q (.record caller)) (tracker : RunTracker) :
    (op : Op) → op.all p = true → ∀ move ∈ op.moves tracker, q move
  | .act action, h => hact action h
  | .ifNewRun caller body, h => by
    have hbody := Op.forall_movesAll hact hrecord tracker body h
    intro move hm
    rcases List.mem_append.1 hm with hm | hm
    · split at hm
      · exact hbody move hm
      · cases hm
    · exact List.mem_singleton.1 hm ▸ hrecord caller
  | .ifSameRun caller body, h => by
    have hbody := Op.forall_movesAll hact hrecord tracker body h
    intro move hm
    rcases List.mem_append.1 hm with hm | hm
    · split at hm
      · cases hm
      · exact hbody move hm
    · exact List.mem_singleton.1 hm ▸ hrecord caller

theorem Op.forall_movesAll {p : Action → Bool} {q : Move → Prop}
    (hact : ∀ action : Action, p action = true → ∀ move ∈ action.moves, q move)
    (hrecord : ∀ caller, q (.record caller)) (tracker : RunTracker) :
    (ops : List Op) → Op.allOf p ops = true → ∀ move ∈ Op.movesAll tracker ops, q move
  | [], _ => fun _ hm => nomatch hm
  | op :: rest, h => by
    obtain ⟨hop, hrest⟩ := Bool.and_eq_true_iff.1 h
    intro move hm
    rcases List.mem_append.1 hm with hm | hm
    · exact Op.forall_moves hact hrecord tracker op hop move hm
    · exact Op.forall_movesAll hact hrecord _ rest hrest move hm

end

theorem Action.leavesOutlet_moves (action : Action) (h : action.leavesOutlet = true) :
    ∀ move ∈ action.moves, move.leavesOutlet = true := by
  have hline : ∀ text, ∀ move ∈ Move.line text, move.leavesOutlet = true := by
    intro text
    simp [Move.line, Move.leavesOutlet]
  have hwrite : ∀ text, ∀ move ∈ [Move.release, .put text, .putLineEnd],
      move.leavesOutlet = true := by
    intro text
    simp [Move.leavesOutlet]
  cases action with
  | takeFailure | setRoom => cases h
  | fullLine text => exact hline text
  | blankLine => exact hline ""
  | closeBlock => exact hline "\x7d"
  | writeLinesWith vars texts =>
    intro move hm
    obtain ⟨text, _, hm⟩ := List.mem_flatMap.1 hm
    exact hwrite _ move hm
  | fullLinesWith vars texts =>
    intro move hm
    obtain ⟨text, _, hm⟩ := List.mem_flatMap.1 hm
    exact hline _ move hm
  | _ => simp [moves, Move.leavesOutlet]

theorem Op.leavesOutlet_movesAll (tracker : RunTracker) (ops : List Op)
    (h : Op.allOf Action.leavesOutlet ops = true) :
    ∀ move ∈ Op.movesAll tracker ops, move.leavesOutlet = true :=
  Op.forall_movesAll Action.leavesOutlet_moves (fun _ => rfl) tracker ops h

theorem Action.all_leavesOutlet {actions : List Action} (h : actions.all writes = true) :
    actions.all leavesOutlet = true := by
  refine List.all_eq_true.2 fun action hmem => ?_
  have hwrites := List.all_eq_true.1 h action hmem
  cases action with
  | takeFailure | setRoom => cases hwrites
  | _ => rfl

/-- No Java call takes the failure or changes the room of the sink. -/
theorem JavaCall.leavesOutlet_ops (call : JavaCall) :
    Op.allOf Action.leavesOutlet call.ops = true := by
  by_cases hwrites : call.writes = true
  · obtain ⟨actions, hops, hactions⟩ := ops_of_writes hwrites
    rw [hops, Op.allOf_acts]
    exact Action.all_leavesOutlet hactions
  · cases call with
    | openClass | openMethod | openConstructor =>
      simp only [ops, Op.allOf_acts, Action.openClass, Action.openMethod, List.all_append,
        Action.all_leavesOutlet (Action.writes_word _)]
      rfl
    | addInterface | addException | openIf | openIfHeader | openWhile | openWhileHeader | openFor
    | openForEach | closeClass | closeMethod | closeIf | closeWhile | closeFor => rfl
    | _ => exact absurd rfl hwrites

theorem JavaOp.leavesOutlet_ops (op : JavaOp) (h : op.all Action.leavesOutlet = true) :
    Op.allOf Action.leavesOutlet op.ops = true := by
  cases op with
  | base op => exact (Bool.and_true _).trans h
  | java call => exact call.leavesOutlet_ops

/-- A sink that takes every text and does not refuse to be flushed. -/
structure Sink.NeverFails (sink : Sink) : Prop where
  room : sink.room = none
  flush : sink.refusesFlush = false

/-- The sink with a text behind what it holds. -/
def Sink.append (sink : Sink) (text : String) : Sink :=
  { sink with bytes := sink.bytes ++ text.toByteArray }

@[simp] theorem Sink.room_append (sink : Sink) (text : String) :
    (sink.append text).room = sink.room := rfl

@[simp] theorem Sink.append_empty (sink : Sink) : sink.append "" = sink := by
  simp [append]

@[simp] theorem Sink.append_append (sink : Sink) (first second : String) :
    (sink.append first).append second = sink.append (first ++ second) := by
  simp [append, String.toByteArray_append, ByteArray.append_assoc]

theorem Outlet.put_endless {sink : Sink} (h : sink.room = none) (text : String) :
    put ⟨sink, none⟩ text = ⟨sink.append text, none⟩ := by
  unfold put
  split
  next hempty =>
    have htext : text = "" := by simpa using hempty
    rw [htext, Sink.append_empty]
  next => simp [Sink.accept, h, Sink.append]

theorem Outlet.putAll_endless {sink : Sink} (h : sink.room = none) (texts : List String) :
    putAll ⟨sink, none⟩ texts = ⟨sink.append (String.join texts), none⟩ := by
  induction texts generalizing sink with
  | nil => simp [String.join]
  | cons text rest ih =>
    rw [putAll_cons, put_endless h, ih (by rw [Sink.room_append, h]), Sink.append_append,
      String.join_cons]

theorem Outlet.close_open {sink : Sink} (h : sink.refusesFlush = false) :
    close ⟨sink, none⟩ = ({ sink with flushes := sink.flushes + 1 }, .ok ()) := by
  simp [close, Sink.flush, h]

def Move.keepsRoom : Move → Bool
  | setRoom _ => false
  | _ => true

/-- Whether an action leaves the room of the sink as it is, which every call of a writer does. -/
def Action.keepsRoom : Action → Bool
  | setRoom _ => false
  | _ => true

theorem Move.keepsRoom_of_leavesOutlet {move : Move} (h : move.leavesOutlet = true) :
    move.keepsRoom = true := by
  cases move with
  | setRoom => cases h
  | _ => rfl

theorem Action.keepsRoom_moves (action : Action) (h : action.keepsRoom = true) :
    ∀ move ∈ action.moves, move.keepsRoom = true := by
  by_cases hleaves : action.leavesOutlet = true
  · exact fun move hm => Move.keepsRoom_of_leavesOutlet (action.leavesOutlet_moves hleaves move hm)
  · cases action with
    | setRoom => cases h
    | takeFailure => simp [moves, Move.keepsRoom]
    | _ => exact absurd rfl hleaves

theorem JavaOp.keepsRoom_moves (op : JavaOp) (h : op.all Action.keepsRoom = true)
    (tracker : RunTracker) : ∀ move ∈ Op.movesAll tracker op.ops, move.keepsRoom = true := by
  cases op with
  | base op =>
    exact Op.forall_movesAll Action.keepsRoom_moves (fun _ => rfl) tracker [op]
      ((Bool.and_true _).trans h)
  | java call =>
    exact fun move hm => Move.keepsRoom_of_leavesOutlet
      (Op.leavesOutlet_movesAll tracker call.ops call.leavesOutlet_ops move hm)

/-- A sink without limit takes every text that a run sets out; there is no failure to take. -/
theorem Move.outlet_applyAll_endless (w : Writer) (moves : List Move) (hroom : w.sink.room = none)
    (hok : w.failure = none) (hmoves : ∀ move ∈ moves, move.keepsRoom = true) :
    (applyAll w moves).outlet = ⟨w.sink.append (String.join (textsAll w.state moves)), none⟩ := by
  induction moves generalizing w with
  | nil => simp [textsAll, String.join, Writer.outlet, hok]
  | cons move rest ih =>
    have hmove := hmoves move List.mem_cons_self
    have hw : w.outlet = ⟨w.sink, none⟩ := by rw [Writer.outlet, hok]
    have hstep : (move.apply w).outlet =
        ⟨w.sink.append (String.join (move.texts w.state)), none⟩ := by
      cases move with
      | setRoom => cases hmove
      | clearFailure => simp [apply, texts, String.join, Writer.clearFailure, Writer.outlet]
      | _ => rw [outlet_apply w _ rfl, hw, Outlet.putAll_endless hroom]
    have hsink : (move.apply w).sink = w.sink.append (String.join (move.texts w.state)) :=
      congrArg Outlet.sink hstep
    rw [applyAll_cons, ih _ (by rw [hsink, Sink.room_append, hroom]) (congrArg Outlet.failure hstep)
      (fun m hm => hmoves m (List.mem_cons_of_mem move hm)), hsink, state_apply,
      Sink.append_append, textsAll, String.join_append]

end SourceEmitter
