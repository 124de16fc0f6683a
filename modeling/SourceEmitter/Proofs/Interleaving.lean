import Mathlib.Data.List.Induction
import SourceEmitter.Proofs.Arrangement
import SourceEmitter.Proofs.Outlet

/-!
# Pending fragments are neither lost nor doubled

The history of a run is read off its moves. An arrangement follows the queue of the writer entry by
entry, so what a finished run has added to a sink without limit is the text of a faithful
interleaving: every direct text and every fragment once, each kind in order, and every fragment
between the direct texts before its queueing and those behind the next release of the queue.
-/

namespace SourceEmitter

/-- What a move does with text. -/
def Move.events (s : WriterState) : Move → History
  | put text => [.direct text]
  | putMargin => [.direct s.margin]
  | putLineEnd => [.direct s.style.lineEnd]
  | separate => [.direct s.separator.text]
  | writeOnce => [.direct s.once.text]
  | defer text => [.queued text]
  | deferLine text => [.queued (text ++ s.style.lineEnd)]
  | release => [.released]
  | releaseInPlace => [.releasedFirst true]
  | releaseFirst => [.releasedFirst false]
  | setOnce _ | startList | indentMore | indentLess | record _ | clearFailure | setRoom _ => []

def Move.history (s : WriterState) : List Move → History
  | [] => []
  | move :: rest => move.events s ++ Move.history (move.next s) rest

/-- The history of operations that are followed by finishing: what is pending at the start counts
as queued first, and finishing releases the queue. -/
def Writer.history (w : Writer) (ops : List Op) : History :=
  w.pending.fragments.map .queued ++ Move.history w.state (Op.movesAll w.runs ops) ++ [.released]

namespace Arrangement

/-- The text of an entry of the queue; a blanked one has none. -/
def entryText (h : History) : Option Nat → String
  | none => ""
  | some i => h.text i

def writtenText (h : History) (a : Arrangement) : String := String.join (a.written.map h.text)

/-- An arrangement whose queue holds the pending fragments entry by entry. -/
structure Mirrors (h : History) (a : Arrangement) (pending : FragmentQueue) : Prop where
  fits : a.Fits h
  fragments : pending.fragments = a.queue.map (entryText h)

variable {h : History} {a : Arrangement} {pending : FragmentQueue}

theorem join_waiting (h : History) (a : Arrangement) :
    String.join (a.waiting.map h.text) = String.join (a.queue.map (entryText h)) := by
  unfold waiting
  induction a.queue with
  | nil => rfl
  | cons entry rest ih => cases entry <;> simp [entryText, String.join_cons, ih]

theorem writtenText_snoc (hf : a.Fits h) (e : Event) :
    writtenText (h ++ [e]) a = writtenText h a := by
  unfold writtenText
  congr 1
  refine List.map_congr_left fun i hi => ?_
  exact History.text_snoc e (hf.lt_length (List.mem_append_left _ hi))

theorem entryText_snoc (hf : a.Fits h) (e : Event) :
    a.queue.map (entryText (h ++ [e])) = a.queue.map (entryText h) := by
  refine List.map_congr_left fun entry he => ?_
  cases entry with
  | none => rfl
  | some i =>
    refine History.text_snoc e (hf.lt_length (List.mem_append_right _ ?_))
    exact List.reduceOption_mem_iff.2 he

theorem text_snoc_length (h : History) (e : Event) :
    History.text (h ++ [e]) h.length =
      match e with
      | .direct text | .queued text => text
      | _ => "" := by
  rw [History.text, History.getElem?_snoc_length]
  cases e <;> rfl

theorem Mirrors.join_fragments (hm : Mirrors h a pending) :
    String.join pending.fragments = String.join (a.waiting.map h.text) := by
  rw [join_waiting, hm.fragments]

theorem Mirrors.direct (hm : Mirrors h a pending) (text : String) :
    Mirrors (h ++ [.direct text]) (a.step h.length (.direct text)) pending ∧
      writtenText (h ++ [.direct text]) (a.step h.length (.direct text)) =
        writtenText h a ++ text := by
  refine ⟨⟨hm.fits.step _, ?_⟩, ?_⟩
  · exact hm.fragments.trans (entryText_snoc hm.fits _).symm
  · have hold := writtenText_snoc hm.fits (.direct text)
    rw [writtenText] at hold
    rw [writtenText, step, List.map_append, String.join_append, hold, List.map_singleton,
      text_snoc_length]
    simp [String.join_cons]

theorem Mirrors.queued (hm : Mirrors h a pending) (text : String) :
    Mirrors (h ++ [.queued text]) (a.step h.length (.queued text)) (pending.push text) ∧
      writtenText (h ++ [.queued text]) (a.step h.length (.queued text)) = writtenText h a := by
  refine ⟨⟨hm.fits.step _, ?_⟩, ?_⟩
  · rw [FragmentQueue.fragments_push, hm.fragments, step, List.map_append,
      entryText_snoc hm.fits, List.map_singleton, entryText, text_snoc_length]
  · exact writtenText_snoc hm.fits (.queued text)

theorem Mirrors.released (hm : Mirrors h a pending) :
    Mirrors (h ++ [.released]) (a.step h.length .released) .empty ∧
      writtenText (h ++ [.released]) (a.step h.length .released) =
        writtenText h a ++ String.join pending.fragments := by
  refine ⟨⟨hm.fits.step _, rfl⟩, ?_⟩
  have horder : a.order.map (History.text (h ++ [.released])) = a.order.map h.text :=
    List.map_congr_left fun i hi => History.text_snoc _ (hm.fits.lt_length hi)
  rw [writtenText, step, horder, order, List.map_append, String.join_append, hm.join_fragments]
  rfl

/-- Releasing the first entry writes what it still has; a blanked entry has nothing left. -/
theorem Mirrors.releasedFirst (hm : Mirrors h a pending) (keepsEntry : Bool) :
    let handed := if keepsEntry then pending.blankFirst else pending.removeFirst
    Mirrors (h ++ [.releasedFirst keepsEntry]) (a.step h.length (.releasedFirst keepsEntry))
        handed.2 ∧
      writtenText (h ++ [.releasedFirst keepsEntry])
          (a.step h.length (.releasedFirst keepsEntry)) =
        writtenText h a ++ String.join handed.1.toList := by
  intro handed
  have hfits := hm.fits.step (.releasedFirst keepsEntry)
  have hfragments := hm.fragments.trans (entryText_snoc hm.fits (.releasedFirst keepsEntry)).symm
  rw [← writtenText_snoc hm.fits (.releasedFirst keepsEntry)]
  obtain ⟨written, queue⟩ := a
  obtain ⟨fragments⟩ := pending
  cases queue with
  | nil =>
    obtain rfl : fragments = [] := hfragments
    refine ⟨⟨hfits, ?_⟩, ?_⟩
    · cases keepsEntry <;> rfl
    · cases keepsEntry <;> simp [handed, step, FragmentQueue.blankFirst,
        FragmentQueue.removeFirst]
  | cons entry rest =>
    obtain rfl : fragments = _ := hfragments
    refine ⟨⟨hfits, ?_⟩, ?_⟩
    · cases keepsEntry <;> rfl
    · cases keepsEntry <;> cases entry <;> simp [handed, step, writtenText, entryText,
        FragmentQueue.blankFirst, FragmentQueue.removeFirst, String.join_append, String.join_cons]

theorem Mirrors.order_eq_written (hm : Mirrors h a .empty) : a.order = a.written := by
  have hqueue : a.queue = [] := List.map_eq_nil_iff.1 hm.fragments.symm
  rw [order, waiting, hqueue, List.reduceOption_nil, List.append_nil]

/-- Every move keeps the arrangement, and what it sets out is what gets written. -/
theorem Mirrors.move {s : WriterState} (hm : Mirrors h a s.pending) (move : Move) :
    ∃ a', Mirrors (h ++ move.events s) a' (move.next s).pending ∧
      writtenText (h ++ move.events s) a' =
        writtenText h a ++ String.join (move.texts s) := by
  have hdirect : ∀ text, ∃ a', Mirrors (h ++ [.direct text]) a' s.pending ∧
      writtenText (h ++ [.direct text]) a' = writtenText h a ++ String.join [text] := by
    intro text
    rw [String.join_cons, String.join_nil, String.append_empty]
    exact ⟨_, hm.direct text⟩
  have hqueued : ∀ text, ∃ a', Mirrors (h ++ [.queued text]) a' (s.pending.push text) ∧
      writtenText (h ++ [.queued text]) a' = writtenText h a ++ String.join [] := by
    intro text
    rw [String.join_nil, String.append_empty]
    exact ⟨_, hm.queued text⟩
  have hnone : ∃ a', Mirrors (h ++ []) a' s.pending ∧
      writtenText (h ++ []) a' = writtenText h a ++ String.join [] := by
    rw [List.append_nil, String.join_nil, String.append_empty]
    exact ⟨a, hm, rfl⟩
  cases move with
  | put text => exact hdirect text
  | putMargin => exact hdirect s.margin
  | putLineEnd => exact hdirect s.style.lineEnd
  | separate => exact hdirect s.separator.text
  | writeOnce => exact hdirect s.once.text
  | defer text => exact hqueued text
  | deferLine text => exact hqueued (text ++ s.style.lineEnd)
  | release => exact ⟨_, hm.released⟩
  | releaseInPlace => exact ⟨_, hm.releasedFirst true⟩
  | releaseFirst => exact ⟨_, hm.releasedFirst false⟩
  | setOnce | startList | indentMore | indentLess | record | clearFailure | setRoom => exact hnone

theorem Mirrors.moves {s : WriterState} (hm : Mirrors h a s.pending) (moves : List Move) :
    ∃ a', Mirrors (h ++ Move.history s moves) a' (Move.nextAll s moves).pending ∧
      writtenText (h ++ Move.history s moves) a' =
        writtenText h a ++ String.join (Move.textsAll s moves) := by
  induction moves generalizing h a s with
  | nil =>
    rw [Move.history, List.append_nil, Move.textsAll, String.join_nil, String.append_empty]
    exact ⟨a, hm, rfl⟩
  | cons move rest ih =>
    obtain ⟨b, hb, htext⟩ := hm.move move
    obtain ⟨c, hc, htexts⟩ := ih hb
    rw [Move.history, ← List.append_assoc, Move.textsAll, String.join_append,
      ← String.append_assoc, ← htext]
    exact ⟨c, hc, htexts⟩

/-- The fragments that wait at the start count as queued first. -/
theorem mirrors_start (fragments : List String) :
    ∃ a, Mirrors (fragments.map .queued) a ⟨fragments⟩ ∧
      writtenText (fragments.map .queued) a = "" := by
  induction fragments using List.reverseRecOn with
  | nil => exact ⟨empty, ⟨fits_empty, rfl⟩, rfl⟩
  | append_singleton fragments last ih =>
    obtain ⟨a, hm, htext⟩ := ih
    obtain ⟨hm', htext'⟩ := hm.queued last
    rw [List.map_append, List.map_singleton]
    exact ⟨_, hm', htext'.trans htext⟩

end Arrangement

/-- What operations and finishing add to a sink that never fails is an interleaving of the direct
texts and the fragments that are pending or queued. -/
theorem finish_interleaves (w : Writer) (ops : List Op) (hsink : w.sink.NeverFails)
    (hok : w.failure = none) (hops : Op.allOf Action.keepsRoom ops = true) :
    ∃ order, (w.history ops).Arranges order ∧
      (Op.applyAll w ops).finish =
        ({ w.sink with
            bytes := w.sink.bytes ++
              (String.join (order.map (w.history ops).text)).toByteArray
            flushes := w.sink.flushes + 1 }, .ok ()) := by
  let moves := Op.movesAll w.runs ops
  have hmoves : ∀ move ∈ moves, move.keepsRoom = true :=
    Op.forall_movesAll Action.keepsRoom_moves (fun _ => rfl) w.runs ops hops
  obtain ⟨a, hstart, htext⟩ := Arrangement.mirrors_start w.pending.fragments
  obtain ⟨b, hrun, htexts⟩ := hstart.moves (s := w.state) moves
  obtain ⟨c, hend, hall⟩ : ∃ c, Arrangement.Mirrors (w.history ops) c .empty ∧
      Arrangement.writtenText (w.history ops) c = _ := ⟨_, hrun.released⟩
  have hpending : (Op.applyAll w ops).pending = (Move.nextAll w.state moves).pending := by
    rw [← Op.applyAll_movesAll, ← Move.state_applyAll]
    rfl
  have houtlet := Move.outlet_applyAll_endless w moves hsink.room hok hmoves
  rw [Op.applyAll_movesAll] at houtlet
  have horder : String.join (c.order.map (w.history ops).text) =
      String.join (Move.textsAll w.state moves) ++
        String.join (Move.nextAll w.state moves).pending.fragments := by
    rw [hend.order_eq_written]
    refine hall.trans ?_
    rw [htexts, htext, String.empty_append]
  refine ⟨c.order, hend.fits.arranges, ?_⟩
  rw [Writer.finish_eq, houtlet, hpending,
    Outlet.putAll_endless ((Sink.room_append _ _).trans hsink.room), Sink.append_append, ← horder]
  exact Outlet.close_open hsink.flush

/-- The fragment is released in place, then its blanked entry is removed, and one that is queued in
a callback is left to finishing. -/
theorem finish_interleaves_blanked :
    let w : Writer := .start .unlimited .default
    let ops : List Op :=
      [.act (.write "f("), .act (.defer ")"), .act .releaseInPlace, .act .releaseFirst,
        .ifNewRun Writer.exceptionCaller [.act (.deferLine ";"), .act (.writeAhead " throws E")]]
    w.sink.NeverFails ∧ w.failure = none ∧ Op.allOf Action.keepsRoom ops = true ∧
      ∃ order, (w.history ops).Arranges order ∧
        (Op.applyAll w ops).finish.1.bytes =
          w.sink.bytes ++ (String.join (order.map (w.history ops).text)).toByteArray := by
  intro w ops
  obtain ⟨order, horder, hfinish⟩ := finish_interleaves w ops ⟨rfl, rfl⟩ rfl rfl
  exact ⟨⟨rfl, rfl⟩, rfl, rfl, order, horder, congrArg (·.1.bytes) hfinish⟩

end SourceEmitter
