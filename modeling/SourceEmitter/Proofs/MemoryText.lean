import SourceEmitter.Proofs.Outlet
import SourceEmitter.Proofs.Utf8Decoding

/-!
# Text behind bytes in memory

A sink in memory may hold any bytes before a writer puts the first text behind them. The bytes and
the text stay apart: what is shown of the bytes, whether they are a text and where they stop being
one does not depend on what was written, and the text is shown as it was written.
-/

namespace SourceEmitter

open Text.Utf8

/-- What a history writes to a sink without limit depends on the state of the writer alone. -/
theorem JavaOp.exists_text_endless (s : WriterState) (history : List JavaOp)
    (h : history.all (JavaOp.all Action.keepsRoom) = true) :
    ∃ text last, ∀ w : Writer, w.state = s → w.sink.room = none → w.failure = none →
      (applyAll w history).outlet = ⟨w.sink.append text, none⟩ ∧
        (applyAll w history).state = last := by
  induction history generalizing s with
  | nil =>
    refine ⟨"", s, ?_⟩
    rintro w rfl - hok
    rw [Sink.append_empty, ← hok]
    exact ⟨rfl, rfl⟩
  | cons op rest ih =>
    obtain ⟨hop, hrest⟩ := Bool.and_eq_true_iff.1 h
    let moves := Op.movesAll s.runs op.ops
    obtain ⟨text, last, htext⟩ := ih (Move.nextAll s moves) hrest
    refine ⟨String.join (Move.textsAll s moves) ++ text, last, ?_⟩
    rintro w rfl hroom hok
    have happly : op.apply w = Move.applyAll w moves := by
      rw [← applyAll_ops, ← Op.applyAll_movesAll]
      rfl
    have houtlet := Move.outlet_applyAll_endless w moves hroom hok (op.keepsRoom_moves hop _)
    have hstate := Move.state_applyAll w moves
    rw [← happly] at houtlet hstate
    have hsink : (op.apply w).sink = w.sink.append (String.join (Move.textsAll w.state moves)) :=
      congrArg Outlet.sink houtlet
    obtain ⟨hrun, hlast⟩ := htext (op.apply w) hstate (by rw [hsink, Sink.room_append, hroom])
      (congrArg Outlet.failure houtlet)
    rw [hsink, Sink.append_append] at hrun
    exact ⟨hrun, hlast⟩

/-- Finishing decodes the bytes, the text behind them and what was pending as one. -/
theorem Writer.finishText_of_outlet {w : Writer} {bytes : ByteArray} {text : String}
    (h : w.outlet = ⟨(Sink.holding bytes).append text, none⟩) :
    w.finishText = (decode (bytes ++
      (text ++ String.join w.pending.fragments).toByteArray)).mapError OutputError.utf8 := by
  have hfinish : w.finish =
      ({ (Sink.holding bytes).append (text ++ String.join w.pending.fragments) with
          flushes := 1 }, .ok ()) := by
    rw [Writer.finish_eq, h, Outlet.putAll_endless rfl, Sink.append_append]
    exact Outlet.close_open rfl
  rw [finishText, hfinish]
  cases hdecode : decode (bytes ++ (text ++ String.join w.pending.fragments).toByteArray) <;>
    simp only [Sink.append, Sink.holding, hdecode] <;> rfl

/-- Bytes that a sink in memory holds and the text that a history puts behind them stay apart,
whatever both are. So far the sink shows the bytes alone, with replacement characters, and then the
text. With what is pending, which finishing writes, the whole is a text exactly when the bytes are
one, and it is that text with the other behind it; else finishing fails where the longest valid
start of the bytes ends, as decoding the bytes alone does. -/
theorem bytes_and_text_stay_apart (w : Writer) (bytes : ByteArray) (history : List JavaOp)
    (hsink : w.sink = .holding bytes) (hok : w.failure = none)
    (hhistory : history.all (JavaOp.all Action.keepsRoom) = true) :
    let after := JavaOp.applyAll w history
    ∃ text : String,
      (JavaOp.applyAll { w with sink := .unlimited } history).sink.bytes = text.toByteArray ∧
      after.textSoFar = decodeLenient bytes ++ text ∧
      (∀ out, after.finishText = .ok out ↔ ∃ start : String, start.toByteArray = bytes ∧
        out = start ++ (text ++ String.join after.pending.fragments)) ∧
      (¬bytes.IsValidUTF8 → ∃ alone behind, decode bytes = .error alone ∧
        after.finishText = .error (.utf8 behind) ∧ behind.validUpTo = alone.validUpTo ∧
        IsGreatest {n | n ≤ bytes.size ∧ (bytes.extract 0 n).IsValidUTF8} alone.validUpTo) := by
  intro after
  obtain ⟨text, last, htext⟩ := JavaOp.exists_text_endless w.state history hhistory
  obtain ⟨houtlet, -⟩ := htext w rfl (by rw [hsink]; rfl) hok
  obtain ⟨hempty, -⟩ := htext { w with sink := .unlimited } rfl rfl hok
  rw [hsink] at houtlet
  have hfinish := Writer.finishText_of_outlet houtlet
  refine ⟨text, ?_, ?_, ?_, ?_⟩
  · exact (congrArg (·.sink.bytes) hempty).trans (ByteArray.empty_append)
  · have hbytes : after.sink.bytes = bytes ++ text.toByteArray := congrArg (·.sink.bytes) houtlet
    rw [Writer.textSoFar, hbytes, decodeLenient_append]
  · intro out
    rw [← decode_append_eq_ok, hfinish]
    cases decode (bytes ++ _) <;> simp [Except.mapError]
  · intro hbytes
    obtain ⟨alone, behind, halone, hbehind, hplace⟩ :=
      decode_append_eq_error hbytes (text ++ String.join after.pending.fragments)
    refine ⟨alone, behind, halone, ?_, hplace⟩
    rw [hfinish, hbehind]
    rfl

/-- The bytes end inside a character of two bytes, whose second byte is the second byte of the text
behind them, and a fragment is pending. -/
theorem bytes_and_text_stay_apart_truncated :
    let bytes : ByteArray := ⟨#[0x61, 0xC3]⟩
    let w := Writer.start (.holding bytes) Style.default
    let history : List JavaOp := [.base (.act (.write "é")), .base (.act (.defer "z"))]
    let after := JavaOp.applyAll w history
    w.sink = .holding bytes ∧ w.failure = none ∧
      history.all (JavaOp.all Action.keepsRoom) = true ∧ ¬bytes.IsValidUTF8 ∧
      after.textSoFar = "a\uFFFDé" ∧
      ∃ behind, after.finishText = .error (.utf8 behind) ∧ behind.validUpTo = 1 := by
  intro bytes w history after
  have hdecode : decode bytes = .error ⟨1, none⟩ := rfl
  have hbytes : ¬bytes.IsValidUTF8 := by
    intro hvalid
    cases hdecode.symm.trans (decode_text (.ofByteArray bytes hvalid))
  obtain ⟨text, htext, hshown, -, hfault⟩ :=
    bytes_and_text_stay_apart w bytes history rfl rfl rfl
  obtain rfl : text = "é" := (String.toByteArray_inj.1 htext).symm
  obtain ⟨alone, behind, halone, hfinish, hplace, -⟩ := hfault hbytes
  obtain rfl := Except.error.inj (hdecode.symm.trans halone)
  exact ⟨rfl, rfl, rfl, hbytes, hshown, behind, hfinish, hplace⟩

end SourceEmitter
