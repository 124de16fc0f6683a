import SourceEmitter.Proofs.UnitHistory

/-!
# Outlines

What a history writes is laid down before its style is known: literal texts, and places for the unit
of indentation, the separator and the line end. An outline is the state of a writer with these
places left open. The writer under any style is what the outline becomes when they are filled, so no
length of a configured text can change which texts are written.
-/

namespace SourceEmitter

/-- A text that stands for itself, or the place of one of the three texts of a style. -/
inductive Token where
  | literal (text : String)
  | indentation
  | separator
  | lineEnd
deriving DecidableEq, Repr

namespace Token

def fill (style : Style) : Token → String
  | literal text => text
  | indentation => style.indentation
  | separator => style.separator
  | lineEnd => style.lineEnd

/-- The text of tokens in a row, with the texts of a style in their places. -/
def fillAll (style : Style) (tokens : List Token) : String := String.join (tokens.map (fill style))

@[simp] theorem fillAll_nil (style : Style) : fillAll style [] = "" := rfl

@[simp] theorem fillAll_singleton (style : Style) (token : Token) :
    fillAll style [token] = token.fill style := by
  simp [fillAll]

@[simp] theorem fillAll_append (style : Style) (first second : List Token) :
    fillAll style (first ++ second) = fillAll style first ++ fillAll style second := by
  simp [fillAll, String.join_append]

theorem fillAll_flatten (style : Style) (fragments : List (List Token)) :
    fillAll style fragments.flatten = String.join (fragments.map (fillAll style)) := by
  induction fragments with
  | nil => rfl
  | cons first rest ih =>
    rw [List.flatten_cons, fillAll_append, ih, List.map_cons, String.join_cons]

/-- The margin of a level. -/
def lead (level : Nat) : List Token := List.replicate level .indentation

theorem fillAll_lead (style : Style) (level : Nat) :
    fillAll style (lead level) = style.lead level := by
  rw [fillAll, lead, List.map_replicate, fill, Style.lead]

end Token

/-- A writer over a sink without limit, as far as it does not depend on the style. -/
structure Outline where
  written : List Token
  level : Nat
  used : Bool
  once : OnceSlot
  pending : List (List Token)
  runs : RunTracker

namespace Outline

def start : Outline := ⟨[], 0, false, .spent, [], .fresh⟩

/-- The writer that an outline becomes under a style. -/
def writer (base : Sink) (style : Style) (outline : Outline) : Writer :=
  .standing base style outline.once (Token.fillAll style outline.written) outline.level outline.used
    (outline.pending.map (Token.fillAll style)) outline.runs

def put (outline : Outline) (tokens : List Token) : Outline :=
  { outline with written := outline.written ++ tokens }

/-- One move, without a style. -/
def step (outline : Outline) : Move → Outline
  | .put text => outline.put [.literal text]
  | .putMargin => outline.put (Token.lead outline.level)
  | .putLineEnd => outline.put [.lineEnd]
  | .separate => { outline with used := true }.put (if outline.used then [.separator] else [])
  | .writeOnce => { outline with once := .spent }.put [.literal outline.once.text]
  | .setOnce text => { outline with once := ⟨text⟩ }
  | .startList => { outline with used := false }
  | .defer text => { outline with pending := outline.pending ++ [[.literal text]] }
  | .deferLine text => { outline with pending := outline.pending ++ [[.literal text, .lineEnd]] }
  | .release => { outline with pending := [] }.put outline.pending.flatten
  | .releaseInPlace =>
    match outline.pending with
    | [] => outline
    | first :: rest => { outline with pending := [] :: rest }.put first
  | .releaseFirst =>
    match outline.pending with
    | [] => outline
    | first :: rest => { outline with pending := rest }.put first
  | .indentMore => { outline with level := outline.level + 1 }
  | .indentLess => { outline with level := outline.level - 1 }
  | .record caller => { outline with runs := outline.runs.record caller }
  | .clearFailure | .setRoom _ => outline

def stepAll (outline : Outline) (moves : List Move) : Outline := moves.foldl step outline

/-- The outline behind an operation; its moves depend on the runs of callers alone. -/
def after (outline : Outline) (op : JavaOp) : Outline :=
  outline.stepAll (Op.movesAll outline.runs op.ops)

def ofHistory (history : List JavaOp) : Outline := history.foldl after start

/-- All that a history writes, with what is pending when the writer finishes. -/
def tokens (history : List JavaOp) : List Token := ((ofHistory history).step .release).written

section
variable {base : Sink} {style : Style}

theorem writer_start (base : Sink) (style : Style) :
    start.writer base style = Writer.start base style :=
  (Writer.start_eq base style).symm

/-- Tokens that are put behind an outline are put behind its writer, filled. -/
theorem put_writer (hbase : base.room = none) (outline : Outline) {tokens : List Token}
    {text : String} (htext : Token.fillAll style tokens = text) :
    (outline.writer base style).put text = (outline.put tokens).writer base style := by
  rw [writer, Writer.put_standing hbase, ← htext, ← Token.fillAll_append]
  rfl

theorem release_writer (hbase : base.room = none) (outline : Outline) :
    (outline.writer base style).release = (outline.step .release).writer base style := by
  rw [writer, Writer.release_standing hbase, ← Token.fillAll_flatten, ← Token.fillAll_append]
  rfl

/-- A move of the writer is the move of the outline, whatever the style: what it writes is filled by
the style, and what else it leaves is the state of the writer, but for the margin, which is a level
here. -/
theorem apply_writer (hbase : base.room = none) (outline : Outline) (move : Move)
    (hmove : move.keepsRoom = true) :
    move.apply (outline.writer base style) = (outline.step move).writer base style := by
  cases move with
  | setRoom => cases hmove
  | put text => exact put_writer hbase outline (Token.fillAll_singleton style (.literal text))
  | putMargin => exact put_writer hbase outline (Token.fillAll_lead style outline.level)
  | putLineEnd => exact put_writer hbase outline (Token.fillAll_singleton style .lineEnd)
  | separate =>
    refine put_writer hbase { outline with used := true } ?_
    cases hused : outline.used <;>
      simp [writer, Writer.standing, SeparatorSlot.text, hused, Token.fill]
  | writeOnce =>
    exact put_writer hbase { outline with once := .spent }
      (Token.fillAll_singleton style (.literal outline.once.text))
  | release => exact release_writer hbase outline
  | releaseInPlace =>
    obtain ⟨written, level, used, once, pending, runs⟩ := outline
    cases pending with
    | nil => rfl
    | cons first rest =>
      exact put_writer hbase ⟨written, level, used, once, [] :: rest, runs⟩ rfl
  | releaseFirst =>
    obtain ⟨written, level, used, once, pending, runs⟩ := outline
    cases pending with
    | nil => rfl
    | cons first rest => exact put_writer hbase ⟨written, level, used, once, rest, runs⟩ rfl
  | defer text =>
    simp [Move.apply, writer, Writer.defer_standing, step, Token.fill]
  | deferLine text =>
    simp [Move.apply, writer, Writer.deferLine_standing, step, Token.fillAll, Token.fill]
  | indentMore => exact Writer.indentMore_standing
  | indentLess =>
    obtain ⟨written, level, used, once, pending, runs⟩ := outline
    cases level with
    | zero => rfl
    | succ level => exact Writer.indentLess_standing
  | setOnce | startList | record | clearFailure => rfl

theorem applyAll_writer (hbase : base.room = none) (outline : Outline) (moves : List Move)
    (hmoves : ∀ move ∈ moves, move.keepsRoom = true) :
    Move.applyAll (outline.writer base style) moves =
      (outline.stepAll moves).writer base style := by
  induction moves generalizing outline with
  | nil => rfl
  | cons move rest ih =>
    rw [Move.applyAll_cons, apply_writer hbase outline move (hmoves move List.mem_cons_self)]
    exact ih _ fun other hother => hmoves other (List.mem_cons_of_mem move hother)

/-- A history that leaves the room alone takes outlines to outlines. The moves of an operation
depend on the runs before it, so the induction is over all outlines. -/
theorem applyAll_start (hbase : base.room = none) {history : List JavaOp}
    (hhistory : ∀ op ∈ history, ∀ tracker, ∀ move ∈ Op.movesAll tracker op.ops,
      move.keepsRoom = true) :
    JavaOp.applyAll (.start base style) history = (ofHistory history).writer base style := by
  have hrun : ∀ outline : Outline, JavaOp.applyAll (outline.writer base style) history =
      (history.foldl after outline).writer base style := by
    induction history with
    | nil => exact fun _ => rfl
    | cons op rest ih =>
      intro outline
      have hop : op.apply (outline.writer base style) = (outline.after op).writer base style := by
        rw [← JavaOp.applyAll_ops, ← Op.applyAll_movesAll]
        exact applyAll_writer hbase outline _ (hhistory op List.mem_cons_self _)
      rw [JavaOp.applyAll_cons, hop]
      exact ih (fun other hother => hhistory other (List.mem_cons_of_mem op hother)) _
  rw [← writer_start]
  exact hrun start

/-- Finishing writes what is pending and flushes once. -/
theorem finish_writer (hbase : base.NeverFails) (outline : Outline) :
    (outline.writer base style).finish =
      (base.completed (Token.fillAll style (outline.step .release).written), .ok ()) := by
  have hflush : (base.append (Token.fillAll style (outline.step .release).written)).refusesFlush =
      false := hbase.flush
  rw [Writer.finish_eq, ← Writer.outlet_release, release_writer hbase.room]
  exact Outlet.close_open hflush

theorem toRendering_writer (hbase : base.NeverFails) (outline : Outline) :
    (outline.writer base style).toRendering =
      (base.completed (Token.fillAll style (outline.step .release).written), .ok ()) := by
  rw [Writer.toRendering, finish_writer hbase]

end

end Outline

/-- Under every style, over every sink that never fails, `write` succeeds and puts down the tokens
with the texts of the style in their places. -/
def WritesTokens {ε : Type} (write : Style → Sink → Sink × Except ε Unit)
    (tokens : List Token) : Prop :=
  ∀ style sink, sink.NeverFails →
    write style sink = (sink.completed (Token.fillAll style tokens), .ok ())

/-- The moves of a history that leaves the outlet alone leave the room alone. -/
theorem JavaOp.keepsRoom_of_leavesOutlet {history : List JavaOp}
    (h : history.all (JavaOp.all Action.leavesOutlet) = true) :
    ∀ op ∈ history, ∀ tracker, ∀ move ∈ Op.movesAll tracker op.ops, move.keepsRoom = true := by
  intro op hop tracker move hmove
  have hleaves := op.leavesOutlet_ops (List.all_eq_true.1 h op hop)
  exact Move.keepsRoom_of_leavesOutlet (Op.leavesOutlet_movesAll tracker op.ops hleaves move hmove)

theorem JavaOp.writesTokens {history : List JavaOp}
    (h : history.all (JavaOp.all Action.keepsRoom) = true) :
    WritesTokens (fun style sink => (applyAll (.start sink style) history).finish)
      (Outline.tokens history) := by
  intro style sink hsink
  have hrun : applyAll (.start sink style) history =
      (Outline.ofHistory history).writer sink style :=
    Outline.applyAll_start hsink.room fun op hop =>
      op.keepsRoom_moves (List.all_eq_true.1 h op hop)
  exact (congrArg Writer.finish hrun).trans (Outline.finish_writer hsink _)

theorem ClassFile.writesTokens {unit : UnitPlan} {vars : Variables}
    (hname : (DottedName.split unit.fullName).2.isEmpty = false) :
    WritesTokens (render unit vars) (Outline.tokens (history unit vars
      (DottedName.split unit.fullName).1 (DottedName.split unit.fullName).2)) := by
  intro style sink hsink
  have hmoves := JavaOp.keepsRoom_of_leavesOutlet (leavesOutlet_history unit vars
    (DottedName.split unit.fullName).1 (DottedName.split unit.fullName).2)
  rw [render_of_named hname, ← Writer.applyAll_classHistory,
    Outline.applyAll_start hsink.room hmoves]
  exact Outline.toRendering_writer hsink _

theorem ResourceFile.writesTokens (unit : UnitPlan) (vars : Variables) :
    WritesTokens (render unit vars)
      (Outline.tokens [.base (.act (.fullLinesWith vars unit.lines))]) := by
  intro style sink hsink
  let history : List JavaOp := [.base (.act (.fullLinesWith vars unit.lines))]
  have hleaves : history.all (JavaOp.all Action.leavesOutlet) = true := rfl
  have hrun : JavaOp.applyAll (.start sink style) history =
      (Outline.ofHistory history).writer sink style :=
    Outline.applyAll_start hsink.room (JavaOp.keepsRoom_of_leavesOutlet hleaves)
  exact (congrArg Writer.toRendering hrun).trans (Outline.toRendering_writer hsink _)

/-- A history writes one list of tokens, whatever the style is; a style only fills in their places.
The same holds of a class, if it renders to any sink under any style, and of every resource. -/
theorem style_fills_places (history : List JavaOp) (unit : UnitPlan) (vars : Variables) :
    (history.all (JavaOp.all Action.keepsRoom) = true → ∃ tokens,
      WritesTokens (fun style sink => (JavaOp.applyAll (.start sink style) history).finish)
        tokens) ∧
    ((∃ style sink, (ClassFile.render unit vars style sink).2 = .ok ()) → ∃ tokens,
      WritesTokens (ClassFile.render unit vars) tokens) ∧
    ∃ tokens, WritesTokens (ResourceFile.render unit vars) tokens := by
  refine ⟨fun h => ⟨_, JavaOp.writesTokens h⟩, ?_, ⟨_, ResourceFile.writesTokens unit vars⟩⟩
  rintro ⟨style, sink, hrenders⟩
  refine ⟨_, ClassFile.writesTokens ?_⟩
  cases hname : (DottedName.split unit.fullName).2.isEmpty with
  | false => rfl
  | true => simp [ClassFile.render_of_isEmpty hname] at hrenders

/-- The margin is taken off below zero, a class is closed that was never opened, a fragment that
ends its line is pending at the end, and the inner body does not run. -/
theorem style_fills_places_unmatched :
    let history : List JavaOp :=
      [.base (.act .indentLess), .java (.openMethod "" "" "" "f"),
        .base (.ifNewRun ⟨"a"⟩ [.act .indentMore, .ifSameRun ⟨"b"⟩ [.act (.write "x")]]),
        .java .closeClass, .base (.act .separate), .base (.act .separate),
        .base (.act (.deferLine "é"))]
    let unit : UnitPlan := { kind := "class", name := "a.B", interfaces := ["I", "J"] }
    history.all (JavaOp.all Action.keepsRoom) = true ∧
      (ClassFile.render unit .empty ⟨"", "", "\r"⟩ .unlimited).2 = .ok () ∧
      (∃ tokens, WritesTokens
        (fun style sink => (JavaOp.applyAll (.start sink style) history).finish) tokens) ∧
      ∃ tokens, WritesTokens (ClassFile.render unit .empty) tokens := by
  intro history unit
  have hrenders : (ClassFile.render unit .empty ⟨"", "", "\r"⟩ .unlimited).2 = .ok () :=
    congrArg Prod.snd (ClassFile.render_eq unit .empty _ ⟨rfl, rfl⟩ (by decide))
  obtain ⟨hhistory, hclass, _⟩ := style_fills_places history unit .empty
  exact ⟨rfl, hrenders, hhistory rfl, hclass ⟨_, _, hrenders⟩⟩

end SourceEmitter
