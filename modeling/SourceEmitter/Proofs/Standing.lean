import SourceEmitter.Proofs.Construct
import SourceEmitter.Proofs.Outlet

/-!
# Standing writers

Over a sink without limit, a writer is always in a state of one form: it has written some text, it
stands at some level of indentation, and it holds some fragments back. Each write leads from one
such state to another, which is given in full.
-/

namespace SourceEmitter

/-- A writer over a sink without limit that has written `text` behind what `base` held, at a level
of indentation and with some fragments held back. -/
def Writer.standing (base : Sink) (style : Style) (once : OnceSlot) (text : String) (level : Nat)
    (used : Bool) (held : List String) (runs : RunTracker) : Writer where
  sink := base.append text
  style := style
  margin := style.lead level
  separator := ⟨style.separator, used⟩
  once := once
  pending := ⟨held⟩
  runs := runs
  failure := none

theorem Writer.keepBytes_append (first second : List Char) :
    keepBytes (String.ofList first).utf8ByteSize (first ++ second) = first := by
  induction first with
  | nil =>
    cases second with
    | nil => rfl
    | cons c rest => exact if_neg (Nat.not_le.2 c.utf8Size_pos)
  | cons c rest ih =>
    have hsize : (String.ofList (c :: rest)).utf8ByteSize =
        c.utf8Size + (String.ofList rest).utf8ByteSize := by
      rw [← String.utf8ByteSize_singleton, String.singleton_eq_ofList,
        ← String.utf8ByteSize_append, ← String.ofList_append]
      rfl
    rw [hsize, List.cons_append, keepBytes, if_pos (Nat.le_add_right _ _), Nat.add_sub_cancel_left,
      ih]

theorem Style.lead_succ (style : Style) (level : Nat) :
    style.lead (level + 1) = style.lead level ++ style.indentation := by
  rw [lead, List.replicate_succ', String.join_append, String.join_cons, String.join_nil,
    String.append_empty]
  rfl

namespace Writer

section
variable {base : Sink} {style : Style} {once : OnceSlot} {text : String} {level : Nat} {used : Bool}
  {held : List String} {runs : RunTracker} {w : Writer}

theorem indentMore_standing :
    (standing base style once text level used held runs).indentMore =
      standing base style once text (level + 1) used held runs := by
  rw [standing, standing, Style.lead_succ]
  rfl

theorem indentLess_standing :
    (standing base style once text (level + 1) used held runs).indentLess =
      standing base style once text level used held runs := by
  have hkept := keepBytes_append (style.lead level).toList style.indentation.toList
  rw [String.ofList_toList] at hkept
  simp only [indentLess, standing, Style.lead_succ, String.utf8ByteSize_append, Nat.add_sub_cancel,
    String.toList_append, hkept, String.ofList_toList]

theorem put_standing (hbase : base.room = none) (more : String) :
    (standing base style once text level used held runs).put more =
      standing base style once (text ++ more) level used held runs := by
  unfold put
  split
  next hempty =>
    have hmore : more = "" := by simpa [standing] using hempty
    rw [hmore, String.append_empty]
  next => simp [standing, Sink.accept, Sink.append, hbase, ByteArray.append_assoc]

theorem putAll_standing (hbase : base.room = none) (texts : List String) :
    (standing base style once text level used held runs).putAll texts =
      standing base style once (text ++ String.join texts) level used held runs := by
  induction texts generalizing text with
  | nil => rw [String.join_nil, String.append_empty]; rfl
  | cons first rest ih =>
    rw [putAll, List.foldl_cons, put_standing hbase, String.join_cons, ← String.append_assoc]
    exact ih

theorem release_standing (hbase : base.room = none) :
    (standing base style once text level used held runs).release =
      standing base style once (text ++ String.join held) level used [] runs :=
  putAll_standing hbase held

theorem releaseFirst_standing (hbase : base.room = none) (first : String) (rest : List String) :
    (standing base style once text level used (first :: rest) runs).releaseFirst =
      standing base style once (text ++ first) level used rest runs :=
  put_standing hbase first

theorem write_standing (hbase : base.room = none) (more : String) :
    (standing base style once text level used held runs).write more =
      standing base style once (text ++ String.join held ++ more) level used [] runs := by
  rw [write, release_standing hbase, put_standing hbase]

theorem startLine_standing (hbase : base.room = none) :
    (standing base style once text level used held runs).startLine =
      standing base style once (text ++ String.join held ++ style.lead level) level used [] runs :=
  write_standing hbase (style.lead level)

theorem writeLine_standing (hbase : base.room = none) (more : String) :
    (standing base style once text level used held runs).writeLine more =
      standing base style once (text ++ String.join held ++ more ++ style.lineEnd) level used []
        runs := by
  rw [writeLine, release_standing hbase, put_standing hbase]
  exact put_standing hbase style.lineEnd

theorem fullLine_standing (hbase : base.room = none) (more : String) :
    (standing base style once text level used held runs).fullLine more =
      standing base style once (text ++ String.join held ++ style.lineAt level more) level used []
        runs := by
  rw [fullLine, startLine_standing hbase, put_standing hbase]
  refine (put_standing hbase style.lineEnd).trans ?_
  simp only [Style.lineAt, String.append_assoc]

theorem defer_standing (more : String) :
    (standing base style once text level used held runs).defer more =
      standing base style once text level used (held ++ [more]) runs := rfl

theorem deferLine_standing (more : String) :
    (standing base style once text level used held runs).deferLine more =
      standing base style once text level used (held ++ [more ++ style.lineEnd]) runs := rfl

theorem startList_standing :
    (standing base style once text level used held runs).startList =
      standing base style once text level false held runs := rfl

theorem record_standing (caller : Caller) :
    (standing base style once text level used held runs).record caller =
      standing base style once text level used held ⟨some caller⟩ := rfl

theorem writeWord_standing (hbase : base.room = none) (word : String) :
    (standing base style once text level used [] runs).writeWord word =
      standing base style once (text ++ Print.word word) level used [] runs := by
  unfold writeWord Print.word
  split
  · rw [String.append_empty]
  · rw [write_standing hbase, write_standing hbase, String.join_nil, String.append_empty,
      String.append_empty, String.append_assoc]

/-- Steps of which each writes a text write the texts of a whole list in a row. -/
theorem foldl_texts_standing {α : Type} {step : Writer → α → Writer} {line : α → String}
    (hstep : ∀ text x, step (standing base style once text level used [] runs) x =
      standing base style once (text ++ line x) level used [] runs) (xs : List α) :
    xs.foldl step (standing base style once text level used [] runs) =
      standing base style once (text ++ String.join (xs.map line)) level used [] runs := by
  induction xs generalizing text with
  | nil =>
    rw [List.map_nil, String.join_nil, String.append_empty]
    rfl
  | cons first rest ih =>
    rw [List.foldl_cons, hstep, ih, List.map_cons, String.join_cons, String.append_assoc]

/-- Steps of which each writes its item behind a separator write a whole list, if the first of them
writes its item alone. -/
theorem foldl_standing {α : Type} {step : Writer → α → Writer} {item : α → String}
    (hnext : ∀ text x, step (standing base style once text level true held runs) x =
      standing base style once (text ++ style.separator ++ item x) level true held runs)
    {first : α}
    (hfirst : step w first = standing base style once (text ++ item first) level true held runs)
    (rest : List α) :
    (first :: rest).foldl step w =
      standing base style once (text ++ style.separator.intercalate ((first :: rest).map item))
        level true held runs := by
  induction rest generalizing w text first with
  | nil => rw [List.map_singleton, String.intercalate_singleton, ← hfirst]; rfl
  | cons second rest ih =>
    have hsecond := hnext (text ++ item first) second
    rw [List.foldl_cons, hfirst, ih hsecond, List.map_cons, List.map_cons, List.map_cons,
      String.intercalate_cons_cons]
    simp only [String.append_assoc]

theorem writeItem_standing (hbase : base.room = none) (item : String) :
    (standing base style once text level true held runs).writeItem item =
      standing base style once (text ++ style.separator ++ item) level true held runs := by
  rw [writeItem, writeAhead, ← put_standing hbase, ← put_standing hbase]
  rfl

theorem writeItem_standing_first (hbase : base.room = none) (item : String) :
    (standing base style once text level false held runs).writeItem item =
      standing base style once (text ++ item) level true held runs := by
  have hseparate : (standing base style once text level false held runs).separate =
      standing base style once (text ++ "") level true held runs := put_standing hbase ""
  rw [writeItem, hseparate, String.append_empty]
  exact put_standing hbase item

theorem foldl_writeItem_standing (hbase : base.room = none) (first : String)
    (rest : List String) :
    (first :: rest).foldl writeItem (standing base style once text level false held runs) =
      standing base style once (text ++ style.separator.intercalate (first :: rest)) level true held
        runs := by
  rw [foldl_standing (fun _ item => writeItem_standing hbase item)
    (writeItem_standing_first hbase first) rest, List.map_id'']
  exact fun _ => rfl

end

/-- A writer that has just been started stands behind nothing. -/
theorem start_eq (base : Sink) (style : Style) :
    start base style = standing base style .spent "" 0 false [] .fresh := by
  rw [standing, Sink.append_empty]
  rfl

end Writer

end SourceEmitter
