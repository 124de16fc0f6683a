import Mathlib.Data.List.Basic
import Mathlib.Order.Bounds.Defs
import SourceEmitter.Proofs.Utf8Characters

/-!
# Decoding what was encoded

The scanner takes apart exactly what encoding puts together, and it falls into step with a text at
its first byte: whatever bytes stand in front, a byte that begins a character ends what was
unfinished before it. So bytes that are no text can neither be completed by a text behind them nor
take anything of it away, and decoding fails where the longest text in front of the bytes ends.
-/

namespace SourceEmitter.Text.Utf8

theorem scan_begin (b : UInt8) (rest : List UInt8) :
    scan [] [] (b :: rest) =
      match followers b with
      | none => .malformed [b] :: scan [] [] rest
      | some [] => .character [b] :: scan [] [] rest
      | some (range :: due) => scan [b] (range :: due) rest := by
  rw [scan, begin]
  rcases followers b with _ | _ | ⟨range, due⟩ <;> rfl

/-- A byte out of its range ends what was unfinished, and is looked at anew. -/
theorem scan_stop {range : ByteRange} {b : UInt8} (h : range.has b = false) (taken : List UInt8)
    (due : List ByteRange) (rest : List UInt8) :
    scan taken (range :: due) (b :: rest) = .malformed taken :: scan [] [] (b :: rest) := by
  rw [scan, scan, h]
  rfl

theorem scan_fits {range : ByteRange} {due : List ByteRange} {more : List UInt8}
    (h : Fits (range :: due) more) (taken rest : List UInt8) :
    scan taken (range :: due) (more ++ rest) = .character (taken ++ more) :: scan [] [] rest := by
  induction due generalizing taken range more with
  | nil =>
    obtain ⟨b, _, hb, hnil, rfl⟩ := List.forall₂_cons_left_iff.1 h
    obtain rfl := List.forall₂_nil_left_iff.1 hnil
    rw [List.cons_append, scan, if_pos hb]
    rfl
  | cons second due ih =>
    obtain ⟨b, others, hb, hothers, rfl⟩ := List.forall₂_cons_left_iff.1 h
    rw [List.cons_append, scan, if_pos hb]
    simp only [List.isEmpty_cons, Bool.false_eq_true, if_false]
    rw [ih hothers, List.append_assoc, List.singleton_append]

theorem scan_character {bytes : List UInt8} (h : IsCharacter bytes) (rest : List UInt8) :
    scan [] [] (bytes ++ rest) = .character bytes :: scan [] [] rest := by
  obtain ⟨b, due, more, rfl, hfollowers, hfits⟩ := h
  rw [List.cons_append, scan_begin, hfollowers]
  cases due with
  | nil =>
    obtain rfl := List.forall₂_nil_left_iff.1 hfits
    rfl
  | cons range due => exact scan_fits hfits [b] rest

/-- What a scanner can have taken and expect: nothing, or the first bytes of a character and the
ranges of the others. -/
inductive Unfinished : List UInt8 → List ByteRange → Prop
  | nothing : Unfinished [] []
  | within {b : UInt8} {more : List UInt8} {done due : List ByteRange} {range : ByteRange}
      (first : followers b = some (done ++ range :: due)) (fits : Fits done more) :
      Unfinished (b :: more) (range :: due)

/-- A part of a byte string that no later byte changes. -/
def Chunk.Settled : Chunk → Prop
  | character bytes => IsCharacter bytes
  | malformed _ => True
  | truncated _ => False

/-- A part of a byte string that something follows: what the end would have cut short is
malformed then. -/
def Chunk.close : Chunk → Chunk
  | truncated bytes => malformed bytes
  | chunk => chunk

theorem Chunk.Settled.close_eq {chunk : Chunk} (h : chunk.Settled) : chunk.close = chunk := by
  cases chunk with
  | truncated => cases h
  | character | malformed => rfl

/-- A byte settles some parts, whatever stands behind it, and leaves an unfinished one. -/
def Advances (taken : List UInt8) (due : List ByteRange) (b : UInt8) : Prop :=
  ∃ settled taken' due', Unfinished taken' due' ∧ (∀ chunk ∈ settled, chunk.Settled) ∧
    ∀ rest, scan taken due (b :: rest) = settled ++ scan taken' due' rest

/-- Between characters a byte begins one, or is malformed by itself. -/
theorem advances_between (b : UInt8) : Advances [] [] b := by
  cases hb : followers b with
  | none =>
    refine ⟨[.malformed [b]], [], [], .nothing, List.forall_mem_singleton.2 trivial, ?_⟩
    intro rest
    rw [scan_begin, hb]
    rfl
  | some needed =>
    cases needed with
    | nil =>
      have hchar : IsCharacter [b] := ⟨b, [], [], rfl, hb, .nil⟩
      refine ⟨[.character [b]], [], [], .nothing, List.forall_mem_singleton.2 hchar, ?_⟩
      intro rest
      rw [scan_begin, hb]
      rfl
    | cons range due =>
      have hfirst : followers b = some ([] ++ range :: due) := hb
      refine ⟨[], [b], range :: due, .within hfirst .nil, List.forall_mem_nil _, ?_⟩
      intro rest
      rw [scan_begin, hb]
      rfl

/-- A byte out of range ends a character before its time and is looked at anew. -/
theorem advances_of_not_has {range : ByteRange} {b : UInt8} (hb : range.has b = false)
    (taken : List UInt8) (due : List ByteRange) : Advances taken (range :: due) b := by
  obtain ⟨settled, taken', due', hunfinished, hsettled, hscan⟩ := advances_between b
  refine ⟨.malformed taken :: settled, taken', due', hunfinished,
    List.forall_mem_cons.2 ⟨trivial, hsettled⟩, ?_⟩
  intro rest
  rw [scan_stop hb, hscan]
  rfl

/-- A byte in range completes a character, or brings it one byte nearer to its end. -/
theorem advances_of_has {first b : UInt8} {more : List UInt8} {done due : List ByteRange}
    {range : ByteRange} (hfirst : followers first = some (done ++ range :: due))
    (hfits : Fits done more) (hb : range.has b = true) :
    Advances (first :: more) (range :: due) b := by
  have hmore : Fits (done ++ [range]) (more ++ [b]) := List.rel_append hfits (.cons hb .nil)
  cases due with
  | nil =>
    have hchar : IsCharacter (first :: more ++ [b]) := ⟨first, _, _, rfl, hfirst, hmore⟩
    refine ⟨[.character (first :: more ++ [b])], [], [], .nothing,
      List.forall_mem_singleton.2 hchar, ?_⟩
    intro rest
    rw [scan, if_pos hb]
    rfl
  | cons second due =>
    have hdue : followers first = some ((done ++ [range]) ++ second :: due) := by
      rw [hfirst, List.append_assoc, List.singleton_append]
    refine ⟨[], first :: (more ++ [b]), second :: due, .within hdue hmore,
      List.forall_mem_nil _, ?_⟩
    intro rest
    rw [scan, if_pos hb]
    rfl

theorem Unfinished.advances {taken : List UInt8} {due : List ByteRange} (h : Unfinished taken due)
    (b : UInt8) : Advances taken due b := by
  cases h with
  | nothing => exact advances_between b
  | @within first more done due range hfirst hfits =>
    cases hb : range.has b with
    | false => exact advances_of_not_has hb (first :: more) due
    | true => exact advances_of_has hfirst hfits hb

/-- Bytes that begin with a byte which begins a character. -/
def BeginsCharacter (bytes : List UInt8) : Prop :=
  ∃ b rest due, bytes = b :: rest ∧ followers b = some due

/-- A byte that begins a character ends whatever was unfinished. -/
theorem scan_of_beginsCharacter {taken : List UInt8} {due : List ByteRange}
    (h : Unfinished taken due) {rest : List UInt8} (hrest : BeginsCharacter rest) :
    scan taken due rest = (scan taken due []).map Chunk.close ++ scan [] [] rest := by
  cases h with
  | nothing => rfl
  | @within first more done due range hfirst hfits =>
    obtain ⟨b, rest, needed, rfl, hb⟩ := hrest
    have hstop : range.has b = false := by
      refine Bool.eq_false_iff.2 fun hhas => ?_
      have htail := isTail_of_followers hfirst (List.mem_append_right _ List.mem_cons_self) hhas
      rw [followers_of_isTail htail] at hb
      cases hb
    rw [scan_stop hstop]
    rfl

/-- The scanner falls into step at a byte that begins a character, wherever it is. -/
theorem scan_append {taken : List UInt8} {due : List ByteRange} (h : Unfinished taken due)
    (bytes : List UInt8) {rest : List UInt8} (hrest : BeginsCharacter rest) :
    scan taken due (bytes ++ rest) = (scan taken due bytes).map Chunk.close ++ scan [] [] rest := by
  induction bytes generalizing taken due with
  | nil => exact scan_of_beginsCharacter h hrest
  | cons b others ih =>
    obtain ⟨settled, taken', due', hunfinished, hsettled, hscan⟩ := h.advances b
    have hclose : settled.map Chunk.close = settled :=
      (List.map_congr_left fun chunk hmem => (hsettled chunk hmem).close_eq).trans
        (List.map_id settled)
    rw [List.cons_append, hscan, hscan, ih hunfinished, List.map_append, hclose,
      List.append_assoc]

/-- Whatever the scanner takes for a character is one. -/
theorem isCharacter_of_mem_scan {taken : List UInt8} {due : List ByteRange}
    (h : Unfinished taken due) (bytes : List UInt8) {part : List UInt8}
    (hmem : Chunk.character part ∈ scan taken due bytes) : IsCharacter part := by
  induction bytes generalizing taken due with
  | nil =>
    rw [scan] at hmem
    split at hmem
    · cases hmem
    · cases List.mem_singleton.1 hmem
  | cons b others ih =>
    obtain ⟨settled, taken', due', hunfinished, hsettled, hscan⟩ := h.advances b
    rw [hscan] at hmem
    rcases List.mem_append.1 hmem with hmem | hmem
    · exact hsettled _ hmem
    · exact ih hunfinished hmem

theorem toList_toByteArray (text : String) :
    text.toByteArray.data.toList = text.toList.flatMap String.utf8EncodeChar := by
  rw [← String.utf8Encode_toList, List.utf8Encode, List.data_toByteArray]

/-- The parts of a text are its characters. -/
def textChunks (text : String) : List Chunk :=
  text.toList.map fun c => .character (String.utf8EncodeChar c)

theorem chunks_text_append (text : String) (rest : List UInt8) :
    chunks (text.toByteArray.data.toList ++ rest) = textChunks text ++ chunks rest := by
  rw [toList_toByteArray, textChunks]
  induction text.toList with
  | nil => rfl
  | cons c others ih =>
    rw [List.flatMap_cons, List.append_assoc, chunks,
      scan_character (isCharacter_utf8EncodeChar c)]
    exact congrArg (Chunk.character (String.utf8EncodeChar c) :: ·) ih

theorem chunks_text (text : String) : chunks text.toByteArray.data.toList = textChunks text := by
  have h := chunks_text_append text []
  rw [List.append_nil] at h
  exact h.trans (List.append_nil _)

theorem beginsCharacter_text {text : String} (h : text ≠ "") :
    BeginsCharacter text.toByteArray.data.toList := by
  cases hlist : text.toList with
  | nil => exact absurd (String.toList_eq_nil_iff.1 hlist) h
  | cons c others =>
    obtain ⟨b, due, more, hbytes, hdue, -⟩ := isCharacter_utf8EncodeChar c
    refine ⟨b, more ++ others.flatMap String.utf8EncodeChar, due, ?_, hdue⟩
    rw [toList_toByteArray, hlist, List.flatMap_cons, hbytes, List.cons_append]

/-- A text behind bytes closes their last part and is taken apart by itself. -/
theorem chunks_append_text (bytes : List UInt8) {text : String} (h : text ≠ "") :
    chunks (bytes ++ text.toByteArray.data.toList) =
      (chunks bytes).map Chunk.close ++ textChunks text := by
  rw [← chunks_text]
  exact scan_append .nothing bytes (beginsCharacter_text h)

theorem shown_close (chunk : Chunk) : chunk.close.shown = chunk.shown := by
  cases chunk <;> rfl

theorem shown_textChunks (text : String) : (textChunks text).map Chunk.shown = text.toList := by
  rw [textChunks, List.map_map]
  exact (List.map_congr_left fun c _ => charOf_utf8EncodeChar c).trans (List.map_id _)

/-- A text behind bytes is shown as it is, and the bytes are shown as without it. -/
theorem decodeLenient_append (bytes : ByteArray) (text : String) :
    decodeLenient (bytes ++ text.toByteArray) = decodeLenient bytes ++ text := by
  by_cases htext : text = ""
  · rw [htext, String.toByteArray_empty, ByteArray.append_empty, String.append_empty]
  · have hshown : ((chunks bytes.data.toList).map Chunk.close).map Chunk.shown =
        (chunks bytes.data.toList).map Chunk.shown := by
      rw [List.map_map]
      exact List.map_congr_left fun chunk _ => shown_close chunk
    rw [decodeLenient, ByteArray.data_append, Array.toList_append, chunks_append_text _ htext,
      List.map_append, hshown, shown_textChunks, String.ofList_append, String.ofList_toList]
    rfl

/-- The characters of a text are decoded in front of anything else. -/
theorem decodeChunks_text_append (offset : Nat) (text : String) (rest : List Chunk) :
    decodeChunks offset (textChunks text ++ rest) =
      (decodeChunks (offset + text.utf8ByteSize) rest).map (text.toList ++ ·) := by
  rw [← String.size_toByteArray, ← ByteArray.size_data, ← Array.length_toList, toList_toByteArray,
    textChunks]
  induction text.toList generalizing offset with
  | nil =>
    change decodeChunks offset rest = (decodeChunks offset rest).map id
    cases decodeChunks offset rest <;> rfl
  | cons c others ih =>
    rw [List.map_cons, List.cons_append, decodeChunks, ih, charOf_utf8EncodeChar,
      List.flatMap_cons, List.length_append, Nat.add_assoc]
    cases decodeChunks _ rest <;> rfl

theorem decode_text (text : String) : decode text.toByteArray = .ok text := by
  have h := decodeChunks_text_append 0 text []
  rw [List.append_nil] at h
  rw [decode, chunks_text, h, decodeChunks, Except.map, Except.map, List.append_nil,
    String.ofList_toList]

/-- Bytes that are a text with an ill-formed part behind it. -/
def FaultBehind (text : String) (bytes : ByteArray) : Prop :=
  ∃ part rest, chunks bytes.data.toList = textChunks text ++ part :: rest ∧
    ∀ more, part ≠ .character more

/-- Parts that hold well-formed characters begin with a text. -/
theorem textChunks_or_fault (parts : List Chunk)
    (h : ∀ part, .character part ∈ parts → IsCharacter part) :
    ∃ text, parts = textChunks text ∨
      ∃ part rest, parts = textChunks text ++ part :: rest ∧ ∀ more, part ≠ .character more := by
  induction parts with
  | nil => exact ⟨"", .inl rfl⟩
  | cons first rest ih =>
    obtain ⟨text, htext⟩ := ih fun part hmem => h part (List.mem_cons_of_mem first hmem)
    cases first with
    | character bytes =>
      have hfirst : textChunks (String.ofList (charOf bytes :: text.toList)) =
          .character bytes :: textChunks text := by
        rw [textChunks, String.toList_ofList, List.map_cons,
          utf8EncodeChar_charOf (h bytes List.mem_cons_self)]
        rfl
      refine ⟨String.ofList (charOf bytes :: text.toList), ?_⟩
      rw [hfirst]
      rcases htext with rfl | ⟨part, others, rfl, hpart⟩
      · exact .inl rfl
      · exact .inr ⟨part, others, rfl, hpart⟩
    | malformed bytes => exact ⟨"", .inr ⟨_, rest, rfl, nofun⟩⟩
    | truncated bytes => exact ⟨"", .inr ⟨_, rest, rfl, nofun⟩⟩

theorem flatMap_bytes_textChunks (text : String) :
    (textChunks text).flatMap Chunk.bytes = text.toByteArray.data.toList := by
  rw [← chunks_text, flatMap_bytes_chunks]

/-- Bytes are a text, or have an ill-formed part behind one. -/
theorem text_or_faultBehind (bytes : ByteArray) :
    (∃ text : String, text.toByteArray = bytes) ∨ ∃ text, FaultBehind text bytes := by
  obtain ⟨text, htext | hfault⟩ := textChunks_or_fault (chunks bytes.data.toList)
    fun part hmem => isCharacter_of_mem_scan .nothing bytes.data.toList hmem
  · refine .inl ⟨text, ByteArray.ext (Array.toList_inj.1 ?_)⟩
    rw [← flatMap_bytes_textChunks, ← htext, flatMap_bytes_chunks]
  · exact .inr ⟨text, hfault⟩

namespace FaultBehind

variable {text : String} {bytes : ByteArray}

theorem decode_eq (h : FaultBehind text bytes) :
    ∃ length?, decode bytes = .error ⟨text.utf8ByteSize, length?⟩ := by
  obtain ⟨part, rest, hchunks, hpart⟩ := h
  rw [decode, hchunks, decodeChunks_text_append, Nat.zero_add]
  cases part with
  | character more => exact absurd rfl (hpart more)
  | malformed more => exact ⟨some more.length, rfl⟩
  | truncated more => exact ⟨none, rfl⟩

/-- A text behind the bytes completes nothing. -/
theorem append (h : FaultBehind text bytes) (more : String) :
    FaultBehind text (bytes ++ more.toByteArray) := by
  obtain ⟨part, rest, hchunks, hpart⟩ := h
  by_cases hmore : more = ""
  · rw [hmore, String.toByteArray_empty, ByteArray.append_empty]
    exact ⟨part, rest, hchunks, hpart⟩
  · have htext : (textChunks text).map Chunk.close = textChunks text := by
      rw [textChunks, List.map_map]
      rfl
    refine ⟨part.close, rest.map Chunk.close ++ textChunks more, ?_, ?_⟩
    · rw [ByteArray.data_append, Array.toList_append, chunks_append_text _ hmore, hchunks,
        List.map_append, List.map_cons, htext, List.append_assoc, List.cons_append]
    · intro others
      cases part with
      | character more => exact absurd rfl (hpart more)
      | malformed | truncated => nofun

theorem prepend (h : FaultBehind text bytes) (start : String) :
    FaultBehind (start ++ text) (start.toByteArray ++ bytes) := by
  obtain ⟨part, rest, hchunks, hpart⟩ := h
  refine ⟨part, rest, ?_, hpart⟩
  have htext : textChunks (start ++ text) = textChunks start ++ textChunks text := by
    rw [textChunks, String.toList_append, List.map_append]
    rfl
  rw [ByteArray.data_append, Array.toList_append, chunks_text_append, hchunks, htext,
    List.append_assoc]

theorem exists_append (h : FaultBehind text bytes) : ∃ rest, bytes = text.toByteArray ++ rest := by
  obtain ⟨part, rest, hchunks, -⟩ := h
  refine ⟨((part :: rest).flatMap Chunk.bytes).toByteArray, ByteArray.ext (Array.toList_inj.1 ?_)⟩
  rw [ByteArray.data_append, Array.toList_append, List.data_toByteArray,
    ← flatMap_bytes_textChunks, ← List.flatMap_append, ← hchunks, flatMap_bytes_chunks]

/-- The text in front of the ill-formed part is the longest valid start of the bytes. -/
theorem isGreatest (h : FaultBehind text bytes) :
    IsGreatest {n | n ≤ bytes.size ∧ (bytes.extract 0 n).IsValidUTF8} text.utf8ByteSize := by
  constructor
  · obtain ⟨rest, rfl⟩ := h.exists_append
    refine ⟨?_, ?_⟩
    · rw [ByteArray.size_append, String.size_toByteArray]
      exact Nat.le_add_right _ _
    · rw [ByteArray.extract_append_eq_left String.size_toByteArray.symm]
      exact text.isValidUTF8
  · rintro n ⟨hn, hvalid⟩
    obtain ⟨start, hstart⟩ : ∃ start : String, start.toByteArray = bytes.extract 0 n :=
      ⟨.ofByteArray _ hvalid, rfl⟩
    have hsplit : start.toByteArray ++ bytes.extract n bytes.size = bytes := by
      rw [hstart, ← ByteArray.extract_eq_extract_append_extract n (Nat.zero_le n) hn,
        ByteArray.extract_zero_size]
    have hsize : start.utf8ByteSize = n := by
      rw [← String.size_toByteArray, hstart, ByteArray.size_extract, Nat.min_eq_left hn]
      exact Nat.sub_zero n
    obtain ⟨length?, hdecode⟩ := h.decode_eq
    rcases text_or_faultBehind (bytes.extract n bytes.size) with ⟨more, hmore⟩ | ⟨more, hmore⟩
    · rw [← hsplit, ← hmore, ← String.toByteArray_append, decode_text] at hdecode
      cases hdecode
    · have hwhole := hmore.prepend start
      rw [hsplit] at hwhole
      obtain ⟨length?', hdecode'⟩ := hwhole.decode_eq
      have hfault := Except.error.inj (hdecode.symm.trans hdecode')
      have hsum : text.utf8ByteSize = (start ++ more).utf8ByteSize :=
        congrArg Fault.validUpTo hfault
      rw [String.utf8ByteSize_append, hsize] at hsum
      omega

end FaultBehind

theorem decode_eq_ok {bytes : ByteArray} {text : String} :
    decode bytes = .ok text ↔ text.toByteArray = bytes := by
  constructor
  · intro h
    rcases text_or_faultBehind bytes with ⟨other, rfl⟩ | ⟨other, hfault⟩
    · rw [decode_text] at h
      rw [Except.ok.inj h]
    · obtain ⟨length?, herror⟩ := hfault.decode_eq
      rw [herror] at h
      cases h
  · rintro rfl
    exact decode_text text

/-- Bytes with a text behind them are a text exactly when the bytes are one. -/
theorem decode_append_eq_ok {bytes : ByteArray} {more out : String} :
    decode (bytes ++ more.toByteArray) = .ok out ↔
      ∃ start : String, start.toByteArray = bytes ∧ out = start ++ more := by
  rw [decode_eq_ok]
  constructor
  · intro h
    rcases text_or_faultBehind bytes with ⟨start, rfl⟩ | ⟨start, hfault⟩
    · exact ⟨start, rfl, String.toByteArray_inj.1 h⟩
    · obtain ⟨length?, herror⟩ := (hfault.append more).decode_eq
      rw [← h, decode_text] at herror
      cases herror
  · rintro ⟨start, rfl, rfl⟩
    exact String.toByteArray_append

/-- Decoding bytes that are no text fails where their longest valid start ends, and a text behind
the bytes does not move that place. -/
theorem decode_append_eq_error {bytes : ByteArray} (h : ¬bytes.IsValidUTF8) (more : String) :
    ∃ alone behind, decode bytes = .error alone ∧
      decode (bytes ++ more.toByteArray) = .error behind ∧
      behind.validUpTo = alone.validUpTo ∧
      IsGreatest {n | n ≤ bytes.size ∧ (bytes.extract 0 n).IsValidUTF8} alone.validUpTo := by
  rcases text_or_faultBehind bytes with ⟨text, rfl⟩ | ⟨text, hfault⟩
  · exact absurd text.isValidUTF8 h
  · obtain ⟨length?, halone⟩ := hfault.decode_eq
    obtain ⟨length?', hbehind⟩ := (hfault.append more).decode_eq
    exact ⟨_, _, halone, hbehind, rfl, hfault.isGreatest⟩

end SourceEmitter.Text.Utf8
