import Mathlib.Data.List.Forall2
import SourceEmitter.Text.Utf8

/-!
# Well-formed characters

The bytes that the scanner takes for a character are those that encoding a character gives: one
first byte and the continuation bytes that must follow it. No continuation byte is a first byte.
-/

namespace SourceEmitter.Text.Utf8

/-- Bytes that lie in some ranges, one by one. -/
def Fits (due : List ByteRange) (bytes : List UInt8) : Prop :=
  List.Forall₂ (fun range b => range.has b = true) due bytes

/-- The bytes of one well-formed character: a first byte and those that must follow it. -/
def IsCharacter (bytes : List UInt8) : Prop :=
  ∃ b due more, bytes = b :: more ∧ followers b = some due ∧ Fits due more

/-- A continuation byte, which begins no character. -/
def IsTail (b : UInt8) : Prop := 0x80 ≤ b.toNat ∧ b.toNat ≤ 0xBF

theorem has_iff (range : ByteRange) (b : UInt8) :
    range.has b = true ↔ range.low.toNat ≤ b.toNat ∧ b.toNat ≤ range.high.toNat := by
  rw [ByteRange.has, Bool.and_eq_true, decide_eq_true_iff, decide_eq_true_iff,
    UInt8.le_iff_toNat_le, UInt8.le_iff_toNat_le]

/-- Whatever must follow a first byte is a continuation byte. -/
theorem isTail_of_followers {b c : UInt8} {due : List ByteRange} {range : ByteRange}
    (h : followers b = some due) (hrange : range ∈ due) (hc : range.has c = true) : IsTail c := by
  have htails : ∀ range ∈ due, 0x80 ≤ range.low.toNat ∧ range.high.toNat ≤ 0xBF := by
    revert h
    fun_cases followers b <;> rintro ⟨⟩ <;> decide
  have hbounds := htails range hrange
  have hc := (has_iff range c).1 hc
  exact ⟨Nat.le_trans hbounds.1 hc.1, Nat.le_trans hc.2 hbounds.2⟩

theorem followers_of_isTail {b : UInt8} (h : IsTail b) : followers b = none := by
  have hlow : ¬b < 0x80 := by
    rw [UInt8.lt_iff_toNat_lt]
    exact Nat.not_lt.2 h.1
  have hhigh : b < 0xC2 := by
    rw [UInt8.lt_iff_toNat_lt]
    exact Nat.lt_of_le_of_lt h.2 (by decide)
  rw [followers, if_neg hlow, if_pos hhigh]

/-- The same bytes by their number, with the bounds of each. -/
inductive Shape : List UInt8 → Prop
  | one {a : UInt8} (first : a.toNat < 0x80) : Shape [a]
  | two {a b : UInt8} (first : 0xC2 ≤ a.toNat ∧ a.toNat < 0xE0) (second : IsTail b) : Shape [a, b]
  | three {a b c : UInt8} (first : 0xE0 ≤ a.toNat ∧ a.toNat < 0xF0) (second : IsTail b)
      (low : a.toNat = 0xE0 → 0xA0 ≤ b.toNat) (high : a.toNat = 0xED → b.toNat ≤ 0x9F)
      (third : IsTail c) : Shape [a, b, c]
  | four {a b c d : UInt8} (first : 0xF0 ≤ a.toNat ∧ a.toNat < 0xF5) (second : IsTail b)
      (low : a.toNat = 0xF0 → 0x90 ≤ b.toNat) (high : a.toNat = 0xF4 → b.toNat ≤ 0x8F)
      (third : IsTail c) (fourth : IsTail d) : Shape [a, b, c, d]

theorem followers_eq (b : UInt8) : followers b =
    if b.toNat < 0x80 then some []
    else if b.toNat < 0xC2 then none
    else if b.toNat < 0xE0 then some [tail]
    else if b.toNat = 0xE0 then some [⟨0xA0, 0xBF⟩, tail]
    else if b.toNat = 0xED then some [⟨0x80, 0x9F⟩, tail]
    else if b.toNat < 0xF0 then some [tail, tail]
    else if b.toNat = 0xF0 then some [⟨0x90, 0xBF⟩, tail, tail]
    else if b.toNat < 0xF4 then some [tail, tail, tail]
    else if b.toNat = 0xF4 then some [⟨0x80, 0x8F⟩, tail, tail]
    else none := by
  simp only [followers, UInt8.lt_iff_toNat_lt, ← UInt8.toNat_inj]
  rfl

theorem IsCharacter.shape {bytes : List UInt8} (h : IsCharacter bytes) : Shape bytes := by
  obtain ⟨a, due, more, rfl, hdue, hfits⟩ := h
  revert hdue
  fun_cases followers a <;> rintro ⟨⟩ <;>
    simp only [UInt8.lt_iff_toNat_lt, ← UInt8.toNat_inj, Fits, List.forall₂_cons_left_iff,
      List.forall₂_nil_left_iff, has_iff, tail, UInt8.reduceToNat] at *
  case case1 first =>
    obtain rfl := hfits
    exact .one first
  case case3 =>
    obtain ⟨b, _, hb, rfl, rfl⟩ := hfits
    exact .two (by omega) hb
  case case4 | case5 | case6 =>
    obtain ⟨b, _, hb, ⟨c, _, hc, rfl, rfl⟩, rfl⟩ := hfits
    exact .three (by omega) ⟨by omega, by omega⟩ (by omega) (by omega) hc
  case case7 | case8 | case9 =>
    obtain ⟨b, _, hb, ⟨c, _, hc, ⟨d, _, hd, rfl, rfl⟩, rfl⟩, rfl⟩ := hfits
    exact .four (by omega) ⟨by omega, by omega⟩ (by omega) (by omega) hc hd

theorem Shape.isCharacter {bytes : List UInt8} (h : Shape bytes) : IsCharacter bytes := by
  have hhas : ∀ {low high b : UInt8}, low.toNat ≤ b.toNat ∧ b.toNat ≤ high.toNat →
      ByteRange.has ⟨low, high⟩ b = true :=
    fun {low high b} => (has_iff ⟨low, high⟩ b).2
  cases h with
  | @one a first => exact ⟨a, [], [], rfl, by rw [followers_eq, if_pos first], .nil⟩
  | @two a b first second =>
    refine ⟨a, [tail], [b], rfl, ?_, .cons (hhas second) .nil⟩
    rw [followers_eq, if_neg (by omega), if_neg (by omega), if_pos first.2]
  | @three a b c first second low high third =>
    have hdue : followers a = if a.toNat = 0xE0 then some [⟨0xA0, 0xBF⟩, tail]
        else if a.toNat = 0xED then some [⟨0x80, 0x9F⟩, tail] else some [tail, tail] := by
      rw [followers_eq, if_neg (by omega), if_neg (by omega), if_neg (by omega), if_pos first.2]
    have hthird : Fits [tail] [c] := .cons (hhas third) .nil
    split_ifs at hdue with hE0 hED
    · exact ⟨a, _, [b, c], rfl, hdue, .cons (hhas ⟨low hE0, second.2⟩) hthird⟩
    · exact ⟨a, _, [b, c], rfl, hdue, .cons (hhas ⟨second.1, high hED⟩) hthird⟩
    · exact ⟨a, _, [b, c], rfl, hdue, .cons (hhas second) hthird⟩
  | @four a b c d first second low high third fourth =>
    have hdue : followers a = if a.toNat = 0xF0 then some [⟨0x90, 0xBF⟩, tail, tail]
        else if a.toNat < 0xF4 then some [tail, tail, tail]
        else some [⟨0x80, 0x8F⟩, tail, tail] := by
      rw [followers_eq, if_neg (by omega), if_neg (by omega), if_neg (by omega),
        if_neg (by omega), if_neg (by omega), if_neg (by omega)]
      split_ifs <;> first | rfl | omega
    have hrest : Fits [tail, tail] [c, d] := .cons (hhas third) (.cons (hhas fourth) .nil)
    split_ifs at hdue with hF0 hF4
    · exact ⟨a, _, [b, c, d], rfl, hdue, .cons (hhas ⟨low hF0, second.2⟩) hrest⟩
    · exact ⟨a, _, [b, c, d], rfl, hdue, .cons (hhas second) hrest⟩
    · exact ⟨a, _, [b, c, d], rfl, hdue, .cons (hhas ⟨second.1, high (by omega)⟩) hrest⟩

theorem charOf_utf8EncodeChar (c : Char) : charOf (String.utf8EncodeChar c) = c := by
  have hvalid : c.val.toNat < 0x110000 := by
    have h := c.valid
    simp only [UInt32.isValidChar, Nat.isValidChar] at h
    omega
  have hcode : ∀ n, n = c.val.toNat → Char.ofNat n = c := fun n h => h ▸ Char.ofNat_toNat c
  unfold String.utf8EncodeChar
  simp only
  split_ifs <;> simp only [charOf, UInt8.toNat_ofNat'] <;> apply hcode <;> omega

theorem isCharacter_utf8EncodeChar (c : Char) : IsCharacter (String.utf8EncodeChar c) := by
  have hvalid : c.val.toNat < 0xD800 ∨ 0xDFFF < c.val.toNat ∧ c.val.toNat < 0x110000 := c.valid
  refine Shape.isCharacter ?_
  unfold String.utf8EncodeChar
  simp only
  split_ifs
  · refine .one ?_
    simp only [UInt8.toNat_ofNat']
    omega
  · refine .two ?_ ?_ <;> simp only [IsTail, UInt8.toNat_ofNat'] <;> omega
  · refine .three ?_ ?_ ?_ ?_ ?_ <;> simp only [IsTail, UInt8.toNat_ofNat'] <;> omega
  · refine .four ?_ ?_ ?_ ?_ ?_ ?_ <;> simp only [IsTail, UInt8.toNat_ofNat'] <;> omega

/-- Encoding the character of well-formed bytes gives the bytes. -/
theorem utf8EncodeChar_charOf {bytes : List UInt8} (h : IsCharacter bytes) :
    String.utf8EncodeChar (charOf bytes) = bytes := by
  have hcode : ∀ n, n.isValidChar → (Char.ofNat n).val.toNat = n := by
    intro n hn
    rw [Char.ofNat, dif_pos hn]
    rfl
  have hshape := h.shape
  unfold String.utf8EncodeChar
  cases hshape with
  | @one a first =>
    rw [charOf, hcode _ (.inl (by omega))]
    simp only
    rw [if_pos (by omega), UInt8.ofNat_toNat]
  | two first second =>
    simp only [IsTail] at second
    rw [charOf, hcode _ (.inl (by omega))]
    simp only
    rw [if_neg (by omega), if_pos (by omega)]
    simp only [List.cons.injEq, ← UInt8.toNat_inj, UInt8.toNat_ofNat', and_true]
    omega
  | three first second low high third =>
    simp only [IsTail] at second third
    rw [charOf, hcode _ (by simp only [Nat.isValidChar]; omega)]
    simp only
    rw [if_neg (by omega), if_neg (by omega), if_pos (by omega)]
    simp only [List.cons.injEq, ← UInt8.toNat_inj, UInt8.toNat_ofNat', and_true]
    omega
  | four first second low high third fourth =>
    simp only [IsTail] at second third fourth
    rw [charOf, hcode _ (by simp only [Nat.isValidChar]; omega)]
    simp only
    rw [if_neg (by omega), if_neg (by omega), if_neg (by omega)]
    simp only [List.cons.injEq, ← UInt8.toNat_inj, UInt8.toNat_ofNat', and_true]
    omega

end SourceEmitter.Text.Utf8
