import SourceEmitter.Proofs.Utf8Decoding

/-!
# The order of texts and of their bytes

Texts are compared by character, and so are their bytes: encoding keeps the order, whatever stands
behind the characters that differ.
-/

namespace SourceEmitter.Text.Utf8

/-- The bytes of a text, in order. -/
def bytesOf (text : String) : List UInt8 := text.toByteArray.data.toList

/-- The bytes of a smaller character are smaller already where they first differ. The six bits of
one byte and those of the next are digits of one number. -/
theorem utf8EncodeChar_append_lt {c d : Char} (h : c < d) (first second : List UInt8) :
    String.utf8EncodeChar c ++ first < String.utf8EncodeChar d ++ second := by
  have hlt : c.val.toNat < d.val.toNat := h
  have hd : d.val.toNat < 0xD800 ∨ 0xDFFF < d.val.toNat ∧ d.val.toNat < 0x110000 := d.valid
  have hthird : ∀ n : Nat, n / 4096 = n / 64 / 64 := by omega
  have hfourth : ∀ n : Nat, n / 262144 = n / 64 / 64 / 64 := by omega
  unfold String.utf8EncodeChar
  simp only [hthird, hfourth]
  split_ifs <;>
    simp only [List.cons_append, List.nil_append, List.cons_lt_cons_iff, UInt8.lt_iff_toNat_lt,
      ← UInt8.toNat_inj, UInt8.toNat_ofNat'] <;>
    omega

theorem flatMap_utf8EncodeChar_lt {cs ds : List Char} (h : cs < ds) :
    cs.flatMap String.utf8EncodeChar < ds.flatMap String.utf8EncodeChar := by
  induction h with
  | @nil d rest =>
    obtain ⟨b, due, more, hbytes, -, -⟩ := isCharacter_utf8EncodeChar d
    rw [List.flatMap_cons, hbytes]
    exact List.nil_lt_cons b _
  | rel hlt => exact utf8EncodeChar_append_lt hlt _ _
  | cons _ ih => exact List.append_left_lt ih

/-- Texts have the order of their bytes. -/
theorem bytesOf_lt {first second : String} (h : first < second) :
    bytesOf first < bytesOf second := by
  rw [bytesOf, bytesOf, toList_toByteArray, toList_toByteArray]
  exact flatMap_utf8EncodeChar_lt h

end SourceEmitter.Text.Utf8
