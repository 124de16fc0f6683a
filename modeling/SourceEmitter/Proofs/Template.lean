import SourceEmitter.Text.Pieces
import SourceEmitter.Variables

/-!
# Templates

A template is a text in which every dollar sign begins a whole reference, so that it falls into
plain characters and references. Replacing one reference in a template goes piece by piece, because
no occurrence of it begins inside another piece or ends in one. If the replacement is a template
then so is the result.
-/

namespace SourceEmitter.Text

/-- What may stand between the braces of a reference. -/
def Bare (inner : List Char) : Prop := '$' ∉ inner ∧ '\x7d' ∉ inner

instance (inner : List Char) : Decidable (Bare inner) :=
  inferInstanceAs (Decidable (_ ∧ _))

/-- The text of a reference. -/
def braced (inner : List Char) : List Char := '$' :: '\x7b' :: (inner ++ ['\x7d'])

/-- Whether every dollar sign of a text begins a reference. -/
def IsTemplate (text : List Char) : Prop :=
  ∀ before rest, text = before ++ '$' :: rest →
    ∃ inner after, Bare inner ∧ '$' :: rest = braced inner ++ after

theorem braced_append (inner rest : List Char) :
    braced inner ++ rest = '$' :: '\x7b' :: (inner ++ '\x7d' :: rest) := by
  simp [braced]

theorem Bare.notMem_behind {inner : List Char} (h : Bare inner) :
    '$' ∉ '\x7b' :: (inner ++ ['\x7d']) := by
  simp [h.1]

/-- What a text begins with is one reference at most. -/
theorem braced_append_inj {inner other rest more : List Char} (hinner : Bare inner)
    (hother : Bare other) (h : braced inner ++ rest = braced other ++ more) :
    inner = other ∧ rest = more := by
  rw [braced_append, braced_append, List.cons.injEq, List.cons.injEq] at h
  have hpieces := congrArg (stretches '\x7d') h.2.2
  rw [stretches_append_sep, stretches_append_sep, stretches_of_notMem hinner.2,
    stretches_of_notMem hother.2] at hpieces
  obtain rfl : inner = other := (List.cons.inj hpieces).1
  exact ⟨rfl, (List.cons.inj (List.append_cancel_left h.2.2)).2⟩

/-- A text that falls into plain characters and references. -/
inductive Template : List Char → Prop
  | nil : Template []
  | plain {c : Char} {rest : List Char} (hc : c ≠ '$') (hrest : Template rest) :
      Template (c :: rest)
  | reference {inner rest : List Char} (hinner : Bare inner) (hrest : Template rest) :
      Template (braced inner ++ rest)

theorem Template.of_notMem {text : List Char} (h : '$' ∉ text) : Template text := by
  induction text with
  | nil => exact .nil
  | cons c rest ih =>
    rw [List.mem_cons, not_or] at h
    exact .plain (Ne.symm h.1) (ih h.2)

theorem Template.append {first second : List Char} (hfirst : Template first)
    (hsecond : Template second) : Template (first ++ second) := by
  induction hfirst with
  | nil => exact hsecond
  | plain hc _ ih => exact .plain hc ih
  | reference hinner _ ih =>
    rw [List.append_assoc]
    exact .reference hinner ih

/-- A text whose dollar signs all begin references falls into plain characters and references. By
induction on the length, since a reference is more than one character. -/
theorem IsTemplate.template {text : List Char} (h : IsTemplate text) : Template text := by
  induction hlength : text.length using Nat.strongRecOn generalizing text with
  | ind length ih =>
    have hbehind : ∀ front rest, front ≠ [] → text = front ++ rest → Template rest := by
      intro front rest hfront htext
      have hshorter : rest.length < length := by
        have hpos := List.length_pos_iff.2 hfront
        rw [← hlength, htext, List.length_append]
        omega
      refine ih rest.length hshorter ?_ rfl
      intro before more hmore
      exact h (front ++ before) more (by rw [htext, hmore, List.append_assoc])
    cases text with
    | nil => exact .nil
    | cons c rest =>
      by_cases hc : c = '$'
      · obtain ⟨inner, after, hinner, hrest⟩ := h [] rest (by rw [hc]; rfl)
        rw [← hc] at hrest
        have hafter := hbehind (braced inner) after (by simp [braced]) hrest
        rw [hrest]
        exact .reference hinner hafter
      · exact .plain hc (hbehind [c] rest (by simp) rfl)

/-- A dollar sign behind characters that are none lies in what follows them. -/
theorem append_eq_append_dollar {front after before rest : List Char} (hfront : '$' ∉ front)
    (h : front ++ after = before ++ '$' :: rest) : ∃ more, after = more ++ '$' :: rest := by
  rcases List.append_eq_append_iff.1 h with ⟨more, _, hafter⟩ | ⟨more, hsplit, hafter⟩
  · exact ⟨more, hafter⟩
  · cases more with
    | nil => exact ⟨[], hafter.symm⟩
    | cons c others =>
      obtain rfl := (List.cons.inj hafter).1
      exact absurd (by simp [hsplit]) hfront

theorem Template.isTemplate {text : List Char} (h : Template text) : IsTemplate text := by
  induction h with
  | nil =>
    intro before rest hsplit
    simp at hsplit
  | plain hc _ ih =>
    intro before rest hsplit
    cases before with
    | nil => exact absurd (List.cons.inj hsplit).1 hc
    | cons _ others => exact ih others rest (List.cons.inj hsplit).2
  | @reference inner after hinner _ ih =>
    intro before rest hsplit
    cases before with
    | nil => exact ⟨inner, after, hinner, hsplit.symm⟩
    | cons _ others =>
      obtain ⟨more, hmore⟩ :=
        append_eq_append_dollar hinner.notMem_behind (List.cons.inj hsplit).2
      exact ih more rest hmore

theorem isTemplate_iff {text : List Char} : IsTemplate text ↔ Template text :=
  ⟨IsTemplate.template, Template.isTemplate⟩

section
variable {pattern replacement inner rest text : List Char}

theorem replaceAll_plain {c : Char} (hc : c ≠ '$') (rest : List Char) :
    replaceAll (braced pattern) replacement (c :: rest) =
      c :: replaceAll (braced pattern) replacement rest := by
  have hmiss : (braced pattern).isPrefixOf (c :: rest) = false := by
    rw [braced, List.isPrefixOf_cons_cons, beq_false_of_ne (Ne.symm hc), Bool.false_and]
  exact replaceAll_cons_of_not hmiss replacement

theorem replaceAll_plains (h : '$' ∉ text) (rest : List Char) :
    replaceAll (braced pattern) replacement (text ++ rest) =
      text ++ replaceAll (braced pattern) replacement rest := by
  induction text with
  | nil => rfl
  | cons c others ih =>
    rw [List.mem_cons, not_or] at h
    rw [List.cons_append, replaceAll_plain (Ne.symm h.1), ih h.2, List.cons_append]

theorem replaceAll_same (pattern replacement rest : List Char) :
    replaceAll (braced pattern) replacement (braced pattern ++ rest) =
      replacement ++ replaceAll (braced pattern) replacement rest :=
  replaceAll_append_self _ _ _ _

theorem replaceAll_other (hpattern : Bare pattern) (hinner : Bare inner) (hne : inner ≠ pattern)
    (replacement rest : List Char) :
    replaceAll (braced pattern) replacement (braced inner ++ rest) =
      braced inner ++ replaceAll (braced pattern) replacement rest := by
  have hmiss : (braced pattern).isPrefixOf (braced inner ++ rest) = false := by
    rw [Bool.eq_false_iff, ne_eq, List.isPrefixOf_iff_prefix]
    rintro ⟨more, hmore⟩
    exact hne (braced_append_inj hpattern hinner hmore).1.symm
  have hcons : braced inner ++ rest = '$' :: ('\x7b' :: (inner ++ ['\x7d']) ++ rest) := rfl
  rw [hcons] at hmiss ⊢
  rw [replaceAll_cons_of_not hmiss, replaceAll_plains hinner.notMem_behind]
  rfl

/-- In front of anything, a template is replaced on its own. -/
theorem replaceAll_append (hpattern : Bare pattern) (htext : Template text) (rest : List Char) :
    replaceAll (braced pattern) replacement (text ++ rest) =
      replaceAll (braced pattern) replacement text ++
        replaceAll (braced pattern) replacement rest := by
  induction htext with
  | nil => rfl
  | plain hc _ ih =>
    rw [List.cons_append, replaceAll_plain hc, ih, replaceAll_plain hc, List.cons_append]
  | @reference inner more hinner _ ih =>
    rw [List.append_assoc]
    by_cases hsame : inner = pattern
    · rw [hsame, replaceAll_same, ih, replaceAll_same, List.append_assoc]
    · rw [replaceAll_other hpattern hinner hsame, ih, replaceAll_other hpattern hinner hsame,
        List.append_assoc]

theorem Template.replaceAll (hpattern : Bare pattern) (htext : Template text)
    (hreplacement : Template replacement) :
    Template (replaceAll (braced pattern) replacement text) := by
  induction htext with
  | nil => exact .nil
  | plain hc _ ih =>
    rw [replaceAll_plain hc]
    exact .plain hc ih
  | @reference inner more hinner _ ih =>
    by_cases hsame : inner = pattern
    · rw [hsame, replaceAll_same]
      exact hreplacement.append ih
    · rw [replaceAll_other hpattern hinner hsame]
      exact .reference hinner ih

end

theorem ofNat_ne_dollar {code : Nat} (h : code ≠ 36) : Char.ofNat code ≠ '$' := by
  intro heq
  by_cases hvalid : code.isValidChar
  · have hchar : Char.ofNat code = Char.ofNatAux code hvalid := dif_pos hvalid
    exact h (congrArg Char.toNat (hchar.symm.trans heq))
  · have hchar : Char.ofNat code = '\x00' := dif_neg hvalid
    exact absurd (hchar.symm.trans heq) (by decide)

theorem capitalAboveAscii_ne_dollar {c : Char} (hc : c ≠ '$') : '$' ∉ capitalAboveAscii c := by
  have hgroups : ∀ group ∈ capitalGroups, 36 ∉ group.2 := by decide +kernel
  have hruns : ∀ run ∈ capitalRuns, 36 < run.2.2.2 := by decide +kernel
  unfold capitalAboveAscii
  split
  next _ codes hfind =>
    have hcodes : 36 ∉ codes := hgroups _ (List.mem_of_find?_eq_some hfind)
    rw [List.mem_map]
    rintro ⟨code, hmem, heq⟩
    exact ofNat_ne_dollar (fun h => hcodes (h ▸ hmem)) heq
  next =>
    split
    next first _ _ code hfind =>
      have hcode : 36 < code := hruns _ (List.mem_of_find?_eq_some hfind)
      have hne : code + (c.toNat - first) ≠ 36 := by omega
      rw [List.mem_singleton]
      exact (ofNat_ne_dollar hne).symm
    next =>
      rw [List.mem_singleton]
      exact Ne.symm hc

/-- No character but the dollar sign itself has a dollar sign in its capital form. -/
theorem capital_ne_dollar {c : Char} (hc : c ≠ '$') : '$' ∉ capital c := by
  unfold capital
  split
  next hascii =>
    have htable : ∀ code < 128, code ≠ 36 → (Char.ofNat code).toUpper ≠ '$' := by decide
    have hcode : c.toNat ≠ 36 := fun h => hc (by rw [← Char.ofNat_toNat c, h])
    have hupper := htable c.toNat hascii hcode
    rw [Char.ofNat_toNat] at hupper
    rw [List.mem_singleton]
    exact hupper.symm
  next => exact capitalAboveAscii_ne_dollar hc

theorem capitalize_ne_dollar {text : String} (h : '$' ∉ text.toList) :
    '$' ∉ (capitalize text).toList := by
  unfold Text.capitalize
  cases htext : text.toList with
  | nil => simp
  | cons c rest =>
    rw [htext, List.mem_cons, not_or] at h
    rw [String.toList_ofList, List.mem_append, not_or]
    exact ⟨capital_ne_dollar (Ne.symm h.1), h.2⟩

theorem Template.capitalize {text : String} (h : Template text.toList) :
    Template (capitalize text).toList := by
  unfold Text.capitalize
  cases htext : text.toList with
  | nil => exact .nil
  | cons c rest =>
    rw [htext] at h
    rw [String.toList_ofList]
    cases h with
    | plain hc hrest => exact (Template.of_notMem (capital_ne_dollar hc)).append hrest
    | reference hinner hrest =>
      have hkeep : capital '$' = ['$'] := by decide
      rw [hkeep]
      exact .reference hinner hrest

end SourceEmitter.Text
