/-!
# Cutting texts at a separator

`pieces` cuts a text at every separator, so gluing the pieces back with the separator gives the
text again; `cutAtLast` cuts at the last one only. Both keep empty pieces.
-/

namespace SourceEmitter.Text

/-- The stretches of a character list between the separators, first to last. -/
def stretches (sep : Char) : List Char → List (List Char)
  | [] => [[]]
  | c :: rest =>
    if c = sep then [] :: stretches sep rest
    else
      match stretches sep rest with
      | [] => [[c]]
      | first :: others => (c :: first) :: others

/-- The pieces of a text between the separators; a text without one is its only piece. -/
def pieces (sep : Char) (s : String) : List String :=
  (stretches sep s.toList).map String.ofList

/-- What stands before and after the last separator, if there is one. -/
def cutListAtLast (sep : Char) : List Char → Option (List Char × List Char)
  | [] => none
  | c :: rest =>
    match cutListAtLast sep rest with
    | some (before, after) => some (c :: before, after)
    | none => if c = sep then some ([], rest) else none

/-- What stands before and after the last separator of a text, if there is one. -/
def cutAtLast (sep : Char) (s : String) : Option (String × String) :=
  (cutListAtLast sep s.toList).map fun (before, after) =>
    (String.ofList before, String.ofList after)

/-- A text without the characters of a class at its start. -/
def dropLeading (p : Char → Bool) (s : String) : String :=
  String.ofList (s.toList.dropWhile p)

/-- A text without the characters of a class at either end. -/
def trimBoth (p : Char → Bool) (s : String) : String :=
  String.ofList ((s.toList.dropWhile p).reverse.dropWhile p).reverse

theorem stretches_ne_nil (sep : Char) (cs : List Char) : stretches sep cs ≠ [] := by
  cases cs with
  | nil => simp [stretches]
  | cons c rest =>
    unfold stretches
    split
    · simp
    · split <;> simp

/-- No stretch holds the separator. -/
theorem sep_notMem_of_mem_stretches {sep : Char} {cs p : List Char}
    (h : p ∈ stretches sep cs) : sep ∉ p := by
  induction cs generalizing p with
  | nil => simp_all [stretches]
  | cons c rest ih =>
    unfold stretches at h
    split at h
    next hc =>
      rcases List.mem_cons.1 h with rfl | h
      · simp
      · exact ih h
    next hc =>
      split at h
      next hn => exact absurd hn (stretches_ne_nil sep rest)
      next first others hs =>
        rcases List.mem_cons.1 h with rfl | h
        · intro hm
          rcases List.mem_cons.1 hm with rfl | hm
          · exact hc rfl
          · exact ih (hs ▸ List.mem_cons_self) hm
        · exact ih (hs ▸ List.mem_cons_of_mem _ h)

/-- The stretches hold characters of the list only. -/
theorem mem_of_mem_stretches {sep c : Char} {cs p : List Char} (h : p ∈ stretches sep cs)
    (hc : c ∈ p) : c ∈ cs := by
  induction cs generalizing p with
  | nil => simp_all [stretches]
  | cons head rest ih =>
    unfold stretches at h
    split at h
    next =>
      rcases List.mem_cons.1 h with rfl | h
      · cases hc
      · exact List.mem_cons_of_mem head (ih h hc)
    next =>
      split at h
      next hn => exact absurd hn (stretches_ne_nil sep rest)
      next first others hs =>
        rcases List.mem_cons.1 h with rfl | h
        · rcases List.mem_cons.1 hc with rfl | hc
          · exact List.mem_cons_self
          · exact List.mem_cons_of_mem head (ih (hs ▸ List.mem_cons_self) hc)
        · exact List.mem_cons_of_mem head (ih (hs ▸ List.mem_cons_of_mem first h) hc)

/-- Gluing the stretches back with the separator gives the text. -/
theorem intercalate_stretches (sep : Char) (cs : List Char) :
    [sep].intercalate (stretches sep cs) = cs := by
  induction cs with
  | nil => simp [stretches]
  | cons c rest ih =>
    unfold stretches
    split
    next hc =>
      subst hc
      cases hs : stretches c rest with
      | nil => exact absurd hs (stretches_ne_nil c rest)
      | cons first others => rw [hs] at ih; simpa [List.intercalate] using ih
    next hc =>
      cases hs : stretches sep rest with
      | nil => exact absurd hs (stretches_ne_nil sep rest)
      | cons first others =>
        rw [hs] at ih
        cases others <;> simpa [List.intercalate] using ih

/-- A separator cuts a text in two, and each side is cut on its own. -/
theorem stretches_append_sep (sep : Char) (first second : List Char) :
    stretches sep (first ++ sep :: second) = stretches sep first ++ stretches sep second := by
  induction first with
  | nil => simp [stretches]
  | cons c rest ih =>
    rw [List.cons_append, stretches, stretches, ih]
    split
    · rfl
    · cases hs : stretches sep rest with
      | nil => exact absurd hs (stretches_ne_nil sep rest)
      | cons head tail => rfl

theorem stretches_of_notMem {sep : Char} {cs : List Char} (h : sep ∉ cs) :
    stretches sep cs = [cs] := by
  induction cs with
  | nil => rfl
  | cons c rest ih =>
    have hc : ¬c = sep := fun hc => h (hc ▸ List.mem_cons_self)
    rw [stretches, if_neg hc, ih fun hrest => h (List.mem_cons_of_mem c hrest)]

theorem cutListAtLast_eq_none {sep : Char} {cs : List Char} (h : cutListAtLast sep cs = none) :
    sep ∉ cs := by
  induction cs with
  | nil => simp
  | cons c rest ih =>
    unfold cutListAtLast at h
    split at h
    · cases h
    next hrest =>
      have hc : ¬c = sep := by
        intro hc
        simp [hc] at h
      intro hmem
      rcases List.mem_cons.1 hmem with heq | hmem
      · exact hc heq.symm
      · exact ih hrest hmem

/-- The cut is at a separator behind which there is none. -/
theorem cutListAtLast_eq_some {sep : Char} {cs before after : List Char}
    (h : cutListAtLast sep cs = some (before, after)) :
    cs = before ++ sep :: after ∧ sep ∉ after := by
  induction cs generalizing before with
  | nil => cases h
  | cons c rest ih =>
    unfold cutListAtLast at h
    split at h
    next front back hrest =>
      cases h
      obtain ⟨hcut, hback⟩ := ih hrest
      exact ⟨by rw [hcut, List.cons_append], hback⟩
    next hrest =>
      split at h
      next hc =>
        cases h
        exact ⟨by rw [hc, List.nil_append], cutListAtLast_eq_none hrest⟩
      · cases h

/-- Gluing the pieces back with the separator gives the text. -/
theorem intercalate_pieces (sep : Char) (s : String) :
    (String.singleton sep).intercalate (pieces sep s) = s := by
  rw [← String.toList_inj, String.toList_intercalate, String.toList_singleton, pieces,
    List.map_map]
  simpa [Function.comp_def] using intercalate_stretches sep s.toList

theorem pieces_of_cutAtLast_none {sep : Char} {s : String} (h : cutAtLast sep s = none) :
    pieces sep s = [s] := by
  rw [pieces, stretches_of_notMem (cutListAtLast_eq_none (Option.map_eq_none_iff.1 h)),
    List.map_singleton, String.ofList_toList]

/-- What stands behind the last separator is the last piece. -/
theorem pieces_of_cutAtLast {sep : Char} {s before after : String}
    (h : cutAtLast sep s = some (before, after)) : pieces sep s = pieces sep before ++ [after] := by
  obtain ⟨⟨front, back⟩, hcut, heq⟩ := Option.map_eq_some_iff.1 h
  obtain ⟨rfl, rfl⟩ := Prod.mk.inj heq
  obtain ⟨hs, hback⟩ := cutListAtLast_eq_some hcut
  rw [pieces, hs, stretches_append_sep, stretches_of_notMem hback, List.map_append, pieces,
    String.toList_ofList, List.map_singleton]

end SourceEmitter.Text
