import SourceEmitter.Proofs.ExpansionRule

/-!
# Expansion follows its rule

The passes of an expansion act on the whole text as it then is. On a template they act on every
reference alone: the first pass that matches it replaces it, and what the passes behind do with the
replacement is the rule again, for the references behind the replaced one.
-/

namespace SourceEmitter

/-- One pass over a text: a reference and what replaces it. -/
structure Pass where
  reference : Reference
  replacement : List Char

namespace Pass

def apply (text : List Char) (pass : Pass) : List Char :=
  Text.replaceAll (Text.braced pass.reference.inner) pass.replacement text

def applyAll (passes : List Pass) (text : List Char) : List Char := passes.foldl apply text

/-- Whether a pass replaces a reference, and by a template. -/
structure Sound (pass : Pass) : Prop where
  inner : Text.Bare pass.reference.inner
  replacement : Text.Template pass.replacement

variable {passes : List Pass} {inner text : List Char}

@[simp] theorem applyAll_cons (pass : Pass) (rest : List Pass) (text : List Char) :
    applyAll (pass :: rest) text = applyAll rest (pass.apply text) := rfl

theorem apply_same (pass : Pass) :
    pass.apply (Text.braced pass.reference.inner) = pass.replacement := by
  have h := Text.replaceAll_same pass.reference.inner pass.replacement []
  rwa [List.append_nil, Text.replaceAll_nil, List.append_nil] at h

theorem Sound.apply_other {pass : Pass} (hpass : pass.Sound) (hinner : Text.Bare inner)
    (hne : pass.reference.inner ≠ inner) : pass.apply (Text.braced inner) = Text.braced inner := by
  have h := Text.replaceAll_other hpass.inner hinner (Ne.symm hne) pass.replacement []
  rwa [List.append_nil, Text.replaceAll_nil, List.append_nil] at h

theorem applyAll_nil (passes : List Pass) : applyAll passes [] = [] := by
  induction passes with
  | nil => rfl
  | cons pass rest ih => exact ih

theorem applyAll_plain (passes : List Pass) {c : Char} (hc : c ≠ '$') (rest : List Char) :
    applyAll passes (c :: rest) = c :: applyAll passes rest := by
  induction passes generalizing rest with
  | nil => rfl
  | cons pass more ih =>
    rw [applyAll_cons, apply, Text.replaceAll_plain hc, ih]
    rfl

theorem applyAll_of_notMem (passes : List Pass) (h : '$' ∉ text) :
    applyAll passes text = text := by
  induction text with
  | nil => exact applyAll_nil passes
  | cons c rest ih =>
    rw [List.mem_cons, not_or] at h
    rw [applyAll_plain passes (Ne.symm h.1), ih h.2]

theorem template_applyAll (hsound : ∀ pass ∈ passes, pass.Sound) (h : Text.Template text) :
    Text.Template (applyAll passes text) := by
  induction passes generalizing text with
  | nil => exact h
  | cons pass rest ih =>
    obtain ⟨hpass, hrest⟩ := List.forall_mem_cons.1 hsound
    exact ih hrest (h.replaceAll hpass.inner hpass.replacement)

/-- In front of anything, a template is worked on alone. -/
theorem applyAll_append (hsound : ∀ pass ∈ passes, pass.Sound) (h : Text.Template text)
    (rest : List Char) :
    applyAll passes (text ++ rest) = applyAll passes text ++ applyAll passes rest := by
  induction passes generalizing text rest with
  | nil => rfl
  | cons pass more ih =>
    obtain ⟨hpass, hmore⟩ := List.forall_mem_cons.1 hsound
    rw [applyAll_cons, apply, Text.replaceAll_append hpass.inner h,
      ih hmore (h.replaceAll hpass.inner hpass.replacement)]
    rfl

/-- The first pass that matches a reference replaces it, and the passes behind it go on with the
replacement. -/
theorem applyAll_braced (hsound : ∀ pass ∈ passes, pass.Sound) (hinner : Text.Bare inner) :
    (∃ before pass after, passes = before ++ pass :: after ∧ pass.reference.inner = inner ∧
      applyAll passes (Text.braced inner) = applyAll after pass.replacement) ∨
    ((∀ pass ∈ passes, pass.reference.inner ≠ inner) ∧
      applyAll passes (Text.braced inner) = Text.braced inner) := by
  induction passes with
  | nil => exact .inr ⟨fun _ hmem => (nomatch hmem), rfl⟩
  | cons pass rest ih =>
    obtain ⟨hpass, hrest⟩ := List.forall_mem_cons.1 hsound
    by_cases hmatch : pass.reference.inner = inner
    · subst hmatch
      exact .inl ⟨[], pass, rest, rfl, rfl, by rw [applyAll_cons, apply_same]⟩
    · rw [applyAll_cons, hpass.apply_other hinner hmatch]
      rcases ih hrest with ⟨before, found, after, rfl, hfound, hrun⟩ | ⟨hnone, hrun⟩
      · exact .inl ⟨pass :: before, found, after, rfl, hfound, hrun⟩
      · exact .inr ⟨List.forall_mem_cons.2 ⟨hmatch, hnone⟩, hrun⟩

end Pass

namespace Variables

/-- The passes that the expansion of some variables makes, in order. -/
def passes (pairs : List (String × String)) : List Pass :=
  pairs.flatMap fun pair =>
    ReferenceForm.all.map fun form => ⟨⟨pair.1, form⟩, (form.meaning pair.2).toList⟩

theorem foldl_replaceVar (pairs : List (String × String)) (text : List Char) :
    pairs.foldl replaceVar text = Pass.applyAll (passes pairs) text := by
  have hform : ∀ (pair : String × String) (text : List Char) (form : ReferenceForm),
      replaceForm pair.1 pair.2 text form =
        Pass.apply text ⟨⟨pair.1, form⟩, (form.meaning pair.2).toList⟩ := by
    intro pair text form
    have hpattern := Reference.toList_reference ⟨pair.1, form⟩
    rw [replaceForm, Pass.apply, hpattern]
  rw [passes, Pass.applyAll, List.foldl_flatMap]
  simp only [List.foldl_map, ← hform]
  rfl

theorem mem_passes {pairs : List (String × String)} {pass : Pass} :
    pass ∈ passes pairs ↔ ∃ value, (pass.reference.name, value) ∈ pairs ∧
      (pass.reference.form.meaning value).toList = pass.replacement := by
  rw [passes, List.mem_flatMap]
  constructor
  · rintro ⟨⟨name, value⟩, hpair, hpass⟩
    obtain ⟨form, _, rfl⟩ := List.mem_map.1 hpass
    exact ⟨value, hpair, rfl⟩
  · rintro ⟨value, hpair, hreplacement⟩
    refine ⟨_, hpair, List.mem_map.2 ⟨pass.reference.form, ?_, ?_⟩⟩
    · cases pass.reference.form <;> decide
    · rw [hreplacement]

/-- The passes replace the references to known variables. -/
theorem mem_passes_iff {vars : Variables} {pairs : List (String × String)}
    (hpairs : pairs.Perm vars.table.entries) {pass : Pass} :
    pass ∈ passes pairs ↔ vars.replacement? pass.reference = some pass.replacement := by
  rw [mem_passes, replacement?_eq_some_iff]
  simp only [hpairs.mem_iff, get?, SortedTable.get?_eq_some_iff]

theorem mem_passes_iff_counts {vars : Variables} {pairs : List (String × String)}
    (hpairs : pairs.Perm vars.table.entries) {later : Reference → Reference → Prop} {pass : Pass} :
    pass ∈ passes pairs ↔ vars.replacement? pass.reference = some pass.replacement ∧
      Counts later none pass.reference := by
  have hcounts : Counts later none pass.reference := fun _ houter => nomatch houter
  rw [mem_passes_iff hpairs, and_iff_left hcounts]

/-- The passes go through the references in order. -/
theorem pairwise_passes {pairs : List (String × String)}
    (h : pairs.Pairwise fun first second => first.1 < second.1) :
    (passes pairs).Pairwise fun first second => first.reference.Precedes second.reference := by
  rw [passes, List.pairwise_flatMap]
  constructor
  · intro pair _
    rw [List.pairwise_map]
    have hforms : ReferenceForm.all.Pairwise fun form form' => form.rank < form'.rank := by decide
    exact hforms.imp fun hrank => .inr ⟨rfl, hrank⟩
  · refine h.imp fun hname first hfirst second hsecond => ?_
    obtain ⟨_, _, rfl⟩ := List.mem_map.1 hfirst
    obtain ⟨_, _, rfl⟩ := List.mem_map.1 hsecond
    exact .inl hname

section
variable {vars : Variables} {later : Reference → Reference → Prop} {within : Option Reference}
  {passes : List Pass} {text : List Char}

theorem Tidy.sound (hvars : vars.Tidy) {pass : Pass}
    (h : vars.replacement? pass.reference = some pass.replacement) : pass.Sound :=
  ⟨hvars.bare_inner h, hvars.template_replacement h⟩

/-- Passes for the references that count expand a template if, behind each of them, the others
expand its replacement. -/
theorem expands_applyAll (hvars : vars.Tidy)
    (hpasses : ∀ pass, pass ∈ passes ↔
      vars.replacement? pass.reference = some pass.replacement ∧
        Counts later within pass.reference)
    (hinside : ∀ before pass after, passes = before ++ pass :: after →
      vars.Expands later (some pass.reference) pass.replacement
        (Pass.applyAll after pass.replacement))
    (h : Text.Template text) : vars.Expands later within text (Pass.applyAll passes text) := by
  have hsound : ∀ pass ∈ passes, pass.Sound := fun pass hmem =>
    hvars.sound ((hpasses pass).1 hmem).1
  induction h with
  | nil =>
    rw [Pass.applyAll_nil]
    exact .nil
  | plain hc _ ih =>
    rw [Pass.applyAll_plain passes hc]
    exact .plain hc ih
  | @reference inner rest hinner _ ih =>
    have hbraced : Text.Template (Text.braced inner) := by
      simpa using Text.Template.reference hinner .nil
    rw [Pass.applyAll_append hsound hbraced]
    rcases Pass.applyAll_braced hsound hinner with
      ⟨before, pass, after, hsplit, rfl, hrun⟩ | ⟨hnone, hrun⟩
    · have hmem : pass ∈ passes := by simp [hsplit]
      obtain ⟨hknown, hcounts⟩ := (hpasses pass).1 hmem
      rw [hrun]
      exact .replaced hknown hcounts (hinside before pass after hsplit) ih
    · rw [hrun]
      refine .kept hinner (fun reference hsame hcounts => ?_) ih
      cases hknown : vars.replacement? reference with
      | none => rfl
      | some replacement =>
        have hmem := (hpasses ⟨reference, replacement⟩).2 ⟨hknown, hcounts⟩
        have hother : reference.inner ≠ inner := hnone ⟨reference, replacement⟩ hmem
        exact absurd hsame hother

/-- Passes in order, for the references behind some reference, follow the rule inside of it. By
induction on the number of passes: those behind a match are fewer, and are those for the references
behind the matched one. -/
theorem expands_of_pairwise (hvars : vars.Tidy)
    (hsorted : passes.Pairwise fun first second => first.reference.Precedes second.reference)
    (hpasses : ∀ pass, pass ∈ passes ↔
      vars.replacement? pass.reference = some pass.replacement ∧
        Counts Reference.Precedes within pass.reference)
    (h : Text.Template text) :
    vars.Expands Reference.Precedes within text (Pass.applyAll passes text) := by
  induction hlength : passes.length using Nat.strongRecOn generalizing passes within text with
  | ind length ih =>
    refine expands_applyAll hvars hpasses (fun before pass after hsplit => ?_) h
    have hmem : pass ∈ passes := by simp [hsplit]
    obtain ⟨hknown, hcounts⟩ := (hpasses pass).1 hmem
    rw [hsplit, List.pairwise_append] at hsorted
    obtain ⟨_, hbehind, hacross⟩ := hsorted
    obtain ⟨hfirst, hafter⟩ := List.pairwise_cons.1 hbehind
    have hshorter : after.length < length := by
      rw [← hlength, hsplit, List.length_append, List.length_cons]
      omega
    refine ih after.length hshorter hafter ?_ (hvars.template_replacement hknown) rfl
    intro other
    constructor
    · intro hother
      have hknown' := ((hpasses other).1 (by simp [hsplit, hother])).1
      refine ⟨hknown', fun outer houter => ?_⟩
      rw [← Option.some.inj houter]
      exact hfirst other hother
    · rintro ⟨hknown', hlater⟩
      have hprecedes := hlater pass.reference rfl
      have hcounts' : Counts Reference.Precedes within other.reference :=
        fun outer houter => (hcounts outer houter).trans hprecedes
      have hmem' := (hpasses other).2 ⟨hknown', hcounts'⟩
      rw [hsplit, List.mem_append, List.mem_cons] at hmem'
      rcases hmem' with hbefore | rfl | hafter'
      · have hback := hacross other hbefore pass List.mem_cons_self
        exact absurd (hback.trans hprecedes) (Reference.Precedes.irrefl _)
      · exact absurd hprecedes (Reference.Precedes.irrefl _)
      · exact hafter'

/-- Passes in any order substitute if no replacement has a reference in it. -/
theorem substitutes_of_perm (hvars : vars.Tidy) (hflat : vars.Flat)
    {pairs : List (String × String)} (hpairs : pairs.Perm vars.table.entries)
    (h : Text.Template text) : vars.Substitutes text (pairs.foldl replaceVar text) := by
  rw [foldl_replaceVar]
  refine expands_applyAll hvars (fun _ => mem_passes_iff_counts hpairs) ?_ h
  intro before pass after hsplit
  have hmem : pass ∈ Variables.passes pairs := by simp [hsplit]
  have hplain := hflat.replacement ((mem_passes_iff hpairs).1 hmem)
  rw [Pass.applyAll_of_notMem after hplain]
  exact .refl_of_notMem hplain

end

theorem toList_expand (vars : Variables) (text : String) :
    (vars.expand text).toList = vars.table.entries.foldl replaceVar text.toList := by
  rw [expand, String.toList_ofList]

theorem template_expand {vars : Variables} (hvars : vars.Tidy) {text : String}
    (h : Text.Template text.toList) : Text.Template (vars.expand text).toList := by
  rw [toList_expand, foldl_replaceVar]
  exact Pass.template_applyAll
    (fun _ hmem => hvars.sound ((mem_passes_iff (.refl _)).1 hmem)) h

theorem expands_expand {vars : Variables} (hvars : vars.Tidy) {text : String}
    (h : Text.Template text.toList) :
    vars.Expands Reference.Precedes none text.toList (vars.expand text).toList := by
  rw [toList_expand, foldl_replaceVar]
  exact expands_of_pairwise hvars (pairwise_passes vars.table.ascending)
    (fun _ => mem_passes_iff_counts (.refl _)) h

/-- On a template expansion is the rule: it gives the one text in which every reference to a known
variable is replaced, and inside of a replacement every such reference whose form comes later. If no
value holds a reference it is one simultaneous substitution, the variables may be gone through in
any order, and a second expansion changes nothing. -/
theorem expand_is_rule (vars : Variables) (text : String) (hvars : vars.Tidy)
    (htext : Text.IsTemplate text.toList) :
    (∀ out, vars.Expands Reference.Precedes none text.toList out ↔
      out = (vars.expand text).toList) ∧
    (vars.Flat →
      (∀ out, vars.Substitutes text.toList out ↔ out = (vars.expand text).toList) ∧
      (∀ pairs : List (String × String), pairs.Perm vars.table.entries →
        String.ofList (pairs.foldl replaceVar text.toList) = vars.expand text) ∧
      vars.expand (vars.expand text) = vars.expand text) := by
  have htemplate := Text.isTemplate_iff.1 htext
  have hexpands := expands_expand hvars htemplate
  refine ⟨fun out => ⟨fun h => h.unique hvars hexpands, fun h => h ▸ hexpands⟩, fun hflat => ?_⟩
  have hperm : ∀ {pairs : List (String × String)}, pairs.Perm vars.table.entries →
      vars.Substitutes text.toList (pairs.foldl replaceVar text.toList) := fun hpairs =>
    substitutes_of_perm hvars hflat hpairs htemplate
  have hsubstitutes : vars.Substitutes text.toList (vars.expand text).toList := by
    rw [toList_expand]
    exact hperm (.refl _)
  refine ⟨fun out => ⟨fun h => h.unique hvars hsubstitutes, fun h => h ▸ hsubstitutes⟩, ?_, ?_⟩
  · intro pairs hpairs
    rw [(hperm hpairs).unique hvars hsubstitutes, String.ofList_toList]
  · have hagain := expands_expand hvars (template_expand hvars htemplate)
    have hself := hexpands.refl_of_expands fun _ _ hknown => hflat.replacement hknown
    exact String.toList_inj.1 (hagain.unique hvars hself)

/-- A value that refers to a later variable and to its own, whose getter keeps the reference to the
value, and an unknown variable; and two variables whose values hold no reference. -/
theorem expand_is_rule_nested :
    let vars := ofList [("a", "$\x7bb\x7d$\x7ba\x7d"), ("b", "y")]
    let flat := ofList [("a", "x"), ("b", "y")]
    vars.Expands Reference.Precedes none "$\x7ba\x7d-$\x7bget:a\x7d-$\x7bc\x7d".toList
        "y$\x7ba\x7d-gety$\x7ba\x7d()-$\x7bc\x7d".toList ∧
      flat.Substitutes "$\x7bb\x7d$\x7bget:a\x7d".toList "ygetX()".toList ∧
      flat.expand "ygetX()" = "ygetX()" := by
  intro vars flat
  have hvars : vars.Tidy := by
    refine .of_entries (by decide) (by decide) ?_
    have hentries : vars.table.entries = [("a", "$\x7bb\x7d$\x7ba\x7d"), ("b", "y")] := by decide
    have hvalue : "$\x7bb\x7d$\x7ba\x7d".toList =
        Text.braced ['b'] ++ (Text.braced ['a'] ++ []) := by decide
    rw [hentries, List.forall_mem_cons, List.forall_mem_singleton, hvalue]
    exact ⟨.reference (by decide) (.reference (by decide) .nil), .of_notMem (by decide)⟩
  have htext : Text.IsTemplate "$\x7ba\x7d-$\x7bget:a\x7d-$\x7bc\x7d".toList := by
    have hpieces : "$\x7ba\x7d-$\x7bget:a\x7d-$\x7bc\x7d".toList =
        Text.braced ['a'] ++ '-' :: (Text.braced "get:a".toList ++ '-' ::
          (Text.braced ['c'] ++ [])) := by decide
    rw [hpieces, Text.isTemplate_iff]
    exact .reference (by decide) (.plain (by decide) (.reference (by decide)
      (.plain (by decide) (.reference (by decide) .nil))))
  have hplain : ∀ entry ∈ flat.table.entries, '$' ∉ entry.2.toList := by decide
  have htidy : flat.Tidy :=
    .of_entries (by decide) (by decide) fun entry hmem => .of_notMem (hplain entry hmem)
  have hflat : flat.Flat := fun _ _ h => hplain _ ((SortedTable.get?_eq_some_iff _ _ _).1 h)
  have htext' : Text.IsTemplate "$\x7bb\x7d$\x7bget:a\x7d".toList := by
    have hpieces : "$\x7bb\x7d$\x7bget:a\x7d".toList =
        Text.braced ['b'] ++ (Text.braced "get:a".toList ++ []) := by decide
    rw [hpieces, Text.isTemplate_iff]
    exact .reference (by decide) (.reference (by decide) .nil)
  obtain ⟨hsubstitutes, _, hagain⟩ := (expand_is_rule flat _ htidy htext').2 hflat
  have hexpanded : flat.expand "$\x7bb\x7d$\x7bget:a\x7d" = "ygetX()" := by decide +kernel
  rw [hexpanded] at hsubstitutes hagain
  have hnested := (expand_is_rule vars _ hvars htext).1
  have hexpanded' : vars.expand "$\x7ba\x7d-$\x7bget:a\x7d-$\x7bc\x7d" =
      "y$\x7ba\x7d-gety$\x7ba\x7d()-$\x7bc\x7d" := by decide +kernel
  rw [hexpanded'] at hnested
  exact ⟨(hnested _).2 rfl, (hsubstitutes _).2 rfl, hagain⟩

end Variables

end SourceEmitter
