import SourceEmitter.Proofs.Template

/-!
# The rule of expansion

What expansion means on templates, as a rule about references. A reference to a known variable
becomes what its form makes of the value, and inside of that only those references are replaced that
come later; all other text is kept. The rule gives one result if the references of different
variables and forms read differently.
-/

namespace SourceEmitter

/-- The place of a form among the forms. -/
def ReferenceForm.rank : ReferenceForm → Nat
  | value => 0
  | getter => 1
  | setter => 2

theorem getter_marker_ne_setter_marker (name other : String) :
    "get:" ++ name ≠ "set:" ++ other := by
  intro h
  have hchars := congrArg String.toList h
  rw [String.toList_append, String.toList_append] at hchars
  exact absurd (List.cons.inj hchars).1 (by decide)

/-- References in two forms read the same only if one name is a marker and the other name. -/
theorem ReferenceForm.eq_of_marker_append {form form' : ReferenceForm} {name other : String}
    (h : form.marker ++ name = form'.marker ++ other)
    (hname : name ≠ "get:" ++ other ∧ name ≠ "set:" ++ other)
    (hother : other ≠ "get:" ++ name ∧ other ≠ "set:" ++ name) : form = form' := by
  have hempty : ∀ text, value.marker ++ text = text := fun _ => String.empty_append
  cases form with
  | value =>
    rw [hempty] at h
    cases form' with
    | value => rfl
    | getter => exact absurd h hname.1
    | setter => exact absurd h hname.2
  | getter =>
    cases form' with
    | value =>
      rw [hempty] at h
      exact absurd h.symm hother.1
    | getter => rfl
    | setter => exact absurd h (getter_marker_ne_setter_marker name other)
  | setter =>
    cases form' with
    | value =>
      rw [hempty] at h
      exact absurd h.symm hother.2
    | getter => exact absurd h.symm (getter_marker_ne_setter_marker other name)
    | setter => rfl

/-- A variable in one of its forms. -/
structure Reference where
  name : String
  form : ReferenceForm

namespace Reference

/-- What stands between the braces. -/
def inner (reference : Reference) : List Char :=
  (reference.form.marker ++ reference.name).toList

/-- References are in the order of their names, and those to one variable in the order of forms. -/
def Precedes (first second : Reference) : Prop :=
  first.name < second.name ∨ first.name = second.name ∧ first.form.rank < second.form.rank

theorem Precedes.trans {first second third : Reference} (h : Precedes first second)
    (h' : Precedes second third) : Precedes first third := by
  rcases h with h | ⟨hname, hrank⟩ <;> rcases h' with h' | ⟨hname', hrank'⟩
  · exact .inl (String.lt_trans h h')
  · exact .inl (hname' ▸ h)
  · exact .inl (hname ▸ h')
  · exact .inr ⟨hname.trans hname', Nat.lt_trans hrank hrank'⟩

theorem Precedes.irrefl (reference : Reference) : ¬Precedes reference reference := by
  rintro (h | ⟨_, h⟩)
  · exact String.lt_irrefl _ h
  · exact Nat.lt_irrefl _ h

theorem toList_reference (reference : Reference) :
    (reference.form.reference reference.name).toList = Text.braced reference.inner := by
  simp [ReferenceForm.reference, inner, Text.braced]

end Reference

namespace Variables

/-- What a reference is replaced by, if its variable is known. -/
def replacement? (vars : Variables) (reference : Reference) : Option (List Char) :=
  (vars.get? reference.name).map fun value => (reference.form.meaning value).toList

/-- Whether a reference is replaced, in the text itself or inside the replacement of another. -/
def Counts (later : Reference → Reference → Prop) (within : Option Reference)
    (reference : Reference) : Prop :=
  ∀ outer, within = some outer → later outer reference

/-- What a text expands to. Inside the replacement of a reference those references count that are
`later` than the replaced one; all others are kept, as are references to unknown variables. -/
inductive Expands (vars : Variables) (later : Reference → Reference → Prop) :
    Option Reference → List Char → List Char → Prop
  | nil {within : Option Reference} : Expands vars later within [] []
  | plain {within : Option Reference} {c : Char} {rest out : List Char} (hc : c ≠ '$')
      (hrest : Expands vars later within rest out) :
      Expands vars later within (c :: rest) (c :: out)
  | replaced {within : Option Reference} {reference : Reference}
      {replacement inside rest out : List Char}
      (hknown : vars.replacement? reference = some replacement)
      (hcounts : Counts later within reference)
      (hinside : Expands vars later (some reference) replacement inside)
      (hrest : Expands vars later within rest out) :
      Expands vars later within (Text.braced reference.inner ++ rest) (inside ++ out)
  | kept {within : Option Reference} {inner rest out : List Char} (hinner : Text.Bare inner)
      (hunknown : ∀ reference, reference.inner = inner → Counts later within reference →
        vars.replacement? reference = none)
      (hrest : Expands vars later within rest out) :
      Expands vars later within (Text.braced inner ++ rest) (Text.braced inner ++ out)

/-- One simultaneous substitution: nothing inside of a replacement is replaced. -/
def Substitutes (vars : Variables) : List Char → List Char → Prop :=
  vars.Expands (fun _ _ => False) none

/-- Variables whose references can be told apart, and whose values are templates. -/
structure Tidy (vars : Variables) : Prop where
  bare : ∀ name value, vars.get? name = some value → Text.Bare name.toList
  apart : ∀ name value other value', vars.get? name = some value →
    vars.get? other = some value' → name ≠ "get:" ++ other ∧ name ≠ "set:" ++ other
  templates : ∀ name value, vars.get? name = some value → Text.IsTemplate value.toList

/-- Variables whose values hold no reference. -/
def Flat (vars : Variables) : Prop :=
  ∀ name value, vars.get? name = some value → '$' ∉ value.toList

theorem replacement?_eq_some_iff {vars : Variables} {reference : Reference}
    {replacement : List Char} :
    vars.replacement? reference = some replacement ↔
      ∃ value, vars.get? reference.name = some value ∧
        (reference.form.meaning value).toList = replacement := by
  rw [replacement?, Option.map_eq_some_iff]

theorem Flat.replacement {vars : Variables} (h : vars.Flat) {reference : Reference}
    {replacement : List Char} (hknown : vars.replacement? reference = some replacement) :
    '$' ∉ replacement := by
  obtain ⟨value, hvalue, rfl⟩ := replacement?_eq_some_iff.1 hknown
  have hplain := h _ _ hvalue
  have hcapital := Text.capitalize_ne_dollar hplain
  cases reference.form with
  | value => exact hplain
  | getter | setter => simp [ReferenceForm.meaning, hcapital]

theorem Tidy.of_entries {vars : Variables}
    (hbare : ∀ entry ∈ vars.table.entries, Text.Bare entry.1.toList)
    (hapart : ∀ entry ∈ vars.table.entries, ∀ other ∈ vars.table.entries,
      entry.1 ≠ "get:" ++ other.1 ∧ entry.1 ≠ "set:" ++ other.1)
    (htemplates : ∀ entry ∈ vars.table.entries, Text.Template entry.2.toList) : vars.Tidy := by
  have hmem : ∀ name value, vars.get? name = some value → (name, value) ∈ vars.table.entries :=
    fun name value => (SortedTable.get?_eq_some_iff vars.table name value).1
  constructor
  · exact fun _ _ h => hbare _ (hmem _ _ h)
  · exact fun _ _ _ _ h h' => hapart _ (hmem _ _ h) _ (hmem _ _ h')
  · exact fun _ _ h => Text.isTemplate_iff.2 (htemplates _ (hmem _ _ h))

namespace Tidy

variable {vars : Variables} {reference other : Reference} {replacement : List Char}

theorem bare_inner (h : vars.Tidy) (hknown : vars.replacement? reference = some replacement) :
    Text.Bare reference.inner := by
  obtain ⟨value, hvalue, _⟩ := replacement?_eq_some_iff.1 hknown
  have hname := h.bare _ _ hvalue
  have hmarker : Text.Bare reference.form.marker.toList := by
    rw [Text.Bare]
    cases reference.form <;> decide
  simp only [Text.Bare, Reference.inner, String.toList_append, List.mem_append, not_or]
  exact ⟨⟨hmarker.1, hname.1⟩, ⟨hmarker.2, hname.2⟩⟩

theorem template_replacement (h : vars.Tidy)
    (hknown : vars.replacement? reference = some replacement) : Text.Template replacement := by
  obtain ⟨value, hvalue, rfl⟩ := replacement?_eq_some_iff.1 hknown
  have htemplate := Text.isTemplate_iff.1 (h.templates _ _ hvalue)
  have hplain : ∀ word : String, '$' ∉ word.toList → Text.Template word.toList :=
    fun _ => Text.Template.of_notMem
  cases reference.form with
  | value => exact htemplate
  | getter =>
    simp only [ReferenceForm.meaning, String.toList_append]
    exact ((hplain "get" (by decide)).append htemplate.capitalize).append
      (hplain "()" (by decide))
  | setter =>
    simp only [ReferenceForm.meaning, String.toList_append]
    exact (hplain "set" (by decide)).append htemplate.capitalize

/-- Known references that read the same are the same. -/
theorem eq_of_inner (h : vars.Tidy) {replacement' : List Char}
    (hknown : vars.replacement? reference = some replacement)
    (hother : vars.replacement? other = some replacement')
    (hinner : reference.inner = other.inner) : reference = other := by
  obtain ⟨value, hvalue, _⟩ := replacement?_eq_some_iff.1 hknown
  obtain ⟨value', hvalue', _⟩ := replacement?_eq_some_iff.1 hother
  have happart := h.apart _ _ _ _ hvalue hvalue'
  have happart' := h.apart _ _ _ _ hvalue' hvalue
  obtain ⟨name, form⟩ := reference
  obtain ⟨name', form'⟩ := other
  have htexts : form.marker ++ name = form'.marker ++ name' := String.toList_inj.1 hinner
  obtain rfl := ReferenceForm.eq_of_marker_append htexts happart happart'
  have hlists : form.marker.toList ++ name.toList = form.marker.toList ++ name'.toList := by
    rw [← String.toList_append, ← String.toList_append, htexts]
  obtain rfl : name = name' := String.toList_inj.1 (List.append_cancel_left hlists)
  rfl

end Tidy

namespace Expands

variable {vars : Variables} {later : Reference → Reference → Prop} {within : Option Reference}
  {inner rest text out other : List Char}

theorem of_notMem (h : '$' ∉ text) (hrest : vars.Expands later within rest out) :
    vars.Expands later within (text ++ rest) (text ++ out) := by
  induction text with
  | nil => exact hrest
  | cons c more ih =>
    rw [List.mem_cons, not_or] at h
    exact .plain (Ne.symm h.1) (ih h.2)

theorem refl_of_notMem (h : '$' ∉ text) : vars.Expands later within text text := by
  have hnil : vars.Expands later within (text ++ []) (text ++ []) := of_notMem h .nil
  rwa [List.append_nil] at hnil

theorem nil_inversion (h : vars.Expands later within [] out) : out = [] := by
  generalize htext : ([] : List Char) = text at h
  cases h with
  | nil => rfl
  | plain => cases htext
  | replaced | kept => cases htext

theorem plain_inversion {c : Char} (hc : c ≠ '$')
    (h : vars.Expands later within (c :: rest) out) :
    ∃ out', out = c :: out' ∧ vars.Expands later within rest out' := by
  generalize htext : c :: rest = text at h
  cases h with
  | nil => cases htext
  | plain _ hrest =>
    cases htext
    exact ⟨_, rfl, hrest⟩
  | replaced | kept =>
    rw [Text.braced_append] at htext
    exact absurd (List.cons.inj htext).1 hc

theorem braced_inversion (hvars : vars.Tidy) (hinner : Text.Bare inner)
    (h : vars.Expands later within (Text.braced inner ++ rest) out) :
    (∃ reference replacement inside out', reference.inner = inner ∧
      vars.replacement? reference = some replacement ∧ Counts later within reference ∧
      vars.Expands later (some reference) replacement inside ∧
      vars.Expands later within rest out' ∧ out = inside ++ out') ∨
    ((∀ reference, reference.inner = inner → Counts later within reference →
        vars.replacement? reference = none) ∧
      ∃ out', vars.Expands later within rest out' ∧ out = Text.braced inner ++ out') := by
  generalize htext : Text.braced inner ++ rest = text at h
  cases h with
  | nil => cases htext
  | plain hc =>
    rw [Text.braced_append] at htext
    exact absurd (List.cons.inj htext).1.symm hc
  | replaced hknown hcounts hinside hrest =>
    obtain ⟨hsame, rfl⟩ := Text.braced_append_inj hinner (hvars.bare_inner hknown) htext
    exact .inl ⟨_, _, _, _, hsame.symm, hknown, hcounts, hinside, hrest, rfl⟩
  | kept hother hunknown hrest =>
    obtain ⟨rfl, rfl⟩ := Text.braced_append_inj hinner hother htext
    exact .inr ⟨hunknown, _, hrest, rfl⟩

theorem eq_of_notMem (h : '$' ∉ text) (hexpands : vars.Expands later within text out) :
    out = text := by
  induction text generalizing out with
  | nil => exact hexpands.nil_inversion
  | cons c rest ih =>
    rw [List.mem_cons, not_or] at h
    obtain ⟨out', rfl, hrest⟩ := plain_inversion (Ne.symm h.1) hexpands
    rw [ih h.2 hrest]

/-- What is left of a text expands to itself if no replacement has a reference in it. -/
theorem refl_of_expands
    (hflat : ∀ reference replacement, vars.replacement? reference = some replacement →
      '$' ∉ replacement)
    (h : vars.Expands later within text out) : vars.Expands later within out out := by
  induction h with
  | nil => exact .nil
  | plain hc _ ih => exact .plain hc ih
  | replaced hknown _ hinside _ _ ih =>
    have hplain := hflat _ _ hknown
    rw [eq_of_notMem hplain hinside]
    exact of_notMem hplain ih
  | kept hinner hunknown _ ih => exact .kept hinner hunknown ih

/-- A text expands in one way. -/
theorem unique (hvars : vars.Tidy) (h : vars.Expands later within text out)
    (h' : vars.Expands later within text other) : out = other := by
  induction h generalizing other with
  | nil => exact h'.nil_inversion.symm
  | plain hc _ ih =>
    obtain ⟨out', rfl, hrest'⟩ := plain_inversion hc h'
    rw [ih hrest']
  | replaced hknown hcounts _ _ ihinside ihrest =>
    rcases braced_inversion hvars (hvars.bare_inner hknown) h' with
      ⟨reference, _, _, _, hsame, hknown', _, hinside', hrest', rfl⟩ | ⟨hunknown, _⟩
    · obtain rfl := hvars.eq_of_inner hknown' hknown hsame
      obtain rfl := Option.some.inj (hknown'.symm.trans hknown)
      rw [ihinside hinside', ihrest hrest']
    · exact nomatch (hunknown _ rfl hcounts).symm.trans hknown
  | kept hinner hunknown _ ih =>
    rcases braced_inversion hvars hinner h' with
      ⟨reference, _, _, _, hsame, hknown', hcounts', _⟩ | ⟨_, out', hrest', rfl⟩
    · exact nomatch (hunknown reference hsame hcounts').symm.trans hknown'
    · rw [ih hrest']

end Expands

end Variables

end SourceEmitter
