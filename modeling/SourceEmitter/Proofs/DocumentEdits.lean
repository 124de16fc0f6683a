import Mathlib.Logic.Relation
import SourceEmitter.Toml.Record

/-!
# Edits that a document may take

A shape says what a reader knows of a value: the keys of a table, what counts where a key is left
out, and the shapes inside. An edit leaves out a key that has the value which counts anyway, adds a
key that nobody knows, or edits a value further inside. A decoder that looks its fields up by key
reads the same behind an edit as before it; the lemmas here derive that from its parts.
-/

namespace SourceEmitter.Toml

/-- What a reader knows of the value under a key: the value that counts where the key is left out,
if the key may be left out, and the shape of the value. -/
structure Field (α : Type) where
  fallback : Option Value
  inside : α

/-- What a reader knows of a value. Of a plain value nothing may be edited. -/
inductive Shape where
  | plain
  | list (item : Shape)
  | table (fields : List (String × Field Shape))

namespace Field

/-- A key that has to be there, or one that stands for no text where it is left out. -/
def bare : Field Shape := ⟨none, .plain⟩

def text (fallback : String) : Field Shape := ⟨some (.text fallback), .plain⟩

def texts : Field Shape := ⟨some (.array []), .plain⟩

def list (item : Shape) : Field Shape := ⟨some (.array []), .list item⟩

end Field

/-- An edit of a value at one place. -/
inductive Edit : Shape → Value → Value → Prop
  | leaveOut {fields : List (String × Field Shape)} {entries : List (String × Value)} {key : String}
      {field : Field Shape} (known : fields.lookup key = some field)
      (counts : ∀ value, (key, value) ∈ entries → field.fallback = some value) :
      Edit (.table fields) (.table entries) (.table (entries.filter (·.1 ≠ key)))
  | add {fields : List (String × Field Shape)} {front back : List (String × Value)} {key : String}
      (unknown : fields.lookup key = none) (value : Value) :
      Edit (.table fields) (.table (front ++ back)) (.table (front ++ (key, value) :: back))
  | entry {fields : List (String × Field Shape)} {front back : List (String × Value)}
      {key : String} {field : Field Shape} {value other : Value}
      (known : fields.lookup key = some field) (edit : Edit field.inside value other) :
      Edit (.table fields) (.table (front ++ (key, value) :: back))
        (.table (front ++ (key, other) :: back))
  | item {shape : Shape} {front back : List Value} {value other : Value}
      (edit : Edit shape value other) :
      Edit (.list shape) (.array (front ++ value :: back)) (.array (front ++ other :: back))

/-- Any number of edits, one after the other. -/
def Edits (shape : Shape) : Value → Value → Prop := Relation.ReflTransGen (Edit shape)

namespace Edits

theorem entry (front back : List (String × Value)) {fields : List (String × Field Shape)}
    {key : String} {field : Field Shape} {value other : Value}
    (known : fields.lookup key = some field) (h : Edits field.inside value other) :
    Edits (.table fields) (.table (front ++ (key, value) :: back))
      (.table (front ++ (key, other) :: back)) := by
  induction h with
  | refl => exact .refl
  | tail _ hedit ih => exact ih.tail (.entry known hedit)

theorem item (front back : List Value) {shape : Shape} {value other : Value}
    (h : Edits shape value other) :
    Edits (.list shape) (.array (front ++ value :: back)) (.array (front ++ other :: back)) := by
  induction h with
  | refl => exact .refl
  | tail _ hedit ih => exact ih.tail (.item hedit)

/-- Keys whose values count anyway may be left out together. -/
theorem leaveOut (keys : List String) {fields : List (String × Field Shape)}
    {entries : List (String × Value)} (h : ∀ key ∈ keys, ∃ field, fields.lookup key = some field ∧
      ∀ value, (key, value) ∈ entries → field.fallback = some value) :
    Edits (.table fields) (.table entries) (.table (entries.filter (·.1 ∉ keys))) := by
  induction keys with
  | nil =>
    have hall : entries.filter (·.1 ∉ []) = entries := by simp
    rw [hall]
    exact .refl
  | cons key rest ih =>
    obtain ⟨field, known, counts⟩ := h key List.mem_cons_self
    have hrest := ih fun other hother => h other (List.mem_cons_of_mem _ hother)
    have hfilter : entries.filter (·.1 ∉ key :: rest) =
        (entries.filter (·.1 ∉ rest)).filter (·.1 ≠ key) := by
      simp [List.filter_filter]
    rw [hfilter]
    exact hrest.tail (.leaveOut known fun value hvalue => counts value (List.mem_filter.1 hvalue).1)

end Edits

section

variable {front back entries : List (String × Value)} {key name : String} {value : Value}

@[simp] theorem Value.lookup_nil : lookup [] key = none := rfl

theorem Value.lookup_append :
    lookup (front ++ back) key = (lookup front key).or (lookup back key) := by
  rw [lookup, List.find?_append, Option.map_or, lookup, lookup]

@[simp] theorem Value.lookup_cons :
    lookup ((name, value) :: entries) key =
      if name = key then some value else lookup entries key := by
  by_cases h : name = key <;> simp [lookup, h]

theorem Value.mem_of_lookup (h : lookup entries key = some value) : (key, value) ∈ entries := by
  obtain ⟨entry, hentry, rfl⟩ := Option.map_eq_some_iff.1 h
  obtain rfl : entry.1 = key := by simpa using List.find?_some hentry
  exact List.mem_of_find?_eq_some hentry

theorem Value.lookup_filter_ne :
    lookup (entries.filter (·.1 ≠ name)) key =
      if name = key then none else lookup entries key := by
  induction entries with
  | nil => simp [lookup]
  | cons entry rest ih =>
    obtain ⟨other, value⟩ := entry
    by_cases hother : other = name
    · rw [List.filter_cons_of_neg (by simpa using hother), ih, lookup_cons]
      by_cases hkey : name = key <;> simp [hkey, hother]
    · rw [List.filter_cons_of_pos (by simpa using hother), lookup_cons, ih, lookup_cons]
      by_cases hkey : name = key <;> simp [hkey]
      exact fun h => hother (h.trans hkey.symm)

end

/-- What an edit of a table does to the value under a key that is known. -/
inductive EntryEdit (field : Field Shape) : Option Value → Option Value → Prop
  | same {value : Option Value} : EntryEdit field value value
  | leftOut {value : Value} (counts : field.fallback = some value) :
      EntryEdit field (some value) none
  | edited {value other : Value} (edit : Edit field.inside value other) :
      EntryEdit field (some value) (some other)

/-- An edit of a table as it shows under the keys that are known. -/
structure TableEdit (fields : List (String × Field Shape))
    (entries others : List (String × Value)) : Prop where
  each : ∀ {key : String} {field : Field Shape}, fields.lookup key = some field →
    EntryEdit field (Value.lookup entries key) (Value.lookup others key)

theorem Edit.tableEdit {fields : List (String × Field Shape)} {value other : Value}
    (h : Edit (.table fields) value other) :
    ∃ entries others, value = .table entries ∧ other = .table others ∧
      TableEdit fields entries others := by
  cases h with
  | @leaveOut _ entries name left known counts =>
    refine ⟨_, _, rfl, rfl, ⟨fun {key field} hfield => ?_⟩⟩
    rw [Value.lookup_filter_ne]
    split
    next hkey =>
      subst hkey
      obtain rfl : left = field := Option.some.inj (known.symm.trans hfield)
      cases hvalue : Value.lookup entries name with
      | none => exact .same
      | some value => exact .leftOut (counts value (Value.mem_of_lookup hvalue))
    next => exact .same
  | @add _ front back name unknown added =>
    refine ⟨_, _, rfl, rfl, ⟨fun {key field} hfield => ?_⟩⟩
    have hkey : name ≠ key := by
      rintro rfl
      rw [unknown] at hfield
      cases hfield
    rw [Value.lookup_append, Value.lookup_append, Value.lookup_cons, if_neg hkey]
    exact .same
  | @entry _ front back name edited value other known edit =>
    refine ⟨_, _, rfl, rfl, ⟨fun {key field} hfield => ?_⟩⟩
    rw [Value.lookup_append, Value.lookup_append, Value.lookup_cons, Value.lookup_cons]
    by_cases hkey : name = key
    · subst hkey
      obtain rfl : edited = field := Option.some.inj (known.symm.trans hfield)
      rw [if_pos rfl, if_pos rfl]
      cases Value.lookup front name with
      | none => exact .edited edit
      | some first => exact .same
    · rw [if_neg hkey, if_neg hkey]
      exact .same

/-- A decoder that reads a value behind an edit as it reads it before. -/
def Ignores {α : Type} (shape : Shape) (decode : Value → Option α) : Prop :=
  ∀ value other, Edit shape value other → decode other = decode value

section

variable {α : Type} {decode : Value → Option α} {shape : Shape}

theorem Ignores.plain : Ignores .plain decode := nofun

theorem Ignores.list (h : Ignores shape decode) : Ignores (.list shape) (Value.list? decode) := by
  intro value other hedit
  cases hedit with
  | item edit => simp only [Value.list?, List.mapM_append, List.mapM_cons, h _ _ edit]

/-- A decoder of records is judged by what an edit shows under the keys that are known. -/
theorem Ignores.record {fields : List (String × Field Shape)} {read : Record → Option α}
    (h : ∀ entries others, TableEdit fields entries others →
      read (.named others) = read (.named entries)) :
    Ignores (.table fields) fun value => value.record?.bind read := by
  intro value other hedit
  obtain ⟨entries, others, rfl, rfl, htable⟩ := hedit.tableEdit
  exact h entries others htable

theorem Ignores.edits (h : Ignores shape decode) {value other : Value}
    (hedits : Edits shape value other) : decode other = decode value := by
  induction hedits with
  | refl => rfl
  | tail _ hedit ih => exact (h _ _ hedit).trans ih

end

/-- A decoder of the value under a key reads an edited entry as it was, if a value that may be left
out reads as what counts in its absence. -/
theorem EntryEdit.read {α : Type} {decode : Value → Option α} {field : Field Shape}
    {before after : Option Value} (h : EntryEdit field before after)
    (hdecode : Ignores field.inside decode) {absent : Option α}
    (habsent : ∀ value, field.fallback = some value → decode value = absent) :
    after.elim absent decode = before.elim absent decode := by
  cases h with
  | same => rfl
  | leftOut counts => exact (habsent _ counts).symm
  | edited edit => exact hdecode _ _ edit

@[simp] theorem Value.record?_table (entries : List (String × Value)) :
    (Value.table entries).record? = some (.named entries) := rfl

section

variable {α : Type} (entries : List (String × Value)) (place : Nat) (key : String)
  (decode : Value → Option α)

@[simp] theorem Record.require_named :
    (named entries).require place key decode = (Value.lookup entries key).elim none decode := by
  change (Value.lookup entries key).bind decode = _
  cases Value.lookup entries key <;> rfl

@[simp] theorem Record.default_named (absent : α) :
    (named entries).default place key decode absent =
      (Value.lookup entries key).elim (some absent) decode := by
  rw [default, find?]
  cases Value.lookup entries key <;> rfl

@[simp] theorem Record.optionalText_named :
    (named entries).optionalText place key = (Value.lookup entries key).mapM Value.text? := by
  rw [optionalText, default_named]
  cases Value.lookup entries key <;> rfl

end

namespace TableEdit

variable {α : Type} {fields : List (String × Field Shape)} {entries others : List (String × Value)}
  {decode : Value → Option α} {shape : Shape}

theorem default (h : TableEdit fields entries others) (place : Nat) (key : String)
    (hdecode : Ignores shape decode) {fallback : Value}
    (hfield : fields.lookup key = some ⟨some fallback, shape⟩) {absent : α}
    (habsent : decode fallback = some absent) :
    (Record.named others).default place key decode absent =
      (Record.named entries).default place key decode absent := by
  rw [Record.default_named, Record.default_named]
  refine (h.each hfield).read hdecode ?_
  rintro _ ⟨⟩
  exact habsent

theorem requireText (h : TableEdit fields entries others) (place : Nat) (key : String)
    (hfield : fields.lookup key = some .bare) :
    (Record.named others).require place key Value.text? =
      (Record.named entries).require place key Value.text? := by
  rw [Record.require_named, Record.require_named]
  exact (h.each hfield).read .plain nofun

theorem optionalText (h : TableEdit fields entries others) (place : Nat) (key : String)
    (hfield : fields.lookup key = some .bare) :
    (Record.named others).optionalText place key =
      (Record.named entries).optionalText place key := by
  rw [Record.optionalText, Record.optionalText, Record.default_named, Record.default_named]
  exact (h.each hfield).read .plain nofun

theorem text (h : TableEdit fields entries others) (place : Nat) (key : String) {fallback : String}
    (hfield : fields.lookup key = some (.text fallback)) :
    (Record.named others).default place key Value.text? fallback =
      (Record.named entries).default place key Value.text? fallback :=
  h.default place key .plain hfield rfl

theorem list (h : TableEdit fields entries others) (place : Nat) (key : String) {item : Shape}
    (hdecode : Ignores item decode) (hfield : fields.lookup key = some (.list item)) :
    (Record.named others).default place key (Value.list? decode) [] =
      (Record.named entries).default place key (Value.list? decode) [] :=
  h.default place key hdecode.list hfield rfl

theorem texts (h : TableEdit fields entries others) (place : Nat) (key : String)
    (hfield : fields.lookup key = some .texts) :
    (Record.named others).default place key Value.texts? [] =
      (Record.named entries).default place key Value.texts? [] :=
  h.default place key .plain hfield rfl

end TableEdit

end SourceEmitter.Toml
