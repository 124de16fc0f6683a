/-!
# Tables in key order

A finite map from texts to values, kept as a list with strictly ascending keys. Insertion replaces
the value of a key that is present, so the order of `entries` never depends on the order of
insertion. Texts are compared by code point, which is also the order of their UTF-8 bytes.
-/

namespace SourceEmitter

/-- A map from texts to values, listed in strictly ascending key order. -/
structure SortedTable (α : Type) where
  entries : List (String × α)
  ascending : entries.Pairwise fun a b => a.1 < b.1

namespace SortedTable

variable {α : Type}

def empty : SortedTable α := ⟨[], .nil⟩

/-- Puts a pair at its place in an ascending list, replacing the pair of the same key. -/
def place (key : String) (value : α) : List (String × α) → List (String × α)
  | [] => [(key, value)]
  | entry :: rest =>
    if key < entry.1 then (key, value) :: entry :: rest
    else if key = entry.1 then (key, value) :: rest
    else entry :: place key value rest

theorem mem_place {key : String} {value : α} {entries : List (String × α)} {e : String × α}
    (h : e ∈ place key value entries) : e = (key, value) ∨ e ∈ entries := by
  induction entries with
  | nil => simpa [place] using h
  | cons entry rest ih =>
    unfold place at h
    split at h
    · simpa using h
    · split at h
      · rcases List.mem_cons.1 h with h | h
        · exact .inl h
        · exact .inr (List.mem_cons_of_mem _ h)
      · rcases List.mem_cons.1 h with h | h
        · exact .inr (h ▸ List.mem_cons_self)
        · exact (ih h).imp_right (List.mem_cons_of_mem _)

theorem ascending_place (key : String) (value : α) {entries : List (String × α)}
    (h : entries.Pairwise fun a b => a.1 < b.1) :
    (place key value entries).Pairwise fun a b => a.1 < b.1 := by
  induction entries with
  | nil => simp [place]
  | cons entry rest ih =>
    obtain ⟨hhead, hrest⟩ := List.pairwise_cons.1 h
    unfold place
    split
    next hlt =>
      refine List.pairwise_cons.2 ⟨fun e he => ?_, h⟩
      rcases List.mem_cons.1 he with rfl | he
      · exact hlt
      · exact String.lt_trans hlt (hhead e he)
    next hlt =>
      split
      next heq => exact List.pairwise_cons.2 ⟨fun e he => heq ▸ hhead e he, hrest⟩
      next hne =>
        have hgt : entry.1 < key := by
          rcases Std.lt_trichotomy key entry.1 with h' | h' | h'
          · exact absurd h' hlt
          · exact absurd h' hne
          · exact h'
        refine List.pairwise_cons.2 ⟨fun e he => ?_, ih hrest⟩
        rcases mem_place he with rfl | he
        · exact hgt
        · exact hhead e he

/-- The table with a value put under a key, in place of the value there was. -/
def insert (table : SortedTable α) (key : String) (value : α) : SortedTable α :=
  ⟨place key value table.entries, ascending_place key value table.ascending⟩

def get? (table : SortedTable α) (key : String) : Option α :=
  table.entries.lookup key

def keys (table : SortedTable α) : List String := table.entries.map (·.1)

/-- The table of a list of pairs; of two pairs with one key the later counts. -/
def ofList (pairs : List (String × α)) : SortedTable α :=
  pairs.foldl (fun table pair => table.insert pair.1 pair.2) empty

def isEmpty (table : SortedTable α) : Bool := table.entries.isEmpty

theorem lookup_place (key other : String) (value : α) {entries : List (String × α)}
    (h : entries.Pairwise fun a b => a.1 < b.1) :
    (place key value entries).lookup other =
      if other = key then some value else entries.lookup other := by
  induction entries with
  | nil =>
    by_cases ho : other = key
    · simp [place, ho]
    · simp [place, List.lookup_cons, ho, beq_false_of_ne ho]
  | cons entry rest ih =>
    obtain ⟨name, old⟩ := entry
    obtain ⟨hhead, hrest⟩ := List.pairwise_cons.1 h
    unfold place
    split
    next hlt =>
      by_cases ho : other = key
      · simp [ho]
      · simp [List.lookup_cons, ho, beq_false_of_ne ho]
    next hlt =>
      split
      next heq =>
        have hname : key = name := heq
        subst hname
        by_cases ho : other = key
        · simp [ho]
        · simp [List.lookup_cons, ho, beq_false_of_ne ho]
      next hne =>
        have hname : key ≠ name := hne
        by_cases ho : other = name
        · subst ho
          simp [Ne.symm hname]
        · simp [List.lookup_cons, beq_false_of_ne ho, ih hrest]

/-- Insertion changes the value of its own key and of no other. -/
theorem get?_insert (table : SortedTable α) (key other : String) (value : α) :
    (table.insert key value).get? other =
      if other = key then some value else table.get? other :=
  lookup_place key other value table.ascending

theorem get?_eq_none_iff (table : SortedTable α) (key : String) :
    table.get? key = none ↔ key ∉ table.keys := by
  rw [get?, List.lookup_eq_none_iff, keys, List.mem_map]
  constructor
  · rintro h ⟨entry, hmem, rfl⟩
    exact absurd (h entry hmem) (by simp)
  · intro h entry hmem
    have hne : key ≠ entry.1 := fun hkey => h ⟨entry, hmem, hkey.symm⟩
    simpa using hne

theorem lookup_eq_some_iff {entries : List (String × α)}
    (h : entries.Pairwise fun a b => a.1 < b.1) (key : String) (value : α) :
    entries.lookup key = some value ↔ (key, value) ∈ entries := by
  induction entries with
  | nil => simp
  | cons entry rest ih =>
    obtain ⟨hhead, hrest⟩ := List.pairwise_cons.1 h
    obtain ⟨name, old⟩ := entry
    by_cases hkey : key = name
    · have hnotMem : (key, value) ∉ rest := fun hmem =>
        String.lt_irrefl _ (hkey ▸ hhead _ hmem)
      simp [hkey, hkey ▸ hnotMem, eq_comm]
    · simp [List.lookup_cons, beq_false_of_ne hkey, hkey, ih hrest]

theorem get?_eq_some_iff (table : SortedTable α) (key : String) (value : α) :
    table.get? key = some value ↔ (key, value) ∈ table.entries :=
  lookup_eq_some_iff table.ascending key value

theorem pairwise_keys (table : SortedTable α) : table.keys.Pairwise (· < ·) :=
  List.pairwise_map.2 table.ascending

theorem place_last {key : String} {value : α} {entries : List (String × α)}
    (h : ∀ entry ∈ entries, entry.1 < key) :
    place key value entries = entries ++ [(key, value)] := by
  induction entries with
  | nil => rfl
  | cons entry rest ih =>
    have hlt : entry.1 < key := h entry List.mem_cons_self
    have hne : key ≠ entry.1 := fun heq => String.lt_irrefl _ (heq ▸ hlt)
    have hrest := ih fun other hother => h other (List.mem_cons_of_mem _ hother)
    rw [place, if_neg (String.lt_asymm hlt), if_neg hne, hrest, List.cons_append]

theorem entries_foldl_insert {pairs : List (String × α)} (table : SortedTable α)
    (h : (table.entries ++ pairs).Pairwise fun a b => a.1 < b.1) :
    (pairs.foldl (fun table pair => table.insert pair.1 pair.2) table).entries =
      table.entries ++ pairs := by
  induction pairs generalizing table with
  | nil => exact (List.append_nil _).symm
  | cons pair rest ih =>
    have hbelow := (List.pairwise_append.1 h).2.2
    have hplace : (table.insert pair.1 pair.2).entries = table.entries ++ [pair] :=
      place_last fun entry hentry => hbelow entry hentry pair List.mem_cons_self
    have happend : table.entries ++ pair :: rest = table.entries ++ [pair] ++ rest :=
      List.append_cons ..
    rw [happend, ← hplace] at h ⊢
    exact ih _ h

/-- A table is the table of its entries. -/
theorem ofList_entries (table : SortedTable α) : ofList table.entries = table := by
  have h : (ofList table.entries).entries = table.entries :=
    entries_foldl_insert empty table.ascending
  exact (mk.injEq ..).mpr h

end SortedTable

end SourceEmitter
