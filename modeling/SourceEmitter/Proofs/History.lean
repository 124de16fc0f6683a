import Mathlib.Data.List.Nodup
import Mathlib.Data.List.ReduceOption

/-!
# Histories of texts

A history lists what a writer did with text: it wrote one directly, it queued one, or it released
what was queued, all of it or the first entry. Positions stand for texts, so equal texts are told
apart. `Arranges` says which orders of the positions interleave the direct texts with the queued
ones faithfully, and `Arrangement` finds such an order with a queue in which the first entry may
have been blanked.
-/

namespace SourceEmitter

inductive Event where
  | direct (text : String)
  | queued (text : String)
  | released
  | releasedFirst (keepsEntry : Bool)
deriving DecidableEq, Repr

abbrev History := List Event

namespace History

variable {h : History} {e : Event} {i j k : Nat}

/-- The text at a position; a release has none. -/
def text (h : History) (i : Nat) : String :=
  match h[i]? with
  | some (.direct text) | some (.queued text) => text
  | _ => ""

def IsDirect (h : History) (i : Nat) : Prop := ∃ text, h[i]? = some (.direct text)
def IsQueued (h : History) (i : Nat) : Prop := ∃ text, h[i]? = some (.queued text)
def ReleasesAll (h : History) (i : Nat) : Prop := h[i]? = some .released
def ReleasesFirst (h : History) (i : Nat) : Prop := ∃ keeps, h[i]? = some (.releasedFirst keeps)

/-- An order of positions in which every direct and every queued text stands once, the direct ones
in order and the queued ones in order. A queued text stands behind every direct one that was
written before it was queued, and behind those that were written after it as long as nothing was
released; it stands in front of every direct text that follows a release of the whole queue. -/
structure Arranges (h : History) (order : List Nat) : Prop where
  complete : ∀ i, i ∈ order ↔ h.IsDirect i ∨ h.IsQueued i
  nodup : order.Nodup
  direct_order : ∀ {i j}, h.IsDirect i → h.IsDirect j → i < j → [i, j].Sublist order
  queued_order : ∀ {i j}, h.IsQueued i → h.IsQueued j → i < j → [i, j].Sublist order
  behind_earlier : ∀ {i j}, h.IsDirect i → h.IsQueued j → i < j → [i, j].Sublist order
  before_released : ∀ {i k j}, h.IsQueued i → h.ReleasesAll k → h.IsDirect j → i < k → k < j →
    [i, j].Sublist order
  behind_unreleased : ∀ {i j}, h.IsQueued i → h.IsDirect j → i < j →
    (∀ k, i < k → k < j → ¬h.ReleasesAll k ∧ ¬h.ReleasesFirst k) → [j, i].Sublist order

theorem getElem?_snoc (h : History) (e : Event) (i : Nat) :
    (h ++ [e])[i]? = if i = h.length then some e else h[i]? := by
  rcases Nat.lt_trichotomy i h.length with hlt | heq | hgt
  · rw [List.getElem?_append_left hlt, if_neg (Nat.ne_of_lt hlt)]
  · rw [if_pos heq, heq, List.getElem?_concat_length]
  · rw [if_neg (Nat.ne_of_gt hgt), List.getElem?_eq_none (Nat.le_of_lt hgt)]
    exact List.getElem?_eq_none (by simpa [Nat.succ_le_iff] using hgt)

theorem lt_length_of_getElem? (he : h[i]? = some e) : i < h.length :=
  (List.getElem?_eq_some_iff.1 he).1

theorem IsDirect.lt (hi : h.IsDirect i) : i < h.length := lt_length_of_getElem? hi.choose_spec
theorem IsQueued.lt (hi : h.IsQueued i) : i < h.length := lt_length_of_getElem? hi.choose_spec

theorem IsDirect.not_queued (hi : h.IsDirect i) : ¬h.IsQueued i := by
  obtain ⟨text, ht⟩ := hi
  rintro ⟨text', ht'⟩
  rw [ht] at ht'
  cases ht'

theorem getElem?_snoc_of_lt (e : Event) (hi : i < h.length) : (h ++ [e])[i]? = h[i]? := by
  rw [getElem?_snoc, if_neg (Nat.ne_of_lt hi)]

theorem getElem?_snoc_length (h : History) (e : Event) : (h ++ [e])[h.length]? = some e := by
  rw [getElem?_snoc, if_pos rfl]

theorem text_snoc (e : Event) (hi : i < h.length) : text (h ++ [e]) i = h.text i := by
  simp only [text, getElem?_snoc_of_lt e hi]

theorem isDirect_snoc (e : Event) (hi : i < h.length) :
    IsDirect (h ++ [e]) i ↔ h.IsDirect i := by
  simp only [IsDirect, getElem?_snoc_of_lt e hi]

theorem isQueued_snoc (e : Event) (hi : i < h.length) :
    IsQueued (h ++ [e]) i ↔ h.IsQueued i := by
  simp only [IsQueued, getElem?_snoc_of_lt e hi]

theorem ReleasesAll.snoc (e : Event) (hk : h.ReleasesAll k) : ReleasesAll (h ++ [e]) k :=
  (getElem?_snoc_of_lt e (lt_length_of_getElem? hk)).trans hk

theorem ReleasesFirst.snoc (e : Event) (hk : h.ReleasesFirst k) : ReleasesFirst (h ++ [e]) k := by
  obtain ⟨keeps, hk⟩ := hk
  exact ⟨keeps, (getElem?_snoc_of_lt e (lt_length_of_getElem? hk)).trans hk⟩

/-- Nothing is released behind a position. -/
def QuietBehind (h : History) (i : Nat) : Prop :=
  ∀ k, i < k → ¬h.ReleasesAll k ∧ ¬h.ReleasesFirst k

theorem QuietBehind.of_snoc (hq : QuietBehind (h ++ [e]) i) : h.QuietBehind i := by
  intro k hik
  obtain ⟨hall, hfirst⟩ := hq k hik
  exact ⟨fun hk => hall (hk.snoc e), fun hk => hfirst (hk.snoc e)⟩

theorem lt_or_eq_of_lt_snoc (hi : i < (h ++ [e]).length) : i < h.length ∨ i = h.length := by
  rw [List.length_append, List.length_singleton] at hi
  omega

/-- An order grows with its history: the old pairs keep their places, and the new position has to
stand right towards the old ones. -/
theorem Arranges.snoc {order order' : List Nat} (hA : h.Arranges order)
    (hsub : order.Sublist order') (hnodup : order'.Nodup)
    (hmem : ∀ i, i ∈ order' ↔ i ∈ order ∨
      i = h.length ∧ (IsDirect (h ++ [e]) i ∨ IsQueued (h ++ [e]) i))
    (hdirect : IsDirect (h ++ [e]) h.length → ∀ {i}, h.IsDirect i → [i, h.length].Sublist order')
    (hreleased : IsDirect (h ++ [e]) h.length → ∀ {i k}, h.IsQueued i → h.ReleasesAll k → i < k →
      [i, h.length].Sublist order')
    (hquiet : IsDirect (h ++ [e]) h.length → ∀ {i}, h.IsQueued i → h.QuietBehind i →
      [h.length, i].Sublist order')
    (hqueued : IsQueued (h ++ [e]) h.length → ∀ {i}, i ∈ order → [i, h.length].Sublist order') :
    Arranges (h ++ [e]) order' where
  complete i := by
    rw [hmem, hA.complete]
    constructor
    · rintro ((hi | hi) | ⟨_, hi⟩)
      · exact .inl ((isDirect_snoc e hi.lt).2 hi)
      · exact .inr ((isQueued_snoc e hi.lt).2 hi)
      · exact hi
    · intro hi
      have hlt : i < (h ++ [e]).length := hi.elim IsDirect.lt IsQueued.lt
      rcases lt_or_eq_of_lt_snoc hlt with hlt | heq
      · exact .inl (hi.imp (isDirect_snoc e hlt).1 (isQueued_snoc e hlt).1)
      · exact .inr ⟨heq, hi⟩
  nodup := hnodup
  direct_order {i j} hi hj hij := by
    rcases lt_or_eq_of_lt_snoc hj.lt with hlt | rfl
    · have hi' := (isDirect_snoc e (Nat.lt_trans hij hlt)).1 hi
      exact (hA.direct_order hi' ((isDirect_snoc e hlt).1 hj) hij).trans hsub
    · exact hdirect hj ((isDirect_snoc e hij).1 hi)
  queued_order {i j} hi hj hij := by
    rcases lt_or_eq_of_lt_snoc hj.lt with hlt | rfl
    · have hi' := (isQueued_snoc e (Nat.lt_trans hij hlt)).1 hi
      exact (hA.queued_order hi' ((isQueued_snoc e hlt).1 hj) hij).trans hsub
    · exact hqueued hj ((hA.complete i).2 (.inr ((isQueued_snoc e hij).1 hi)))
  behind_earlier {i j} hi hj hij := by
    rcases lt_or_eq_of_lt_snoc hj.lt with hlt | rfl
    · have hi' := (isDirect_snoc e (Nat.lt_trans hij hlt)).1 hi
      exact (hA.behind_earlier hi' ((isQueued_snoc e hlt).1 hj) hij).trans hsub
    · exact hqueued hj ((hA.complete i).2 (.inl ((isDirect_snoc e hij).1 hi)))
  before_released {i k j} hi hk hj hik hkj := by
    have hkl : k < h.length := by
      rcases lt_or_eq_of_lt_snoc hj.lt with hlt | rfl
      · exact Nat.lt_trans hkj hlt
      · exact hkj
    have hi' := (isQueued_snoc e (Nat.lt_trans hik hkl)).1 hi
    have hk' : h.ReleasesAll k := (getElem?_snoc_of_lt e hkl).symm.trans hk
    rcases lt_or_eq_of_lt_snoc hj.lt with hlt | rfl
    · exact (hA.before_released hi' hk' ((isDirect_snoc e hlt).1 hj) hik hkj).trans hsub
    · exact hreleased hj hi' hk' hik
  behind_unreleased {i j} hi hj hij hbetween := by
    rcases lt_or_eq_of_lt_snoc hj.lt with hlt | rfl
    · have hi' := (isQueued_snoc e (Nat.lt_trans hij hlt)).1 hi
      refine (hA.behind_unreleased hi' ((isDirect_snoc e hlt).1 hj) hij ?_).trans hsub
      intro k hik hkj
      obtain ⟨hall, hfirst⟩ := hbetween k hik hkj
      exact ⟨fun hk => hall (hk.snoc e), fun hk => hfirst (hk.snoc e)⟩
    · refine hquiet hj ((isQueued_snoc e hij).1 hi) ?_
      intro k hik
      constructor
      · intro hk
        exact (hbetween k hik (lt_length_of_getElem? hk)).1 (hk.snoc e)
      · intro hk
        exact (hbetween k hik (lt_length_of_getElem? hk.choose_spec)).2 (hk.snoc e)

end History

end SourceEmitter
