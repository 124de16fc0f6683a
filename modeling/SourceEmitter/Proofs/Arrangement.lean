import Mathlib.Data.List.ReduceOption
import SourceEmitter.Proofs.History

/-!
# Arranging a history

A queue of positions, in which an entry that was blanked holds none, arranges every history: what
was written and what still waits, taken together, stay a faithful order at every event.
-/

namespace SourceEmitter

/-- Positions that were written, in order, and the entries of the queue. -/
structure Arrangement where
  written : List Nat
  queue : List (Option Nat)
deriving DecidableEq, Repr

namespace Arrangement

def empty : Arrangement := ⟨[], []⟩

def waiting (a : Arrangement) : List Nat := a.queue.reduceOption

/-- What was written, and behind it what waits. -/
def order (a : Arrangement) : List Nat := a.written ++ a.waiting

/-- The arrangement behind an event at a position. -/
def step (a : Arrangement) (position : Nat) : Event → Arrangement
  | .direct _ => { a with written := a.written ++ [position] }
  | .queued _ => { a with queue := a.queue ++ [some position] }
  | .released => ⟨a.order, []⟩
  | .releasedFirst keepsEntry =>
    match a.queue with
    | [] => a
    | first :: rest =>
      ⟨a.written ++ first.toList, if keepsEntry then none :: rest else rest⟩

theorem written_subset_step (a : Arrangement) (position : Nat) (e : Event) {i : Nat}
    (hi : i ∈ a.written) : i ∈ (a.step position e).written := by
  cases e with
  | direct text => exact List.mem_append_left _ hi
  | queued text => exact hi
  | released => exact List.mem_append_left _ hi
  | releasedFirst keepsEntry =>
    obtain ⟨written, queue⟩ := a
    cases queue with
    | nil => exact hi
    | cons first rest => exact List.mem_append_left _ hi

theorem order_queued (a : Arrangement) (position : Nat) (text : String) :
    (a.step position (.queued text)).order = a.order ++ [position] := by
  simp [order, waiting, step, List.reduceOption_append]

theorem order_released (a : Arrangement) (position : Nat) :
    (a.step position .released).order = a.order := by
  simp [order, waiting, step]

/-- Releasing the first entry moves it from the front of the queue to the end of what was written,
where it already stood in the order. -/
theorem order_releasedFirst (a : Arrangement) (position : Nat) (keepsEntry : Bool) :
    (a.step position (.releasedFirst keepsEntry)).order = a.order := by
  obtain ⟨written, queue⟩ := a
  cases queue with
  | nil => rfl
  | cons first rest => cases first <;> cases keepsEntry <;> simp [order, waiting, step]

/-- An arrangement of a history, with what has to have been written and what has to wait. -/
structure Fits (h : History) (a : Arrangement) : Prop where
  arranges : h.Arranges a.order
  direct_written : ∀ {i}, h.IsDirect i → i ∈ a.written
  released_written : ∀ {i k}, h.IsQueued i → h.ReleasesAll k → i < k → i ∈ a.written
  quiet_waiting : ∀ {i}, h.IsQueued i → h.QuietBehind i → i ∈ a.waiting

theorem fits_empty : Fits [] empty where
  arranges := by
    have hd : ∀ {i}, ¬History.IsDirect [] i := fun hi => absurd hi.lt (Nat.not_lt_zero _)
    have hq : ∀ {i}, ¬History.IsQueued [] i := fun hi => absurd hi.lt (Nat.not_lt_zero _)
    exact ⟨fun i => ⟨fun hi => absurd hi List.not_mem_nil, fun hi => (hi.elim hd hq).elim⟩, .nil,
      fun hi => absurd hi hd, fun hi => absurd hi hq, fun hi => absurd hi hd,
      fun hi => absurd hi hq, fun hi => absurd hi hq⟩
  direct_written hi := absurd hi.lt (Nat.not_lt_zero _)
  released_written hi := absurd hi.lt (Nat.not_lt_zero _)
  quiet_waiting hi := absurd hi.lt (Nat.not_lt_zero _)

variable {h : History} {a : Arrangement}

theorem Fits.lt_length (hf : Fits h a) {i : Nat} (hi : i ∈ a.order) : i < h.length :=
  ((hf.arranges.complete i).1 hi).elim History.IsDirect.lt History.IsQueued.lt

theorem Fits.length_notMem (hf : Fits h a) : h.length ∉ a.order :=
  fun hm => Nat.lt_irrefl _ (hf.lt_length hm)

/-- The new position of a direct text stands between what was written and what waits. -/
theorem Fits.arranges_direct (hf : Fits h a) (text : String) :
    History.Arranges (h ++ [.direct text]) (a.step h.length (.direct text)).order := by
  have horder : (a.step h.length (.direct text)).order =
      a.written ++ h.length :: a.waiting := by
    simp [order, waiting, step]
  have hnew := History.getElem?_snoc_length h (.direct text)
  have hdirect : History.IsDirect (h ++ [.direct text]) h.length := ⟨text, hnew⟩
  have hfront : ∀ {i}, i ∈ a.written → [i, h.length].Sublist (a.written ++ h.length :: a.waiting) :=
    fun hi => (List.singleton_sublist.2 hi).append (.cons_cons _ (List.nil_sublist _))
  rw [horder]
  apply hf.arranges.snoc
  · exact (List.Sublist.refl _).append (List.sublist_cons_self _ _)
  · rw [List.nodup_middle]
    exact List.nodup_cons.2 ⟨hf.length_notMem, hf.arranges.nodup⟩
  · intro i
    rw [List.mem_append, List.mem_cons, order, List.mem_append]
    constructor
    · rintro (hi | rfl | hi)
      · exact .inl (.inl hi)
      · exact .inr ⟨rfl, .inl hdirect⟩
      · exact .inl (.inr hi)
    · rintro ((hi | hi) | ⟨rfl, _⟩)
      · exact .inl hi
      · exact .inr (.inr hi)
      · exact .inr (.inl rfl)
  · exact fun _ _ hi => hfront (hf.direct_written hi)
  · exact fun _ _ _ hi hk hik => hfront (hf.released_written hi hk hik)
  · exact fun _ _ hi hq => (List.nil_sublist _).append
      (.cons_cons _ (List.singleton_sublist.2 (hf.quiet_waiting hi hq)))
  · exact fun hq => absurd hq hdirect.not_queued

/-- The new position of a queued text stands behind all others. -/
theorem Fits.arranges_queued (hf : Fits h a) (text : String) :
    History.Arranges (h ++ [.queued text]) (a.step h.length (.queued text)).order := by
  have hnew := History.getElem?_snoc_length h (.queued text)
  have hqueued : History.IsQueued (h ++ [.queued text]) h.length := ⟨text, hnew⟩
  have hnotDirect : ¬History.IsDirect (h ++ [.queued text]) h.length :=
    fun hd => hd.not_queued hqueued
  rw [order_queued]
  apply hf.arranges.snoc
  · exact List.sublist_append_left _ _
  · rw [← List.concat_eq_append]
    exact hf.arranges.nodup.concat hf.length_notMem
  · intro i
    rw [List.mem_append, List.mem_singleton]
    exact or_congr_right ⟨fun hi => ⟨hi, .inr (hi ▸ hqueued)⟩, fun hi => hi.1⟩
  · exact fun hd => absurd hd hnotDirect
  · exact fun hd => absurd hd hnotDirect
  · exact fun hd => absurd hd hnotDirect
  · exact fun _ _ hi => (List.singleton_sublist.2 hi).append (List.Sublist.refl _)

/-- A release has no text, so the order stays. -/
theorem Fits.arranges_release (hf : Fits h a) {e : Event} (hd : ∀ text, e ≠ .direct text)
    (hq : ∀ text, e ≠ .queued text) : History.Arranges (h ++ [e]) a.order := by
  have hnotDirect : ¬History.IsDirect (h ++ [e]) h.length := by
    rintro ⟨text, ht⟩
    exact hd text (Option.some.inj ((History.getElem?_snoc_length h e).symm.trans ht))
  have hnotQueued : ¬History.IsQueued (h ++ [e]) h.length := by
    rintro ⟨text, ht⟩
    exact hq text (Option.some.inj ((History.getElem?_snoc_length h e).symm.trans ht))
  apply hf.arranges.snoc
  · exact List.Sublist.refl _
  · exact hf.arranges.nodup
  · intro i
    refine ⟨.inl, ?_⟩
    rintro (hi | ⟨rfl, hi⟩)
    · exact hi
    · exact absurd hi (not_or.2 ⟨hnotDirect, hnotQueued⟩)
  · exact fun hd => absurd hd hnotDirect
  · exact fun hd => absurd hd hnotDirect
  · exact fun hd => absurd hd hnotDirect
  · exact fun hq => absurd hq hnotQueued

/-- Every event keeps the arrangement of its history. -/
theorem Fits.step (hf : Fits h a) (e : Event) : Fits (h ++ [e]) (a.step h.length e) where
  arranges := by
    cases e with
    | direct text => exact hf.arranges_direct text
    | queued text => exact hf.arranges_queued text
    | released =>
      rw [order_released]
      exact hf.arranges_release (fun _ => Event.noConfusion) (fun _ => Event.noConfusion)
    | releasedFirst keepsEntry =>
      rw [order_releasedFirst]
      exact hf.arranges_release (fun _ => Event.noConfusion) (fun _ => Event.noConfusion)
  direct_written {i} hi := by
    rcases History.lt_or_eq_of_lt_snoc hi.lt with hlt | rfl
    · exact written_subset_step a _ e (hf.direct_written ((History.isDirect_snoc e hlt).1 hi))
    · obtain ⟨text, ht⟩ := hi
      rw [History.getElem?_snoc_length] at ht
      cases ht
      exact List.mem_append_right _ List.mem_cons_self
  released_written {i k} hi hk hik := by
    have hkl := History.lt_length_of_getElem? hk
    rcases History.lt_or_eq_of_lt_snoc hkl with hlt | rfl
    · have hi' := (History.isQueued_snoc e (Nat.lt_trans hik hlt)).1 hi
      have hk' := (History.getElem?_snoc_of_lt e hlt).symm.trans hk
      exact written_subset_step a _ e (hf.released_written hi' hk' hik)
    · have hi' := (History.isQueued_snoc e hik).1 hi
      obtain rfl : e = .released :=
        Option.some.inj ((History.getElem?_snoc_length h e).symm.trans hk)
      exact (hf.arranges.complete i).2 (.inr hi')
  quiet_waiting {i} hi hq := by
    have hnew := History.getElem?_snoc_length h e
    rcases History.lt_or_eq_of_lt_snoc hi.lt with hlt | rfl
    · have hwait := hf.quiet_waiting ((History.isQueued_snoc e hlt).1 hi) hq.of_snoc
      obtain ⟨hall, hfirst⟩ := hq h.length hlt
      cases e with
      | direct text => exact hwait
      | queued text =>
        rw [waiting, Arrangement.step, List.reduceOption_append]
        exact List.mem_append_left _ hwait
      | released => exact absurd hnew hall
      | releasedFirst keepsEntry => exact absurd ⟨keepsEntry, hnew⟩ hfirst
    · obtain ⟨text, ht⟩ := hi
      obtain rfl : e = .queued text := Option.some.inj (hnew.symm.trans ht)
      rw [waiting, Arrangement.step, List.reduceOption_append]
      exact List.mem_append_right _ List.mem_cons_self

end Arrangement

end SourceEmitter
