import Mathlib.Data.List.DropRight
import Mathlib.Data.List.Flatten
import Mathlib.Data.List.Perm.Basic
import SourceEmitter.FragmentQueue

/-!
# Fragments leave their queue once, in order

A history of calls is recorded with the texts that each call hands out or drops. A blanked entry has
no text left, so only texts that are not empty are followed. An account of a history names the push
behind every text that is handed out, dropped or still waiting: read call by call, and then what
waits, these are all pushes, each once and in order.
-/

namespace SourceEmitter

/-- A call on a queue of fragments. -/
inductive QueueCall where
  | push (text : String)
  | blankFirst
  | removeFirst
  | handOut
  | handOutAtMost (count : Nat)
deriving DecidableEq, Repr

/-- A call with the texts that it hands out, the texts that it drops unread, and the queue behind
it. -/
structure QueueTurn where
  call : QueueCall
  handed : List String
  unread : List String
  after : FragmentQueue
deriving DecidableEq, Repr

namespace QueueCall

def text? : QueueCall → Option String
  | push text => some text
  | _ => none

/-- Whether a call takes the whole queue, read to the end or not. -/
def drains : QueueCall → Bool
  | handOut | handOutAtMost _ => true
  | _ => false

def turn (queue : FragmentQueue) : QueueCall → QueueTurn
  | push text => ⟨push text, [], [], queue.push text⟩
  | blankFirst => ⟨blankFirst, queue.blankFirst.1.toList, [], queue.blankFirst.2⟩
  | removeFirst => ⟨removeFirst, queue.removeFirst.1.toList, [], queue.removeFirst.2⟩
  | handOut => ⟨handOut, queue.handOut.1, [], queue.handOut.2⟩
  | handOutAtMost count =>
    ⟨handOutAtMost count, (queue.handOutAtMost count).1, queue.fragments.drop count,
      (queue.handOutAtMost count).2⟩

def applyAll (queue : FragmentQueue) (calls : List QueueCall) : FragmentQueue :=
  calls.foldl (fun queue call => (turn queue call).after) queue

/-- Performs calls in order and records their turns. -/
def runAll (queue : FragmentQueue) : List QueueCall → List QueueTurn
  | [] => []
  | call :: rest => turn queue call :: runAll (turn queue call).after rest

@[simp] theorem call_turn (queue : FragmentQueue) (call : QueueCall) :
    (turn queue call).call = call := by
  cases call <;> rfl

theorem applyAll_snoc (queue : FragmentQueue) (calls : List QueueCall) (call : QueueCall) :
    applyAll queue (calls ++ [call]) = (turn (applyAll queue calls) call).after := by
  rw [applyAll, List.foldl_concat]
  rfl

theorem runAll_snoc (queue : FragmentQueue) (calls : List QueueCall) (call : QueueCall) :
    runAll queue (calls ++ [call]) = runAll queue calls ++ [turn (applyAll queue calls) call] := by
  induction calls generalizing queue with
  | nil => rfl
  | cons first rest ih => exact congrArg (turn queue first :: ·) (ih _)

theorem length_runAll (queue : FragmentQueue) (calls : List QueueCall) :
    (runAll queue calls).length = calls.length := by
  induction calls generalizing queue with
  | nil => rfl
  | cons call rest ih => exact congrArg (· + 1) (ih _)

end QueueCall

/-- The texts of a list that are not empty. -/
def nonBlank (texts : List String) : List String := texts.filter (· ≠ "")

theorem nonBlank_append (first second : List String) :
    nonBlank (first ++ second) = nonBlank first ++ nonBlank second :=
  List.filter_append first second

/-- A call moves texts on and keeps their order: those in the queue, and behind them the one that is
pushed, are handed out first, then dropped, and the others stay. -/
theorem QueueCall.nonBlank_turn (queue : FragmentQueue) (call : QueueCall) :
    nonBlank (call.turn queue).handed ++ (nonBlank (call.turn queue).unread ++
      nonBlank (call.turn queue).after.fragments) =
        nonBlank queue.fragments ++ nonBlank call.text?.toList := by
  obtain ⟨fragments⟩ := queue
  cases call with
  | push text => exact nonBlank_append fragments [text]
  | blankFirst =>
    cases fragments with
    | nil => rfl
    | cons first others =>
      have hsplit := nonBlank_append [first] others
      simpa [turn, FragmentQueue.blankFirst, text?, nonBlank] using hsplit.symm
  | removeFirst =>
    cases fragments with
    | nil => rfl
    | cons first others =>
      have hsplit := nonBlank_append [first] others
      simpa [turn, FragmentQueue.removeFirst, text?, nonBlank] using hsplit.symm
  | handOut => simp [turn, FragmentQueue.handOut, text?, nonBlank]
  | handOutAtMost count =>
    have hsplit := nonBlank_append (fragments.take count) (fragments.drop count)
    rw [List.take_append_drop] at hsplit
    simpa [turn, FragmentQueue.handOutAtMost, text?, nonBlank] using hsplit.symm

namespace QueueCall

/-- The calls that push a text which is not empty, by their place in a history. -/
def pushes (calls : List QueueCall) : List Nat :=
  calls.findIdxs fun call => call.text?.any (· ≠ "")

/-- The text that the call at a place pushes. -/
def textAt (calls : List QueueCall) (i : Nat) : String := (calls[i]?.bind text?).getD ""

theorem pairwise_pushes (calls : List QueueCall) : (pushes calls).Pairwise (· < ·) :=
  List.pairwise_findIdxs

theorem lt_length_of_mem_pushes {calls : List QueueCall} {i : Nat} (h : i ∈ pushes calls) :
    i < calls.length := by
  simpa using List.lt_add_of_mem_findIdxs i h

/-- The place of a call behind a history, if the call pushes a text that is not empty. -/
def newPush (calls : List QueueCall) (call : QueueCall) : List Nat :=
  if call.text?.any (· ≠ "") then [calls.length] else []

theorem pushes_snoc (calls : List QueueCall) (call : QueueCall) :
    pushes (calls ++ [call]) = pushes calls ++ newPush calls call := by
  rw [pushes, List.findIdxs_append, List.findIdxs_singleton, Nat.zero_add]
  rfl

theorem map_textAt_snoc {calls : List QueueCall} (call : QueueCall) {places : List Nat}
    (h : ∀ i ∈ places, i < calls.length) :
    places.map (textAt (calls ++ [call])) = places.map (textAt calls) := by
  refine List.map_congr_left fun i hi => ?_
  rw [textAt, List.getElem?_append_left (h i hi), textAt]

theorem map_textAt_newPush (calls : List QueueCall) (call : QueueCall) :
    (newPush calls call).map (textAt (calls ++ [call])) = nonBlank call.text?.toList := by
  have hlast : textAt (calls ++ [call]) calls.length = call.text?.getD "" := by
    rw [textAt, List.getElem?_concat_length, Option.bind_some]
  cases htext : call.text? with
  | none => simp [newPush, htext, nonBlank]
  | some text => by_cases hempty : text = "" <;> simp [newPush, htext, hempty, hlast, nonBlank]

theorem turn_silent_of_newPush {calls : List QueueCall} {call : QueueCall} {i : Nat}
    (queue : FragmentQueue) (h : i ∈ newPush calls call) :
    (call.turn queue).handed = [] ∧ (call.turn queue).unread = [] := by
  cases call with
  | push text => exact ⟨rfl, rfl⟩
  | _ => cases h

end QueueCall

/-- A turn with the places of the pushes whose texts it hands out and drops. -/
structure QueuePage where
  turn : QueueTurn
  handed : List Nat
  unread : List Nat

namespace QueueCall

/-- The texts at these places are those that the turn hands out and drops. -/
structure Names (calls : List QueueCall) (page : QueuePage) : Prop where
  handed : page.handed.map (textAt calls) = nonBlank page.turn.handed
  unread : page.unread.map (textAt calls) = nonBlank page.turn.unread

/-- An account of a history that starts with an empty queue: a page for every turn, and the pushes
whose texts still wait. -/
structure Accounts (calls : List QueueCall) (pages : List QueuePage) (waiting : List Nat) :
    Prop where
  turns : pages.map (·.turn) = runAll .empty calls
  names : ∀ page ∈ pages, Names calls page
  kept : waiting.map (textAt calls) = nonBlank (applyAll .empty calls).fragments
  /-- No text moves before it is pushed. -/
  earlier : ∀ (j : Nat) (page : QueuePage), pages[j]? = some page →
    ∀ i ∈ page.handed ++ page.unread, i < j
  /-- Every push stands on one page, or waits, and all of them in order. -/
  complete : (pages.flatMap fun page => page.handed ++ page.unread) ++ waiting = pushes calls

namespace Accounts

variable {calls : List QueueCall} {pages : List QueuePage} {waiting : List Nat}

theorem nil : Accounts [] [] [] :=
  ⟨rfl, nofun, rfl, nofun, rfl⟩

theorem length_pages (ha : Accounts calls pages waiting) : pages.length = calls.length := by
  rw [← length_runAll .empty calls, ← ha.turns, List.length_map]

theorem lt_length_of_mem_page (ha : Accounts calls pages waiting) {page : QueuePage}
    (hpage : page ∈ pages) {i : Nat} (hi : i ∈ page.handed ++ page.unread) : i < calls.length := by
  refine lt_length_of_mem_pushes (ha.complete ▸ List.mem_append_left _ ?_)
  exact List.mem_flatMap.2 ⟨page, hpage, hi⟩

theorem lt_length_of_mem_waiting (ha : Accounts calls pages waiting) {i : Nat} (hi : i ∈ waiting) :
    i < calls.length :=
  lt_length_of_mem_pushes (ha.complete ▸ List.mem_append_right _ hi)

theorem names_snoc (ha : Accounts calls pages waiting) (call : QueueCall) {page : QueuePage}
    (hpage : page ∈ pages) : Names (calls ++ [call]) page where
  handed := by
    rw [map_textAt_snoc call fun i hi => ha.lt_length_of_mem_page hpage
      (List.mem_append_left _ hi)]
    exact (ha.names page hpage).handed
  unread := by
    rw [map_textAt_snoc call fun i hi => ha.lt_length_of_mem_page hpage
      (List.mem_append_right _ hi)]
    exact (ha.names page hpage).unread

/-- What waits, and behind it what is pushed, goes to the page of the next call and to those that
wait behind it, in this order. -/
theorem exists_page (ha : Accounts calls pages waiting) (call : QueueCall) :
    let turn := call.turn (applyAll .empty calls)
    ∃ handed unread rest, waiting ++ newPush calls call = handed ++ (unread ++ rest) ∧
      Names (calls ++ [call]) ⟨turn, handed, unread⟩ ∧
      rest.map (textAt (calls ++ [call])) = nonBlank turn.after.fragments := by
  intro turn
  have hmoved : (waiting ++ newPush calls call).map (textAt (calls ++ [call])) =
      nonBlank turn.handed ++ (nonBlank turn.unread ++ nonBlank turn.after.fragments) := by
    rw [List.map_append, map_textAt_snoc call fun _ => ha.lt_length_of_mem_waiting, ha.kept,
      map_textAt_newPush, nonBlank_turn]
  obtain ⟨handed, behind, hplaces, hhanded, hbehind⟩ := List.map_eq_append_iff.1 hmoved
  obtain ⟨unread, rest, rfl, hunread, hrest⟩ := List.map_eq_append_iff.1 hbehind
  exact ⟨handed, unread, rest, hplaces, ⟨hhanded, hunread⟩, hrest⟩

/-- A call that pushes moves nothing else, so its own text is not on its page. -/
theorem lt_length_of_moved (ha : Accounts calls pages waiting) {call : QueueCall}
    {handed unread rest : List Nat}
    (hplaces : waiting ++ newPush calls call = handed ++ (unread ++ rest))
    (hnames : Names (calls ++ [call]) ⟨call.turn (applyAll .empty calls), handed, unread⟩)
    {i : Nat} (hi : i ∈ handed ++ unread) : i < calls.length := by
  have hmem : i ∈ waiting ++ newPush calls call := by
    rw [hplaces, ← List.append_assoc]
    exact List.mem_append_left _ hi
  rcases List.mem_append.1 hmem with hwaiting | hpush
  · exact ha.lt_length_of_mem_waiting hwaiting
  · obtain ⟨hsilent, hkept⟩ := turn_silent_of_newPush (applyAll .empty calls) hpush
    have hhanded : handed = [] :=
      List.map_eq_nil_iff.1 (hnames.handed.trans (congrArg nonBlank hsilent))
    have hunread : unread = [] :=
      List.map_eq_nil_iff.1 (hnames.unread.trans (congrArg nonBlank hkept))
    rw [hhanded, hunread] at hi
    cases hi

theorem snoc (ha : Accounts calls pages waiting) (call : QueueCall) :
    ∃ page rest, Accounts (calls ++ [call]) (pages ++ [page]) rest := by
  obtain ⟨handed, unread, rest, hplaces, hnames, hrest⟩ := ha.exists_page call
  have hnew : ∀ i ∈ handed ++ unread, i < calls.length :=
    fun _ => ha.lt_length_of_moved hplaces hnames
  refine ⟨⟨call.turn (applyAll .empty calls), handed, unread⟩, rest, ?_⟩
  constructor
  case turns => rw [runAll_snoc, ← ha.turns, List.map_append, List.map_singleton]
  case names =>
    exact List.forall_mem_append.2
      ⟨fun _ hpage => ha.names_snoc call hpage, List.forall_mem_singleton.2 hnames⟩
  case kept => rw [hrest, applyAll_snoc]
  case earlier =>
    intro j page hpage
    rcases Nat.lt_or_ge j pages.length with hj | hj
    · rw [List.getElem?_append_left hj] at hpage
      exact ha.earlier j page hpage
    · have hlast := List.mem_of_getElem? ((List.getElem?_append_right hj).symm.trans hpage)
      cases List.mem_singleton.1 hlast
      exact fun i hi => Nat.lt_of_lt_of_le (hnew i hi) (ha.length_pages ▸ hj)
  case complete =>
    rw [pushes_snoc, ← ha.complete, List.append_assoc _ waiting, hplaces, List.flatMap_append,
      List.flatMap_singleton, List.append_assoc, List.append_assoc]

end Accounts

theorem exists_accounts (calls : List QueueCall) :
    ∃ pages waiting, Accounts calls pages waiting := by
  induction calls using List.reverseRecOn with
  | nil => exact ⟨[], [], .nil⟩
  | append_singleton calls call ih =>
    obtain ⟨pages, waiting, ha⟩ := ih
    obtain ⟨page, rest, ha'⟩ := ha.snoc call
    exact ⟨pages ++ [page], rest, ha'⟩

namespace Accounts

variable {calls : List QueueCall} {pages : List QueuePage} {waiting : List Nat}

/-- The pushes fall into those that are handed out, those that are dropped and those that wait. -/
theorem perm_pushes (ha : Accounts calls pages waiting) :
    (pages.flatMap (·.handed) ++ (pages.flatMap (·.unread) ++ waiting)).Perm (pushes calls) := by
  rw [← ha.complete, ← List.append_assoc]
  exact (List.flatMap_append_perm pages (·.handed) (·.unread)).append_right waiting

theorem sublist_pushes (ha : Accounts calls pages waiting) :
    (pages.flatMap (·.handed)).Sublist (pushes calls) := by
  rw [← ha.complete]
  refine List.Sublist.trans ?_ (List.sublist_append_left _ _)
  exact List.Sublist.flatMap_right pages fun page _ => List.sublist_append_left _ _

theorem handed_texts (ha : Accounts calls pages waiting) :
    (pages.flatMap (·.handed)).map (textAt calls) =
      nonBlank ((runAll .empty calls).flatMap (·.handed)) := by
  rw [← ha.turns, List.flatMap_map, nonBlank, List.filter_flatMap, List.map_flatMap]
  exact List.flatMap_congr fun page hpage => (ha.names page hpage).handed

/-- A push is never handed out exactly if it is dropped or waits. -/
theorem notMem_handed_iff (ha : Accounts calls pages waiting) {i : Nat} (hi : i ∈ pushes calls) :
    i ∉ pages.flatMap (·.handed) ↔ i ∈ pages.flatMap (·.unread) ∨ i ∈ waiting := by
  have hnodup := ha.perm_pushes.nodup_iff.2 ((pairwise_pushes calls).imp Nat.ne_of_lt)
  have hmem := ha.perm_pushes.mem_iff.2 hi
  rw [List.mem_append, List.mem_append] at hmem
  refine ⟨hmem.resolve_left, fun hother hhanded => ?_⟩
  exact (List.nodup_append.1 hnodup).2.2 i hhanded i (List.mem_append.2 hother) rfl

end Accounts

end QueueCall

namespace QueueTurn

/-- Whether a turn takes an entry off the queue and hands it out, be it blank. -/
def removes (turn : QueueTurn) : Bool := turn.call = .removeFirst && !turn.handed.isEmpty

/-- The turns behind the last one that takes the whole queue. -/
def recent (turns : List QueueTurn) : List QueueTurn :=
  turns.rtakeWhile fun turn => !turn.call.drains

theorem recent_snoc (turns : List QueueTurn) (turn : QueueTurn) :
    recent (turns ++ [turn]) = if turn.call.drains then [] else recent turns ++ [turn] := by
  rw [recent, List.rtakeWhile_concat]
  cases turn.call.drains <;> rfl

end QueueTurn

namespace QueueCall

theorem after_turn_of_drains (queue : FragmentQueue) {call : QueueCall} (h : call.drains = true) :
    (call.turn queue).after = .empty := by
  cases call with
  | handOut | handOutAtMost => rfl
  | _ => cases h

theorem length_turn (queue : FragmentQueue) {call : QueueCall} (h : call.drains = false) :
    (call.turn queue).after.length + (if (call.turn queue).removes then 1 else 0) =
      queue.length + if call.text?.isSome then 1 else 0 := by
  obtain ⟨fragments⟩ := queue
  cases call with
  | push text => exact FragmentQueue.length_push _ text
  | blankFirst => exact FragmentQueue.length_blankFirst _
  | removeFirst => cases fragments <;> rfl
  | handOut | handOutAtMost => cases h

theorem drains_of_mem_runAll {queue : FragmentQueue} {calls : List QueueCall} {turn : QueueTurn}
    (hturn : turn ∈ runAll queue calls) (h : turn.call.drains = true) : turn.after = .empty := by
  induction calls generalizing queue with
  | nil => cases hturn
  | cons call rest ih =>
    rcases List.mem_cons.1 hturn with rfl | hturn
    · rw [call_turn] at h
      exact after_turn_of_drains queue h
    · exact ih hturn

theorem length_applyAll (calls : List QueueCall) :
    let turns := QueueTurn.recent (runAll .empty calls)
    (applyAll .empty calls).length + turns.countP (·.removes) =
      turns.countP (·.call.text?.isSome) := by
  induction calls using List.reverseRecOn with
  | nil => rfl
  | append_singleton calls call ih =>
    dsimp only at ih ⊢
    rw [runAll_snoc, applyAll_snoc, QueueTurn.recent_snoc, call_turn]
    cases hdrains : call.drains with
    | true =>
      rw [after_turn_of_drains _ hdrains]
      rfl
    | false =>
      have hlength := length_turn (applyAll .empty calls) hdrains
      rw [if_neg Bool.false_ne_true, List.countP_append, List.countP_append, List.countP_singleton,
        List.countP_singleton, call_turn]
      omega

end QueueCall

/-- In any history of a queue every push of a text that is not empty has one place in the account:
it is handed out by one later call, or dropped by one that drains the queue and does not read so
far, or it waits. Texts are handed out in the order of their pushes, and those that wait were pushed
last. Behind a call that drains it a queue is empty, and it is as long as the calls since the last
such call have pushed more texts than they have removed. -/
theorem fragments_leave_once (calls : List QueueCall) :
    let turns := QueueCall.runAll .empty calls
    let queue := QueueCall.applyAll .empty calls
    let pushes := QueueCall.pushes calls
    pushes.Pairwise (· < ·) ∧
    (∃ pages waiting, QueueCall.Accounts calls pages waiting ∧
      (nonBlank (turns.flatMap (·.handed))).Sublist (pushes.map (QueueCall.textAt calls)) ∧
      (pages.flatMap (·.handed)).Sublist pushes ∧
      (∀ i ∈ pushes, i ∉ pages.flatMap (·.handed) ↔
        i ∈ pages.flatMap (·.unread) ∨ i ∈ waiting) ∧
      waiting <:+ pushes) ∧
    (∀ turn ∈ turns, turn.call.drains = true → turn.after.isEmpty = true) ∧
    queue.length + (QueueTurn.recent turns).countP (·.removes) =
      (QueueTurn.recent turns).countP (·.call.text?.isSome) := by
  intro turns queue pushes
  obtain ⟨pages, waiting, ha⟩ := QueueCall.exists_accounts calls
  refine ⟨QueueCall.pairwise_pushes calls, ⟨pages, waiting, ha, ?_, ha.sublist_pushes,
    fun i => ha.notMem_handed_iff, ⟨_, ha.complete⟩⟩, ?_, QueueCall.length_applyAll calls⟩
  · rw [← ha.handed_texts]
    exact ha.sublist_pushes.map _
  · intro turn hturn hdrains
    rw [QueueCall.drains_of_mem_runAll hturn hdrains]
    rfl

/-- A blanked entry is read like any other, so the draining drops a text behind it; the text that is
pushed later is taken off again. -/
theorem fragments_leave_once_dropped :
    let calls : List QueueCall :=
      [.push "a", .blankFirst, .push "b", .push "c", .handOutAtMost 2, .push "d", .removeFirst]
    let dropping : QueueTurn := ⟨.handOutAtMost 2, ["", "b"], ["c"], .empty⟩
    QueueCall.pushes calls = [0, 2, 3, 5] ∧
      dropping ∈ QueueCall.runAll .empty calls ∧ dropping.call.drains = true ∧
      dropping.after.isEmpty = true ∧
      (QueueCall.applyAll .empty calls).length + 1 = 1 ∧
      ∃ pages waiting, QueueCall.Accounts calls pages waiting ∧
        (3 ∉ pages.flatMap (·.handed) ↔ 3 ∈ pages.flatMap (·.unread) ∨ 3 ∈ waiting) := by
  intro calls dropping
  have hturn : dropping ∈ QueueCall.runAll .empty calls := by decide
  obtain ⟨-, ⟨pages, waiting, ha, -, -, hnever, -⟩, hdrained, hlength⟩ := fragments_leave_once calls
  exact ⟨by decide, hturn, rfl, hdrained dropping hturn rfl, hlength, pages, waiting, ha,
    hnever 3 (by decide)⟩

end SourceEmitter
