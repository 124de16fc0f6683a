/-!
# Pending fragments

A first-in first-out queue of text fragments whose output is postponed. Besides removal there is
`blankFirst`, which hands out the first fragment and leaves an empty one in its place: the entry
still counts, but its text is never handed out again.
-/

namespace SourceEmitter

/-- Fragments waiting to be written, oldest first. -/
structure FragmentQueue where
  fragments : List String
deriving DecidableEq, Repr

namespace FragmentQueue

def empty : FragmentQueue := ⟨[]⟩

def push (queue : FragmentQueue) (fragment : String) : FragmentQueue :=
  ⟨queue.fragments ++ [fragment]⟩

/-- Hands out every fragment, oldest first, and empties the queue. -/
def handOut (queue : FragmentQueue) : List String × FragmentQueue :=
  (queue.fragments, empty)

/-- Hands out at most `count` fragments and empties the queue: the fragments beyond are lost. -/
def handOutAtMost (queue : FragmentQueue) (count : Nat) : List String × FragmentQueue :=
  (queue.fragments.take count, empty)

/-- Hands out the first fragment and blanks it in place. -/
def blankFirst (queue : FragmentQueue) : Option String × FragmentQueue :=
  match queue.fragments with
  | [] => (none, queue)
  | first :: others => (some first, ⟨"" :: others⟩)

def removeFirst (queue : FragmentQueue) : Option String × FragmentQueue :=
  match queue.fragments with
  | [] => (none, queue)
  | first :: others => (some first, ⟨others⟩)

def length (queue : FragmentQueue) : Nat := queue.fragments.length

def isEmpty (queue : FragmentQueue) : Bool := queue.fragments.isEmpty

@[simp] theorem fragments_empty : empty.fragments = [] := rfl
@[simp] theorem fragments_push (queue : FragmentQueue) (fragment : String) :
    (queue.push fragment).fragments = queue.fragments ++ [fragment] := rfl
@[simp] theorem length_push (queue : FragmentQueue) (fragment : String) :
    (queue.push fragment).length = queue.length + 1 := by simp [length]
@[simp] theorem length_blankFirst (queue : FragmentQueue) :
    queue.blankFirst.2.length = queue.length := by
  cases queue with
  | mk fragments => cases fragments <;> simp [blankFirst, length]

end FragmentQueue

end SourceEmitter
