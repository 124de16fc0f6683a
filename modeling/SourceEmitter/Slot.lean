/-!
# Slots for rendering lists

A comma slot yields nothing the first time and its separator ever after, so it can be printed in
front of every item of a list. A once slot yields its text the first time and nothing ever after,
which suits a leading keyword.
-/

namespace SourceEmitter

/-- A separator that stays silent the first time it is asked for. -/
structure SeparatorSlot where
  separator : String
  used : Bool
deriving DecidableEq, Repr

namespace SeparatorSlot

/-- A slot that has not been asked yet. -/
def fresh (separator : String) : SeparatorSlot := ⟨separator, false⟩

def default : SeparatorSlot := fresh ", "

/-- The text in front of the next item. -/
def text (slot : SeparatorSlot) : String := if slot.used then slot.separator else ""

/-- The slot after an item: from now on it yields its separator. -/
def advance (slot : SeparatorSlot) : SeparatorSlot := { slot with used := true }

def reset (slot : SeparatorSlot) : SeparatorSlot := { slot with used := false }

end SeparatorSlot

/-- A text that is handed out once. -/
structure OnceSlot where
  text : String
deriving DecidableEq, Repr

namespace OnceSlot

/-- The slot with nothing left to hand out. -/
def spent : OnceSlot := ⟨""⟩

def take (_ : OnceSlot) : OnceSlot := spent

/-- Whether there is nothing to hand out, either because it has been or because it was empty. -/
def isUsedUp (slot : OnceSlot) : Bool := slot.text.isEmpty

end OnceSlot

end SourceEmitter
