/-!
# Runs of calls

A helper that emits one item of a list per call cannot see whether it was also the one called
before. Each helper reports under a name of its own, and a call starts a new run if the last report
came under another name.
-/

namespace SourceEmitter

/-- The name under which a helper reports. -/
structure Caller where
  name : String
deriving DecidableEq, Repr

/-- Which caller reported last, if any has. -/
structure RunTracker where
  last : Option Caller
deriving DecidableEq, Repr

namespace RunTracker

def fresh : RunTracker := ⟨none⟩

def record (_ : RunTracker) (caller : Caller) : RunTracker := ⟨some caller⟩

/-- Whether a call of this caller starts a new run. -/
def startsRun (tracker : RunTracker) (caller : Caller) : Bool := tracker.last != some caller

/-- Tells whether the caller starts a new run, and notes it as the last one. -/
def visit (tracker : RunTracker) (caller : Caller) : Bool × RunTracker :=
  (tracker.startsRun caller, tracker.record caller)

def forget (_ : RunTracker) : RunTracker := fresh

theorem startsRun_iff (tracker : RunTracker) (caller : Caller) :
    tracker.startsRun caller = true ↔ tracker.last ≠ some caller := by
  simp [startsRun]

end RunTracker

end SourceEmitter
