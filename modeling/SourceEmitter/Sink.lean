/-!
# Sinks

Where text ends up: the bytes taken so far, the room left for more, and a count of the flushes.
A write that does not fit leaves the bytes that fit, which may be part of a character, and fails.
-/

namespace SourceEmitter

/-- Why a sink refuses. -/
inductive SinkFault where
  | closed
  | flushRefused
deriving DecidableEq, Repr

def SinkFault.message : SinkFault → String
  | closed => "closed"
  | flushRefused => "flush refused"

/-- A receiver of bytes; `room = none` means that it takes any number of them. -/
structure Sink where
  bytes : ByteArray
  room : Option Nat
  refusesFlush : Bool
  flushes : Nat

namespace Sink

/-- A sink in memory that already holds some bytes and takes any number more. -/
def holding (bytes : ByteArray) : Sink := ⟨bytes, none, false, 0⟩

def unlimited : Sink := holding ByteArray.empty

def limited (room : Option Nat) (refusesFlush : Bool) : Sink :=
  ⟨ByteArray.empty, room, refusesFlush, 0⟩

/-- Takes the bytes that fit, and fails when some do not. -/
def accept (sink : Sink) (data : ByteArray) : Sink × Option SinkFault :=
  match sink.room with
  | none => ({ sink with bytes := sink.bytes ++ data }, none)
  | some room =>
    if data.size ≤ room then
      ({ sink with bytes := sink.bytes ++ data, room := some (room - data.size) }, none)
    else
      ({ sink with bytes := sink.bytes ++ data.extract 0 room, room := some 0 }, some .closed)

/-- Flushes, which every call counts and a refusing sink fails. -/
def flush (sink : Sink) : Sink × Option SinkFault :=
  ({ sink with flushes := sink.flushes + 1 },
    if sink.refusesFlush then some .flushRefused else none)

def setRoom (sink : Sink) (room : Option Nat) : Sink := { sink with room }

theorem accept_unlimited (sink : Sink) (data : ByteArray) (h : sink.room = none) :
    sink.accept data = ({ sink with bytes := sink.bytes ++ data }, none) := by
  simp [accept, h]

end Sink

end SourceEmitter
