import SourceEmitter.FragmentQueue
import SourceEmitter.OutputError
import SourceEmitter.RunTracker
import SourceEmitter.Slot
import SourceEmitter.Text.Quoted
import SourceEmitter.Variables

/-!
# The writer

A writer emits source text in one forward pass. It keeps the margin of the current line, a slot for
separators, a text to be written once, the fragments that are pending and the runs of its callers.
Writes that release (`write`, `writeLine`, `startLine`, `fullLine`) first emit every pending
fragment, oldest first; writes ahead (`writeAhead`, `separate`, `writeOnce`) leave them pending. The
first refusal of the sink is kept, and nothing is written until it has been cleared. Unmatched calls
give malformed text; nothing is checked.
-/

namespace SourceEmitter

/-- The state of a writer and the sink it writes to. -/
structure Writer where
  sink : Sink
  style : Style
  margin : String
  separator : SeparatorSlot
  once : OnceSlot
  pending : FragmentQueue
  runs : RunTracker
  failure : Option SinkFault

namespace Writer

def start (sink : Sink) (style : Style) : Writer where
  sink := sink
  style := style
  margin := ""
  separator := .fresh style.separator
  once := .spent
  pending := .empty
  runs := .fresh
  failure := none

/-- Hands a text to the sink, unless an earlier write has failed. -/
def put (w : Writer) (text : String) : Writer :=
  if w.failure.isSome || text.isEmpty then w
  else
    let result := w.sink.accept text.toByteArray
    { w with sink := result.1, failure := result.2 }

def putAll (w : Writer) (texts : List String) : Writer := texts.foldl put w

/-- Whether a write has failed and its failure has not been taken. -/
def hasFailed (w : Writer) : Bool := w.failure.isSome

/-- Forgets a failure, so that later writes reach the sink again. -/
def clearFailure (w : Writer) : Writer := { w with failure := none }

/-- The longest start of a text that has at most `count` bytes and splits no character. -/
def keepBytes : Nat → List Char → List Char
  | _, [] => []
  | count, c :: rest =>
    if c.utf8Size ≤ count then c :: keepBytes (count - c.utf8Size) rest else []

def indentMore (w : Writer) : Writer :=
  { w with margin := w.margin ++ w.style.indentation }

/-- Takes one unit off the margin, which an empty margin survives. -/
def indentLess (w : Writer) : Writer :=
  let kept := w.margin.utf8ByteSize - w.style.indentation.utf8ByteSize
  { w with margin := String.ofList (keepBytes kept w.margin.toList) }

/-- The number of units in the margin; empty units count as none. -/
def depth (w : Writer) : Nat := w.margin.utf8ByteSize / w.style.indentation.utf8ByteSize

/-- Makes a fragment wait for the next write that releases. -/
def defer (w : Writer) (text : String) : Writer := { w with pending := w.pending.push text }

def deferLine (w : Writer) (text : String) : Writer := w.defer (text ++ w.style.lineEnd)

/-- Writes every pending fragment, oldest first. -/
def release (w : Writer) : Writer :=
  let handed := w.pending.handOut
  { w with pending := handed.2 }.putAll handed.1

/-- Writes the first pending fragment, whose entry stays behind without text. -/
def releaseInPlace (w : Writer) : Writer :=
  let handed := w.pending.blankFirst
  { w with pending := handed.2 }.putAll handed.1.toList

/-- Writes the first pending fragment and removes its entry. -/
def releaseFirst (w : Writer) : Writer :=
  let handed := w.pending.removeFirst
  { w with pending := handed.2 }.putAll handed.1.toList

def hasPending (w : Writer) : Bool := !w.pending.isEmpty

def startList (w : Writer) : Writer := { w with separator := w.separator.reset }

/-- Writes the separator, except in front of the first item of a list. -/
def separate (w : Writer) : Writer :=
  { w with separator := w.separator.advance }.put w.separator.text

def setOnce (w : Writer) (text : String) : Writer := { w with once := ⟨text⟩ }

/-- Writes the text that was set last, unless it has been written. -/
def writeOnce (w : Writer) : Writer := { w with once := w.once.take }.put w.once.text

/-- Writes a text ahead of the pending fragments. -/
def writeAhead (w : Writer) (text : String) : Writer := w.put text

def startLine (w : Writer) : Writer := w.release.put w.margin

/-- Writes a text behind the pending fragments. -/
def write (w : Writer) (text : String) : Writer := w.release.put text

/-- Writes a text and a line end behind the pending fragments. -/
def writeLine (w : Writer) (text : String) : Writer :=
  (w.release.put text).put w.style.lineEnd

def fullLine (w : Writer) (text : String) : Writer :=
  (w.startLine.put text).put w.style.lineEnd

def blankLine (w : Writer) : Writer := w.fullLine ""

/-- Writes a header behind the margin and makes its brace wait; deepening the margin is left to
whoever opens the block. -/
def openBlock (w : Writer) (header : String) : Writer :=
  w.startLine |>.write header |>.deferLine " \x7b"

def closeBlock (w : Writer) : Writer := w.fullLine "\x7d"

def writeWith (w : Writer) (vars : Variables) (text : String) : Writer :=
  w.write (vars.expand text)

def writeLinesWith (w : Writer) (vars : Variables) (texts : List String) : Writer :=
  texts.foldl (fun w text => w.writeLine (vars.expand text)) w

def fullLinesWith (w : Writer) (vars : Variables) (texts : List String) : Writer :=
  texts.foldl (fun w text => w.fullLine (vars.expand text)) w

def record (w : Writer) (caller : Caller) : Writer := { w with runs := w.runs.record caller }

/-- Runs `body` if the caller starts a new run, then notes the caller. -/
def ifNewRun (w : Writer) (caller : Caller) (body : Writer → Writer) : Writer :=
  (if w.runs.startsRun caller then body w else w).record caller

/-- Runs `body` if the caller goes on with its run, then notes the caller. -/
def ifSameRun (w : Writer) (caller : Caller) (body : Writer → Writer) : Writer :=
  (if w.runs.startsRun caller then w else body w).record caller

/-- Writes what is pending and flushes the sink. A failure that was kept wins and spares the
flush. -/
def finish (w : Writer) : Sink × Except OutputError Unit :=
  let w := w.release
  match w.failure with
  | some fault => (w.sink, .error (.io (.sink fault)))
  | none =>
    match w.sink.flush with
    | (sink, none) => (sink, .ok ())
    | (sink, some fault) => (sink, .error (.io (.sink fault)))

/-- The text in the sink so far, with a replacement character for each ill-formed part. -/
def textSoFar (w : Writer) : String := Text.Utf8.decodeLenient w.sink.bytes

def finishText (w : Writer) : Except OutputError String :=
  match w.finish with
  | (_, .error fault) => .error fault
  | (sink, .ok ()) =>
    match Text.Utf8.decode sink.bytes with
    | .ok text => .ok text
    | .error fault => .error (.utf8 fault)

def describe (w : Writer) : String :=
  let flag (b : Bool) : String := if b then "true" else "false"
  let last : String :=
    match w.runs.last with
    | none => "None"
    | some caller => "Some(SiteId(" ++ Text.quoted caller.name ++ "))"
  "CodeWriter \x7b config: WriterConfig \x7b indent_unit: " ++ Text.quoted w.style.indentation
    ++ ", separator: " ++ Text.quoted w.style.separator
    ++ ", line_ending: " ++ Text.quoted w.style.lineEnd
    ++ " \x7d, indent_level: " ++ toString w.depth
    ++ ", deferred: " ++ toString w.pending.length
    ++ ", last_site: " ++ last
    ++ ", failed: " ++ flag w.hasFailed ++ " \x7d"

end Writer

end SourceEmitter
