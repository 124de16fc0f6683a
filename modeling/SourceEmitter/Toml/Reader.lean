/-!
# Readers

A reader takes characters off the front of a text and yields what they stand for, or refuses. A
refused reader takes nothing, so an alternative begins where the first attempt began.
-/

namespace SourceEmitter.Toml

/-- A reader of values of a type. -/
abbrev Reader (α : Type) := StateT (List Char) Option α

namespace Reader

variable {α : Type}

def refuse : Reader α := fun _ => none

/-- The next character, which stays. -/
def peek : Reader (Option Char) := fun s => some (s.head?, s)

def one (p : Char → Bool) : Reader Char
  | c :: rest => if p c then some (c, rest) else none
  | [] => none

def char (c : Char) : Reader Unit := do
  let _ ← one (· = c)

def word (text : String) : Reader Unit := text.toList.forM char

/-- Takes characters as long as they are of a class. -/
def takeWhile (p : Char → Bool) : Reader (List Char) := fun s => some (s.span p)

/-- Takes at least one character of a class, and all that follow. -/
def many1 (p : Char → Bool) : Reader (List Char) := do
  let first ← one p
  let rest ← takeWhile p
  return first :: rest

def optional? (read : Reader α) : Reader (Option α) := fun s =>
  match read s with
  | some (a, rest) => some (some a, rest)
  | none => some (none, s)

/-- Repeats a reader until it refuses, at most `count` times. -/
def upTo (read : Reader α) : Nat → List Char → List α × List Char
  | 0, s => ([], s)
  | count + 1, s =>
    match read s with
    | none => ([], s)
    | some (a, rest) =>
      let (others, rest) := upTo read count rest
      (a :: others, rest)

/-- Repeats a reader that takes something each time until it refuses. -/
def many (read : Reader α) : Reader (List α) := fun s => some (upTo read s.length s)

def sepBy1 (read : Reader α) (separator : Reader Unit) : Reader (List α) := do
  let first ← read
  let others ← many (do separator; read)
  return first :: others

def require (condition : Bool) : Reader Unit := if condition then pure () else refuse

def atEnd : Reader Unit := fun s => if s.isEmpty then some ((), s) else none

end Reader

open Reader

def isBlank (c : Char) : Bool := c == ' ' || c == '\t'

/-- A character above ASCII. -/
def isForeign (c : Char) : Bool := 0x80 ≤ c.toNat

def isCommentChar (c : Char) : Bool :=
  c == '\t' || (0x20 ≤ c.toNat && c.toNat ≤ 0x7E) || isForeign c

def blanks : Reader Unit := do
  let _ ← takeWhile isBlank

/-- Takes a line end, which may have a carriage return in front of it. -/
def newline : Reader Unit := do
  let _ ← optional? (char '\r')
  char '\n'

def lineEnd : Reader Unit := newline <|> atEnd

def comment : Reader Unit := do
  char '#'
  let _ ← takeWhile isCommentChar

/-- Takes what may follow a statement on its line, and the line end. -/
def lineRest : Reader Unit := do
  blanks
  let _ ← optional? comment
  lineEnd

/-- Takes blanks, line ends and comments; a comment must end with its line. -/
def gap : Reader Unit := do
  let _ ← many (do
    match ← peek with
    | some '#' => do comment; newline
    | some '\n' | some '\r' => newline
    | some c => if isBlank c then char c else refuse
    | none => refuse)
  match ← peek with
  | some '#' | some '\r' => refuse
  | _ => pure ()

end SourceEmitter.Toml
