/-!
# UTF-8

A scanner that cuts any byte string into well-formed characters and maximal ill-formed parts, one
byte at a time. Strict decoding names the first ill-formed part; lenient decoding puts one
replacement character in the place of each.
-/

namespace SourceEmitter.Text.Utf8

/-- The closed range a byte must lie in. -/
structure ByteRange where
  low : UInt8
  high : UInt8
deriving DecidableEq, Repr

def ByteRange.has (range : ByteRange) (b : UInt8) : Bool := range.low ≤ b && b ≤ range.high

/-- The range of a continuation byte that the first byte does not restrict further. -/
def tail : ByteRange := ⟨0x80, 0xBF⟩

/-- The ranges of the bytes that must follow a first byte; `none` if it can begin no character.
The restricted second bytes exclude overlong forms, surrogates and code points past U+10FFFF. -/
def followers (b : UInt8) : Option (List ByteRange) :=
  if b < 0x80 then some []
  else if b < 0xC2 then none
  else if b < 0xE0 then some [tail]
  else if b = 0xE0 then some [⟨0xA0, 0xBF⟩, tail]
  else if b = 0xED then some [⟨0x80, 0x9F⟩, tail]
  else if b < 0xF0 then some [tail, tail]
  else if b = 0xF0 then some [⟨0x90, 0xBF⟩, tail, tail]
  else if b < 0xF4 then some [tail, tail, tail]
  else if b = 0xF4 then some [⟨0x80, 0x8F⟩, tail, tail]
  else none

/-- A part of a byte string: a character, a maximal ill-formed part, or the bytes of a character
that the end of the string cuts short. -/
inductive Chunk where
  | character (bytes : List UInt8)
  | malformed (bytes : List UInt8)
  | truncated (bytes : List UInt8)
deriving DecidableEq, Repr

def Chunk.bytes : Chunk → List UInt8
  | character bytes | malformed bytes | truncated bytes => bytes

/-- Begins a character with a byte: the chunk it completes by itself, and otherwise the bytes
taken so far with the ranges still due. -/
def begin (b : UInt8) : Option Chunk × List UInt8 × List ByteRange :=
  match followers b with
  | none => (some (.malformed [b]), [], [])
  | some [] => (some (.character [b]), [], [])
  | some due => (none, [b], due)

/-- Cuts a byte string into chunks, given the bytes taken of an unfinished character and the
ranges of the bytes it still needs. -/
def scan : List UInt8 → List ByteRange → List UInt8 → List Chunk
  | taken, _, [] => if taken.isEmpty then [] else [.truncated taken]
  | _, [], b :: rest =>
    match begin b with
    | (some chunk, _) => chunk :: scan [] [] rest
    | (none, taken, due) => scan taken due rest
  | taken, range :: due, b :: rest =>
    if range.has b then
      if due.isEmpty then .character (taken ++ [b]) :: scan [] [] rest
      else scan (taken ++ [b]) due rest
    else
      .malformed taken ::
        match begin b with
        | (some chunk, _) => chunk :: scan [] [] rest
        | (none, taken, due) => scan taken due rest

def chunks (bytes : List UInt8) : List Chunk := scan [] [] bytes

/-- The character that the bytes of a well-formed character stand for. -/
def charOf : List UInt8 → Char
  | [a] => Char.ofNat a.toNat
  | [a, b] => Char.ofNat ((a.toNat % 32) * 64 + b.toNat % 64)
  | [a, b, c] => Char.ofNat ((a.toNat % 16) * 4096 + (b.toNat % 64) * 64 + c.toNat % 64)
  | [a, b, c, d] =>
    Char.ofNat
      ((a.toNat % 8) * 262144 + (b.toNat % 64) * 4096 + (c.toNat % 64) * 64 + d.toNat % 64)
  | _ => '\uFFFD'

/-- Why a byte string is not UTF-8: where the first ill-formed part begins, and its length unless
the string ends inside it. -/
structure Fault where
  validUpTo : Nat
  length? : Option Nat
deriving DecidableEq, Repr

def Fault.message (fault : Fault) : String :=
  match fault.length? with
  | some length =>
    "invalid utf-8 sequence of " ++ toString length ++ " bytes from index "
      ++ toString fault.validUpTo
  | none => "incomplete utf-8 byte sequence from index " ++ toString fault.validUpTo

/-- Decodes chunks that stand `offset` bytes into the string, up to the first ill-formed one. -/
def decodeChunks (offset : Nat) : List Chunk → Except Fault (List Char)
  | [] => .ok []
  | .character bytes :: rest =>
    match decodeChunks (offset + bytes.length) rest with
    | .ok chars => .ok (charOf bytes :: chars)
    | .error fault => .error fault
  | .malformed bytes :: _ => .error ⟨offset, some bytes.length⟩
  | .truncated _ :: _ => .error ⟨offset, none⟩

def decode (bytes : ByteArray) : Except Fault String :=
  (decodeChunks 0 (chunks bytes.data.toList)).map String.ofList

/-- The character shown for a chunk when faults are tolerated. -/
def Chunk.shown : Chunk → Char
  | character bytes => charOf bytes
  | malformed _ | truncated _ => '\uFFFD'

/-- The text of a byte string with a replacement character for each ill-formed part. -/
def decodeLenient (bytes : ByteArray) : String :=
  String.ofList ((chunks bytes.data.toList).map Chunk.shown)

/-- A byte is a chunk by itself, or it is taken and some range is due. -/
theorem bytes_begin (b : UInt8) :
    (∃ chunk, begin b = (some chunk, [], []) ∧ chunk.bytes = [b]) ∨
      ∃ range due, begin b = (none, [b], range :: due) := by
  unfold begin
  split
  next => exact .inl ⟨_, rfl, rfl⟩
  next => exact .inl ⟨_, rfl, rfl⟩
  next due hdue _ =>
    cases due with
    | nil => exact absurd rfl hdue
    | cons range due => exact .inr ⟨range, due, rfl⟩

/-- Scanning loses no byte. -/
theorem flatMap_bytes_scan (taken : List UInt8) (due : List ByteRange) (bytes : List UInt8)
    (h : due = [] → taken = []) :
    (scan taken due bytes).flatMap Chunk.bytes = taken ++ bytes := by
  induction bytes generalizing taken due with
  | nil =>
    unfold scan
    split
    · simp_all
    · simp [Chunk.bytes]
  | cons b rest ih =>
    have hbegin : (match begin b with
        | (some chunk, _) => chunk :: scan [] [] rest
        | (none, taken, due) => scan taken due rest).flatMap Chunk.bytes = b :: rest := by
      rcases bytes_begin b with ⟨chunk, hb, hbytes⟩ | ⟨range, due, hb⟩
      · simp [hb, hbytes, ih [] [] fun _ => rfl]
      · simp only [hb]
        exact ih [b] (range :: due) fun h => nomatch h
    cases due with
    | nil => rw [scan, hbegin, h rfl]; rfl
    | cons range due =>
      unfold scan
      split
      · split
        · simp [Chunk.bytes, ih [] [] (fun _ => rfl)]
        · rw [ih (taken ++ [b]) due (fun h => by simp_all)]
          simp
      · simp only [List.flatMap_cons, hbegin, Chunk.bytes]

theorem flatMap_bytes_chunks (bytes : List UInt8) : (chunks bytes).flatMap Chunk.bytes = bytes :=
  flatMap_bytes_scan [] [] bytes fun _ => rfl

end SourceEmitter.Text.Utf8
