import SourceEmitter.Text.LetterTable
import SourceEmitter.Text.HiddenTable
import SourceEmitter.Text.CapitalTable

/-!
# Classes of characters

Letters, numerals, blanks, hidden characters and capital forms of the whole character repertoire.
ASCII is decided by comparison and all other characters by table, so a statement about ASCII text
needs no table.
-/

namespace SourceEmitter.Text

/-- Membership in a list of closed ranges of code points. -/
def inRanges (ranges : List (Nat × Nat)) (code : Nat) : Bool :=
  ranges.any fun r => r.1 ≤ code && code ≤ r.2

/-- A character with the property Alphabetic. -/
def isLetter (c : Char) : Bool :=
  if c.toNat < 128 then c.isAlpha else inRanges letters c.toNat

/-- A character of general category Nd, Nl or No. -/
def isNumeral (c : Char) : Bool :=
  if c.toNat < 128 then c.isDigit else inRanges numerals c.toNat

/-- A character with the property White_Space. -/
def isBlank (c : Char) : Bool :=
  inRanges
    [(0x9, 0xD), (0x20, 0x20), (0x85, 0x85), (0xA0, 0xA0), (0x1680, 0x1680), (0x2000, 0x200A),
     (0x2028, 0x2029), (0x202F, 0x202F), (0x205F, 0x205F), (0x3000, 0x3000)] c.toNat

/-- A character that quoted text shows by its code point: a control, a format character, an
unassigned or private one, a separator other than the space, a letter that is ignorable by default
(the Hangul fillers), or a grapheme-extending mark. -/
def isHidden (c : Char) : Bool :=
  if c.toNat < 128 then c.toNat < 0x20 || c.toNat == 0x7F else inRanges hidden c.toNat

/-- The capital form of a character above ASCII, looked up in the tables. -/
def capitalAboveAscii (c : Char) : List Char :=
  match capitalGroups.find? (·.1 == c.toNat) with
  | some (_, codes) => codes.map Char.ofNat
  | none =>
    match capitalRuns.find? fun r =>
        r.1 ≤ c.toNat && c.toNat ≤ r.2.1 && (c.toNat - r.1) % r.2.2.1 == 0 with
    | some (first, _, _, capital) => [Char.ofNat (capital + (c.toNat - first))]
    | none => [c]

/-- The capital form of a character, one or more characters. -/
def capital (c : Char) : List Char :=
  if c.toNat < 128 then [c.toUpper] else capitalAboveAscii c

/-- A text with its first character in capital form and the rest unchanged. -/
def capitalize (s : String) : String :=
  match s.toList with
  | [] => ""
  | c :: rest => String.ofList (capital c ++ rest)

end SourceEmitter.Text
