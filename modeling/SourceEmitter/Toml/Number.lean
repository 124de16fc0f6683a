import SourceEmitter.Toml.Reader

/-!
# Numbers of a document

Integers in four bases and decimal floating-point numbers. Underscores may stand between digits.
An integer must fit 64 bits with a sign, and a floating-point number without a minus sign must not
round to infinity.
-/

namespace SourceEmitter.Toml

open Reader

def isDecimalDigit (c : Char) : Bool := '0' ≤ c && c ≤ '9'

def digitValue (c : Char) : Nat :=
  if isDecimalDigit c then c.toNat - '0'.toNat else (c.toLower.toNat - 'a'.toNat) + 10

def isHexDigit (c : Char) : Bool :=
  isDecimalDigit c || ('a' ≤ c && c ≤ 'f') || ('A' ≤ c && c ≤ 'F')

def isOctalDigit (c : Char) : Bool := '0' ≤ c && c ≤ '7'

def isBinaryDigit (c : Char) : Bool := c == '0' || c == '1'

def valueOf (base : Nat) (digits : List Char) : Nat :=
  digits.foldl (fun n c => n * base + digitValue c) 0

/-- Takes digits of a class behind a first one; an underscore must have a digit behind it. -/
def moreDigits (p : Char → Bool) : Reader (List Char) := do
  let digits ← many (do
    let _ ← optional? (char '_')
    one p)
  if (← peek) = some '_' then refuse else return digits

def digitRun (p : Char → Bool) : Reader (List Char) := do
  let first ← one p
  let rest ← moreDigits p
  return first :: rest

/-- Takes a sign, if there is one, and tells whether it is a minus. -/
def sign : Reader Bool := do
  match ← peek with
  | some '-' => do char '-'; return true
  | some '+' => do char '+'; return false
  | _ => return false

/-- Takes the digits of a decimal integer, which has no leading zeros. -/
def decimalDigits : Reader (List Char) := do
  match ← peek with
  | some '0' => do char '0'; return ['0']
  | _ => digitRun isDecimalDigit

/-- Whether a number fits 64 bits with a sign. -/
def fitsWord (n : Int) : Bool := -Int.pow 2 63 ≤ n && n < Int.pow 2 63

/-- Takes an integer in the base that its first two characters announce. -/
def basedInteger (mark : String) (base : Nat) (p : Char → Bool) : Reader Int := do
  word mark
  let n : Int := valueOf base (← digitRun p)
  require (fitsWord n)
  return n

def decimalInteger : Reader Int := do
  let negative ← sign
  let n : Int := valueOf 10 (← decimalDigits)
  let n := if negative then -n else n
  require (fitsWord n)
  return n

/-- Takes an integer. A mark of a base commits the reader to that base. -/
def integer : Reader Int := fun s =>
  match s with
  | '0' :: 'x' :: _ => basedInteger "0x" 16 isHexDigit s
  | '0' :: 'o' :: _ => basedInteger "0o" 8 isOctalDigit s
  | '0' :: 'b' :: _ => basedInteger "0b" 2 isBinaryDigit s
  | _ => decimalInteger s

/-- The least number that rounds to infinity in binary64: half a unit above the greatest finite
value. -/
def overflowThreshold : Nat := Nat.pow 2 1024 - Nat.pow 2 970

/-- Whether `digits · 10 ^ exponent` rounds to infinity. Numbers far from the threshold are decided
by their count of digits. -/
def roundsToInfinity (digits : List Char) (exponent : Int) : Bool :=
  let significant := digits.dropWhile (· = '0')
  let magnitude := (significant.length : Int) + exponent
  if significant.isEmpty || magnitude < 309 then false
  else if 309 < magnitude then true
  else
    let n := valueOf 10 significant
    if 0 ≤ exponent then overflowThreshold ≤ n * Nat.pow 10 exponent.toNat
    else overflowThreshold * Nat.pow 10 exponent.natAbs ≤ n

def exponent : Reader Int := do
  let _ ← one fun c => c == 'e' || c == 'E'
  let negative ← sign
  let n : Int := valueOf 10 (← digitRun isDecimalDigit)
  return if negative then -n else n

def fraction : Reader (List Char) := do
  char '.'
  digitRun isDecimalDigit

def finiteFloat : Reader String := do
  let negative ← sign
  let whole ← decimalDigits
  let after ← optional? fraction
  let scale ← if after.isNone then some <$> exponent else optional? exponent
  let places := after.getD []
  require (negative || !roundsToInfinity (whole ++ places) (scale.getD 0 - places.length))
  return String.ofList
    ((if negative then ['-'] else []) ++ whole ++ '.' :: places ++ 'e'
      :: (toString (scale.getD 0)).toList)

/-- Takes an infinity or a value that is no number. -/
def specialFloat : Reader String := do
  let negative ← sign
  let name ← (do word "inf"; return "inf") <|> (do word "nan"; return "nan")
  return (if negative then "-" else "") ++ name

def float : Reader String := finiteFloat <|> specialFloat

end SourceEmitter.Toml
