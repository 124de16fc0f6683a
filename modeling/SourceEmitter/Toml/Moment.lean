import SourceEmitter.Toml.Number

/-!
# Dates and times of a document

A date, a time, or both, the latter with an offset from universal time if one is written. The
canonical text of a moment is the form that `canonical` functions print.
-/

namespace SourceEmitter.Toml

open Reader

structure Date where
  year : Nat
  month : Nat
  day : Nat

structure Time where
  hour : Nat
  minute : Nat
  second : Nat
  nanosecond : Nat

/-- A distance from universal time. -/
inductive Offset where
  | zulu
  | minutes (count : Int)

def padded (width n : Nat) : String :=
  let digits := Nat.toDigits 10 n
  String.ofList (List.replicate (width - digits.length) '0' ++ digits)

def Date.canonical (date : Date) : String :=
  padded 4 date.year ++ "-" ++ padded 2 date.month ++ "-" ++ padded 2 date.day

def Time.canonical (time : Time) : String :=
  let places := ((padded 9 time.nanosecond).toList.reverse.dropWhile (· = '0')).reverse
  padded 2 time.hour ++ ":" ++ padded 2 time.minute ++ ":" ++ padded 2 time.second
    ++ (if places.isEmpty then "" else "." ++ String.ofList places)

def Offset.canonical : Offset → String
  | zulu => "Z"
  | minutes count =>
    (if count < 0 then "-" else "+") ++ padded 2 (count.natAbs / 60) ++ ":"
      ++ padded 2 (count.natAbs % 60)

def fixedDigits : Nat → Reader (List Char)
  | 0 => pure []
  | count + 1 => do
    let first ← one isDecimalDigit
    let rest ← fixedDigits count
    return first :: rest

def twoDigits (low high : Nat) : Reader Nat := do
  let n := valueOf 10 (← fixedDigits 2)
  require (low ≤ n && n ≤ high)
  return n

def daysIn (year month : Nat) : Nat :=
  let leap := year % 4 == 0 && (year % 100 != 0 || year % 400 == 0)
  if month = 2 then (if leap then 29 else 28)
  else if month = 4 ∨ month = 6 ∨ month = 9 ∨ month = 11 then 30
  else 31

def date : Reader Date := do
  let year := valueOf 10 (← fixedDigits 4)
  char '-'
  let month ← twoDigits 1 12
  char '-'
  let day ← twoDigits 1 31
  require (day ≤ daysIn year month)
  return ⟨year, month, day⟩

/-- Takes the decimals of a second; those beyond the ninth are dropped. -/
def nanoseconds : Reader Nat := do
  char '.'
  let digits ← many1 isDecimalDigit
  return valueOf 10 ((digits ++ List.replicate 9 '0').take 9)

def time : Reader Time := do
  let hour ← twoDigits 0 23
  char ':'
  let minute ← twoDigits 0 59
  char ':'
  let second ← twoDigits 0 60
  let nanosecond ← optional? nanoseconds
  return ⟨hour, minute, second, nanosecond.getD 0⟩

def offset : Reader Offset := do
  match ← peek with
  | some 'Z' | some 'z' => do
    let _ ← one fun _ => true
    return .zulu
  | some '+' | some '-' => do
    let negative ← sign
    let hour ← twoDigits 0 23
    char ':'
    let minute ← twoDigits 0 59
    let count : Int := hour * 60 + minute
    return .minutes (if negative then -count else count)
  | _ => refuse

/-- Takes the time of a date, behind a letter or a blank, with its offset. -/
def timeOfDate : Reader String := do
  let _ ← one fun c => c == 'T' || c == 't' || c == ' '
  let time ← time
  let offset ← optional? offset
  return "T" ++ time.canonical ++ (offset.map Offset.canonical).getD ""

/-- Takes a date, a time or both, and yields the canonical text. -/
def moment : Reader String :=
  (do
    let date ← date
    let time ← optional? timeOfDate
    return date.canonical ++ time.getD "")
  <|> (do
    let time ← time
    return time.canonical)

end SourceEmitter.Toml
