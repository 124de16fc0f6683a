import SourceEmitter.Toml.Reader

/-!
# Strings of a document

Basic strings with escapes and literal strings without, each on one line or on several. In the
forms over several lines a line end counts as one line feed however it is written, the first one
is dropped, and up to two quotes in a row may stand in the text, also right before the end.
-/

namespace SourceEmitter.Toml

open Reader

/-- A character that stands for itself in a basic string. -/
def isBasicChar (c : Char) : Bool := isCommentChar c && c != '"' && c != '\\'

/-- A character that stands for itself in a literal string. -/
def isLiteralChar (c : Char) : Bool := isCommentChar c && c != '\''

def hexDigit? (c : Char) : Option Nat :=
  if '0' ≤ c ∧ c ≤ '9' then some (c.toNat - '0'.toNat)
  else if 'a' ≤ c ∧ c ≤ 'f' then some (c.toNat - 'a'.toNat + 10)
  else if 'A' ≤ c ∧ c ≤ 'F' then some (c.toNat - 'A'.toNat + 10)
  else none

/-- The character with a code point given in hexadecimal digits; surrogates and numbers beyond the
last code point are none. -/
def charOfHex? (digits : List Char) : Option Char := do
  let code ← digits.foldlM (fun n c => (hexDigit? c).map (n * 16 + ·)) 0
  if h : code.isValidChar then some (Char.ofNatAux code h) else none

def simpleEscape? (c : Char) : Option Char :=
  match c with
  | 'b' => some '\x08'
  | 't' => some '\t'
  | 'n' => some '\n'
  | 'f' => some '\x0C'
  | 'r' => some '\r'
  | '"' => some '"'
  | '\\' => some '\\'
  | _ => none

/-- Takes what follows a backslash and yields the character meant. -/
def escape : Reader Char
  | 'u' :: a :: b :: c :: d :: rest => (charOfHex? [a, b, c, d]).map (·, rest)
  | 'U' :: a :: b :: c :: d :: e :: f :: g :: h :: rest =>
    (charOfHex? [a, b, c, d, e, f, g, h]).map (·, rest)
  | c :: rest => (simpleEscape? c).map (·, rest)
  | [] => none

/-- Takes one character of a basic string, as itself or escaped. -/
def basicChar : Reader Char :=
  one isBasicChar <|> (do char '\\'; escape)

def basicString : Reader String := do
  char '"'
  let chars ← many basicChar
  char '"'
  return String.ofList chars

def literalString : Reader String := do
  char '\''
  let chars ← takeWhile isLiteralChar
  char '\''
  return String.ofList chars

/-- Takes a backslash at the end of a line with all blanks and line ends behind it. -/
def lineContinuation : Reader Unit := do
  char '\\'
  blanks
  newline
  let _ ← many (newline <|> (do let _ ← one isBlank))

def tripleQuote (quote : Char) : Reader Unit := do
  char quote
  char quote
  char quote

/-- Takes the quotes that end a string over several lines, and yields those among them that belong
to its text: none, one or two. -/
def closingQuotes (quote : Char) : Reader (List Char) :=
  (do char quote; char quote; tripleQuote quote; return [quote, quote])
    <|> (do char quote; tripleQuote quote; return [quote])
    <|> (do tripleQuote quote; return [])

/-- Takes a quote that does not begin the end of the string. -/
def innerQuote (quote : Char) : Reader Char := fun s =>
  match tripleQuote quote s with
  | some _ => none
  | none => (do char quote; return quote : Reader Char) s

/-- Takes a string over several lines, whose pieces between quotes `piece` takes. -/
def longString (quote : Char) (piece : Reader (List Char)) : Reader String := do
  tripleQuote quote
  let _ ← optional? newline
  let pieces ← many (piece <|> (do return [← innerQuote quote]))
  let last ← closingQuotes quote
  return String.ofList (pieces.flatten ++ last)

/-- Takes a line end as one line feed. -/
def lineFeed : Reader (List Char) := do
  newline
  return ['\n']

def longBasicString : Reader String :=
  longString '"'
    (lineFeed <|> (do lineContinuation; return []) <|> (do return [← basicChar]))

def longLiteralString : Reader String :=
  longString '\'' (lineFeed <|> (do return [← one isLiteralChar]))

/-- Takes a string of any form. Three quotes always begin a string over several lines. -/
def anyString : Reader String := fun s =>
  match s with
  | '"' :: '"' :: '"' :: _ => longBasicString s
  | '"' :: _ => basicString s
  | '\'' :: '\'' :: '\'' :: _ => longLiteralString s
  | _ => literalString s

end SourceEmitter.Toml
