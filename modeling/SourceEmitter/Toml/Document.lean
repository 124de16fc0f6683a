import SourceEmitter.Toml.Moment
import SourceEmitter.Toml.Node
import SourceEmitter.Toml.Quoted

/-!
# Documents

Values, keys, headers and whole documents. A document is read as a list of statements, which are
then carried out in order. Arrays and inline tables nest, and keys are dotted, fewer than
`nestingLimit` times.
-/

namespace SourceEmitter.Toml

open Reader

/-- The depth of arrays and inline tables, and the length of a dotted key, from which on a document
is refused. -/
def nestingLimit : Nat := 80

/-- A character of a key without quotes. -/
def isKeyChar (c : Char) : Bool := c.isAlphanum || c == '_' || c == '-'

def keyPart : Reader String := do
  match ← peek with
  | some '"' => basicString
  | some '\'' => literalString
  | _ => return String.ofList (← many1 isKeyChar)

/-- Takes a dotted key with the blanks around its parts, and yields the parts before the last and
the last. -/
def key : Reader (List String × String) := do
  let parts ← sepBy1 (do blanks; let part ← keyPart; blanks; return part) (char '.')
  require (parts.length < nestingLimit)
  match parts.getLast? with
  | some last => return (parts.dropLast, last)
  | none => refuse

def scalar : Reader Value := do
  match ← peek with
  | some '"' | some '\'' => return .text (← anyString)
  | some 't' => do word "true"; return .boolean true
  | some 'f' => do word "false"; return .boolean false
  | some _ =>
    (do return .moment (← moment)) <|> (do return .float (← float))
      <|> (do return .integer (← integer))
  | none => refuse

def array (item : Reader Value) : Reader Value := do
  char '['
  let items ← (do
      let items ← sepBy1 (do gap; let value ← item; gap; return value) (char ',')
      let _ ← optional? (char ',')
      return items)
    <|> pure []
  gap
  char ']'
  return .array items

def pair (item : Reader Value) : Reader ((List String × String) × Value) := do
  let key ← key
  char '='
  blanks
  return (key, ← item)

/-- Takes a table on one line, which allows no comma behind its last pair. -/
def inlineTable (item : Reader Value) : Reader Value := do
  char '\x7b'
  let pairs ← sepBy1 (do let entry ← pair item; blanks; return entry) (char ',') <|> pure []
  blanks
  char '\x7d'
  let entries ← (pairs.foldlM (fun entries entry =>
    Node.insertDotted entries entry.1.1 entry.1.2 entry.2) [] :
      Option (List (String × Node)))
  return .table (Node.toEntries entries)

/-- Takes a value in which arrays and inline tables nest up to a depth. -/
def value : Nat → Reader Value
  | 0 => scalar
  | depth + 1 => array (value depth) <|> inlineTable (value depth) <|> scalar

/-- A line, or several, of a document. -/
inductive Statement where
  | nothing
  | pair (path : List String) (key : String) (value : Value)
  | table (path : List String)
  | element (path : List String)

/-- Takes a header and the rest of its line. Two brackets in a row begin an array of tables. -/
def header : Reader Statement := fun s =>
  match s with
  | '[' :: '[' :: rest =>
    (do
      let (path, last) ← key
      char ']'
      char ']'
      lineRest
      return .element (path ++ [last]) : Reader Statement) rest
  | _ =>
    (do
      char '['
      let (path, last) ← key
      char ']'
      lineRest
      return .table (path ++ [last]) : Reader Statement) s

def statement : Reader Statement := do
  match ← peek with
  | some '#' => do comment; lineEnd; return .nothing
  | some '[' => header
  | some '\n' | some '\r' => do newline; return .nothing
  | _ => do
    let ((path, last), value) ← pair (value (nestingLimit - 1))
    lineRest
    return .pair path last value

/-- Takes a whole document, which may begin with a byte order mark. -/
def statements : Reader (List Statement) := do
  let _ ← optional? (char '\uFEFF')
  blanks
  let statements ← many (do let statement ← statement; blanks; return statement)
  atEnd
  return statements

def Draft.add (draft : Draft) : Statement → Option Draft
  | .nothing => some draft
  | .pair path key value => draft.insert path key value
  | .table path => draft.openTable path
  | .element path => draft.openElement path

/-- The table that a text denotes as a document, if it is well-formed. -/
def parse? (text : String) : Option Value := do
  let (statements, _) ← statements text.toList
  let draft ← statements.foldlM Draft.add {}
  return .table (Node.toEntries (← draft.close))

end SourceEmitter.Toml
