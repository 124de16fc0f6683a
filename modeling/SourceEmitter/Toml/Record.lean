import SourceEmitter.Toml.Value

/-!
# Records in documents

A record is written as a table, its fields by key, or as an array, its fields in order. Keys that
name no field and items beyond the last field are ignored. A date or time counts as a table with
one entry, its canonical text.
-/

namespace SourceEmitter.Toml

inductive Record where
  | named (entries : List (String × Value))
  | listed (items : List Value)

/-- The key under which a date or time shows its text when a table is wanted. -/
def momentKey : String := "$__toml_private_datetime"

/-- The entries of a value where a table is wanted. -/
def Value.entries? : Value → Option (List (String × Value))
  | .table entries => some entries
  | .moment canonical => some [(momentKey, .text canonical)]
  | _ => none

def Value.record? : Value → Option Record
  | .array items => some (.listed items)
  | value => value.entries?.map .named

def Value.text? : Value → Option String
  | .text value => some value
  | _ => none

def Value.list? {α : Type} (decode : Value → Option α) : Value → Option (List α)
  | .array items => items.mapM decode
  | _ => none

def Value.texts? (value : Value) : Option (List String) := value.list? Value.text?

namespace Record

variable {α : Type}

def find? (record : Record) (place : Nat) (key : String) : Option Value :=
  match record with
  | named entries => Value.lookup entries key
  | listed items => items[place]?

def require (record : Record) (place : Nat) (key : String) (decode : Value → Option α) :
    Option α :=
  (record.find? place key).bind decode

def default (record : Record) (place : Nat) (key : String) (decode : Value → Option α)
    (fallback : α) : Option α :=
  match record.find? place key with
  | some value => decode value
  | none => some fallback

def optionalText (record : Record) (place : Nat) (key : String) : Option (Option String) :=
  record.default place key (fun value => value.text?.map some) none

end Record

end SourceEmitter.Toml
