/-!
# Document values

The values of a TOML document. Keys of a table are unique; their order carries no meaning. Numbers
keep what decides whether a document is well-formed, and a date or time keeps its canonical text.
-/

namespace SourceEmitter.Toml

/-- A value of a document. -/
inductive Value where
  | text (value : String)
  | integer (value : Int)
  | float (written : String)
  | boolean (value : Bool)
  | moment (canonical : String)
  | array (items : List Value)
  | table (entries : List (String × Value))
deriving Inhabited

def Value.lookup (entries : List (String × Value)) (key : String) : Option Value :=
  (entries.find? (·.1 = key)).map (·.2)

end SourceEmitter.Toml
