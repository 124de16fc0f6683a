import SourceEmitter.Toml.Value

/-!
# Tables under construction

A document names a table in several ways, and what may be added to it later depends on the way it
came about. A table is *implicit* while only keys or headers below it have been seen, and *dotted*
if dotted keys made it. Dotted keys extend implicit tables only, a header opens a table that is
absent or implicit and not dotted, and no key is given twice.
-/

namespace SourceEmitter.Toml

/-- A value, a table, or an array of tables of a document that is still being read. -/
inductive Node where
  | value (value : Value)
  | table (isImplicit isDotted : Bool) (entries : List (String × Node))
  | tables (elements : List (List (String × Node)))

namespace Node

def find? (entries : List (String × Node)) (key : String) : Option Node :=
  (entries.find? (·.1 = key)).map (·.2)

def put (entries : List (String × Node)) (key : String) (node : Node) :
    List (String × Node) :=
  entries.filter (·.1 ≠ key) ++ [(key, node)]

/-- Edits the entries that a path of keys leads to, creating implicit tables on the way. The edit
learns whether those entries belong to a dotted table. An array of tables stands for its last
element; no path leads through a value, and dotted keys lead through implicit tables only. -/
def editAt (byDots : Bool) (edit : Bool → List (String × Node) → Option (List (String × Node))) :
    List String → Bool → List (String × Node) → Option (List (String × Node))
  | [], isDotted, entries => edit isDotted entries
  | key :: rest, _, entries =>
    match find? entries key with
    | none => do
      let inner ← editAt byDots edit rest byDots []
      return put entries key (table true byDots inner)
    | some (value _) => none
    | some (tables elements) => do
      let last ← elements.getLast?
      let inner ← editAt byDots edit rest false last
      return put entries key (tables (elements.dropLast ++ [inner]))
    | some (table isImplicit isDotted inner) => do
      if byDots && !isImplicit then none
      let inner ← editAt byDots edit rest isDotted inner
      return put entries key (table isImplicit isDotted inner)

/-- Adds a value under a dotted key. A key with dots may only add to a table that dotted keys made,
and a plain key only to one that they did not. -/
def insertDotted (entries : List (String × Node)) (path : List String) (key : String)
    (value : Value) : Option (List (String × Node)) :=
  editAt true
    (fun isDotted entries =>
      if isDotted == path.isEmpty || (find? entries key).isSome then none
      else some (entries ++ [(key, .value value)]))
    path false entries

mutual

/-- The finished value of a node. -/
def toValue : Node → Value
  | value v => v
  | table _ _ entries => .table (toEntries entries)
  | tables elements => .array (toTables elements)

def toEntries : List (String × Node) → List (String × Value)
  | [] => []
  | (key, node) :: rest => (key, toValue node) :: toEntries rest

def toTables : List (List (String × Node)) → List Value
  | [] => []
  | entries :: rest => .table (toEntries entries) :: toTables rest

end

end Node

/-- A document being read: the tables that are complete, and the table that the last header opened
with the path of that header. -/
structure Draft where
  root : List (String × Node) := []
  current : List (String × Node) := []
  path : List String := []
  isElement : Bool := false

namespace Draft

/-- Puts the open table at its place. -/
def close (draft : Draft) : Option (List (String × Node)) :=
  match draft.path.getLast? with
  | none => some draft.current
  | some key =>
    Node.editAt false
      (fun _ entries =>
        if draft.isElement then
          match Node.find? entries key with
          | none => some (Node.put entries key (.tables [draft.current]))
          | some (.tables elements) =>
            some (Node.put entries key (.tables (elements ++ [draft.current])))
          | some _ => none
        else some (Node.put entries key (.table false false draft.current)))
      draft.path.dropLast false draft.root

/-- The entries of the implicit table at a path that a header opens, or none if nothing is there
yet. Refuses what a header may not open. -/
def reopen? (entries : List (String × Node)) (key : String) : Option (List (String × Node)) :=
  match Node.find? entries key with
  | none => some []
  | some (.table true false inner) => some inner
  | some _ => none

/-- The entries that a path of headers leads to, if there are any yet. -/
def entriesAt : List String → List (String × Node) → List (String × Node)
  | [], entries => entries
  | key :: rest, entries =>
    match Node.find? entries key with
    | some (.table _ _ inner) => entriesAt rest inner
    | some (.tables elements) => entriesAt rest (elements.getLast?.getD [])
    | _ => []

/-- Opens the table of a header. -/
def openTable (draft : Draft) (path : List String) : Option Draft := do
  let root ← draft.close
  let key ← path.getLast?
  let current ← reopen? (entriesAt path.dropLast root) key
  let root ← Node.editAt false (fun _ entries => some (entries.filter (·.1 ≠ key)))
    path.dropLast false root
  return { root, current, path, isElement := false }

/-- Opens a new element of the array of tables of a header. -/
def openElement (draft : Draft) (path : List String) : Option Draft := do
  let root ← draft.close
  let key ← path.getLast?
  let root ← Node.editAt false
    (fun _ entries =>
      match Node.find? entries key with
      | none => some (Node.put entries key (.tables []))
      | some (.tables _) => some entries
      | some _ => none)
    path.dropLast false root
  return { root, current := [], path, isElement := true }

def insert (draft : Draft) (path : List String) (key : String) (value : Value) : Option Draft := do
  let current ← Node.insertDotted draft.current path key value
  return { draft with current }

end Draft

end SourceEmitter.Toml
