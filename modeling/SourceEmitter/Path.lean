import SourceEmitter.Text.Pieces

/-!
# Paths

A path is a text and stays the text it was given as; nothing is normalised. Its components are read
off the text: repeated slashes and `.` count for nothing, except that a relative path may begin
with one `.`. Joining with an absolute path gives that path alone.
-/

namespace SourceEmitter

/-- A path of the file system, as written. -/
structure Path where
  text : String
deriving DecidableEq, Repr

/-- What a path says about one step. -/
inductive Component where
  | root
  | current
  | parent
  | normal (name : String)
deriving DecidableEq, Repr

def Component.ofStep (segment : String) : Component :=
  if segment = ".." then .parent else .normal segment

namespace Path

def isAbsolute (path : Path) : Bool := path.text.toList.head? == some '/'

def isEmpty (path : Path) : Bool := path.text.isEmpty

/-- Puts a path below another, with a slash between them where one is needed. -/
def join (base path : Path) : Path :=
  if path.isAbsolute then path
  else if base.isEmpty || base.text.toList.getLast? == some '/' then ⟨base.text ++ path.text⟩
  else ⟨base.text ++ "/" ++ path.text⟩

def joinAll (base : Path) (texts : List String) : Path :=
  texts.foldl (fun path text => join path ⟨text⟩) base

def segments (path : Path) : List String := Text.pieces '/' path.text

/-- A segment that is a step wherever it stands. -/
def isStep (segment : String) : Bool := segment ≠ "" && segment ≠ "."

/-- What stands in front of the steps: the root, a leading `.`, or nothing. -/
def anchor (path : Path) : List Component :=
  if path.isAbsolute then [.root]
  else if path.segments.head? = some "." then [.current]
  else []

def components (path : Path) : List Component :=
  path.anchor ++ (path.segments.filter isStep).map Component.ofStep

/-- The path without its last component and the slashes and dots before that; `none` if there is
nothing to take off. -/
def parent? (path : Path) : Option Path :=
  match path.segments.reverse.dropWhile (!isStep ·) with
  | _ :: before =>
    match (before.dropWhile (!isStep ·)).reverse with
    | [] =>
      some ⟨if path.isAbsolute then "/"
            else if path.segments.head? = some "." then "." else ""⟩
    | kept => some ⟨"/".intercalate kept⟩
  | [] => if path.anchor = [.current] then some ⟨""⟩ else none

/-- Whether a path has a normal component and otherwise nothing but `.`, so that joining it to a
root stays strictly below that root. -/
def staysBelow (path : Path) : Bool :=
  path.components.all (fun c => match c with
    | .normal _ | .current => true
    | .parent | .root => false)
  && path.components.any (fun c => match c with
    | .normal _ => true
    | _ => false)

theorem join_of_isAbsolute (base : Path) {path : Path} (h : path.isAbsolute = true) :
    base.join path = path := by
  simp [join, h]

theorem root_mem_components_iff (path : Path) :
    .root ∈ path.components ↔ path.isAbsolute = true := by
  have h : ∀ s, Component.ofStep s ≠ .root := by
    intro s
    unfold Component.ofStep
    split <;> simp
  simp only [components, List.mem_append, List.mem_map, anchor]
  constructor
  · rintro (hr | ⟨s, _, hs⟩)
    · split at hr
      · assumption
      · split at hr <;> simp at hr
    · exact absurd hs (h s)
  · intro ha
    simp [ha]

end Path

end SourceEmitter
