import SourceEmitter.OutputError
import SourceEmitter.Path

/-!
# File trees

A file system without links: directories and files by their location, the list of names on the way
from the root, and a working directory where relative paths begin. Paths are resolved one segment
at a time; `..` leads to the containing directory, and every segment but the last must lead to a
directory.
-/

namespace SourceEmitter

/-- What stands at a location. -/
inductive Entry where
  | directory
  | file (content : ByteArray)

/-- The names on the way from the root. -/
abbrev Location := List String

/-- The entries of a file system by location. The root is a directory without an entry. -/
structure FileTree where
  workingDirectory : Location
  entries : List (Location × Entry)

namespace FileTree

/-- The length in bytes from which on a path is too long. -/
def pathLimit : Nat := 4096

def nameLimit : Nat := 255

/-- What stands at a location. -/
def get? (tree : FileTree) (location : Location) : Option Entry :=
  if location = [] then some .directory
  else (tree.entries.find? (·.1 = location)).map (·.2)

/-- Puts an entry at a location, in place of what was there. -/
def put (tree : FileTree) (location : Location) (entry : Entry) : FileTree :=
  { tree with entries := (location, entry) :: tree.entries.filter (·.1 ≠ location) }

def isDirectory (tree : FileTree) (location : Location) : Bool :=
  match tree.get? location with
  | some .directory => true
  | _ => false

/-- A tree that holds nothing but the way to its working directory. -/
def startingAt (workingDirectory : Location) : FileTree where
  workingDirectory := workingDirectory
  entries := (List.range workingDirectory.length).map fun n =>
    (workingDirectory.take (n + 1), .directory)

def start (tree : FileTree) (path : Path) : Location :=
  if path.isAbsolute then [] else tree.workingDirectory

/-- Why the text of a path is refused as such, if it is. -/
def textFault (path : Path) : Option FileFault :=
  if path.isEmpty then some .notFound
  else if path.text.toList.contains '\x00' then some .nulInPath
  else if pathLimit ≤ path.text.utf8ByteSize then some .nameTooLong
  else none

/-- Where a name leads from a directory, whether or not anything is there. -/
def child (location : Location) (name : String) : Except FileFault Location :=
  if name = "" ∨ name = "." then .ok location
  else if name = ".." then .ok location.dropLast
  else if nameLimit < name.utf8ByteSize then .error .nameTooLong
  else .ok (location ++ [name])

/-- Follows segments to the location they lead to, through directories only. -/
def walk (tree : FileTree) : Location → List String → Except FileFault Location
  | location, [] => .ok location
  | location, name :: rest =>
    if tree.isDirectory location then
      match child location name with
      | .error fault => .error fault
      | .ok next => if (tree.get? next).isSome then walk tree next rest else .error .notFound
    else .error .notDirectory

def lookup (tree : FileTree) (path : Path) : Except FileFault Entry :=
  match textFault path with
  | some fault => .error fault
  | none =>
    match tree.walk (tree.start path) path.segments with
    | .error fault => .error fault
    | .ok location =>
      match tree.get? location with
      | some entry => .ok entry
      | none => .error .notFound

def has (tree : FileTree) (path : Path) : Bool := (tree.lookup path).isOk

def read (tree : FileTree) (path : Path) : Except FileFault ByteArray :=
  match tree.lookup path with
  | .error fault => .error fault
  | .ok .directory => .error .isDirectory
  | .ok (.file content) => .ok content

def readText (tree : FileTree) (path : Path) : Except FileFault String :=
  match tree.read path with
  | .error fault => .error fault
  | .ok content =>
    match Text.Utf8.decode content with
    | .ok text => .ok text
    | .error _ => .error .notUtf8

/-- Follows segments and creates the directories that are missing. Directories created before a
fault stay. -/
def makeAlong (tree : FileTree) : Location → List String → FileTree × Except FileFault Unit
  | location, [] => (tree, if tree.isDirectory location then .ok () else .error .notDirectory)
  | location, name :: rest =>
    if tree.isDirectory location then
      match child location name with
      | .error fault => (tree, .error fault)
      | .ok next =>
        if (tree.get? next).isSome then makeAlong tree next rest
        else makeAlong (tree.put next .directory) next rest
    else (tree, .error .notDirectory)

/-- Makes a path lead to a directory, creating what is missing on the way. The empty path is the
working directory and needs nothing. -/
def makeDirectories (tree : FileTree) (path : Path) : FileTree × Except FileFault Unit :=
  if path.isEmpty then (tree, .ok ())
  else
    match textFault path with
    | some fault => (tree, .error fault)
    | none => tree.makeAlong (tree.start path) path.segments

/-- The location of the file that a path names in an existing directory, whether or not the file
exists. -/
def fileLocation (tree : FileTree) (path : Path) : Except FileFault Location :=
  match textFault path with
  | some fault => .error fault
  | none =>
    match tree.walk (tree.start path) path.segments.dropLast with
    | .error fault => .error fault
    | .ok directory =>
      if tree.isDirectory directory then
        match path.segments.getLast? with
        | none => .error .isDirectory
        | some name =>
          if Path.isStep name && name ≠ ".." then child directory name else .error .isDirectory
      else .error .notDirectory

/-- Opens a file for writing: creates it if it is missing and empties it if it is not. -/
def openFile (tree : FileTree) (path : Path) : Except FileFault (FileTree × Location) :=
  match tree.fileLocation path with
  | .error fault => .error fault
  | .ok location =>
    if tree.isDirectory location then .error .isDirectory
    else .ok (tree.put location (.file ByteArray.empty), location)

def makeParent (tree : FileTree) (path : Path) : FileTree × Except FileFault Unit :=
  match path.parent? with
  | none => (tree, .ok ())
  | some directory => tree.makeDirectories directory

/-- Opens a file for writing after creating the directories above it. -/
def openNew (tree : FileTree) (path : Path) : FileTree × Except FileFault Location :=
  match tree.makeParent path with
  | (tree, .error fault) => (tree, .error fault)
  | (tree, .ok ()) =>
    match tree.openFile path with
    | .error fault => (tree, .error fault)
    | .ok (tree, location) => (tree, .ok location)

def store (tree : FileTree) (path : Path) (content : ByteArray) :
    FileTree × Except FileFault Unit :=
  match tree.openNew path with
  | (tree, .error fault) => (tree, .error fault)
  | (tree, .ok location) => (tree.put location (.file content), .ok ())

/-- What stands below the working directory, by the relative path and in the order of paths. -/
def listing (tree : FileTree) : List (String × Entry) :=
  let below := tree.entries.filterMap fun (location, entry) =>
    if tree.workingDirectory.isPrefixOf location && location.length > tree.workingDirectory.length
    then some ("/".intercalate (location.drop tree.workingDirectory.length), entry)
    else none
  below.mergeSort fun a b => a.1 ≤ b.1

theorem find?_filter_ne (entries : List (Location × Entry)) {location other : Location}
    (h : other ≠ location) :
    (entries.filter (·.1 ≠ location)).find? (·.1 = other) = entries.find? (·.1 = other) := by
  induction entries with
  | nil => rfl
  | cons entry rest ih =>
    by_cases hl : entry.1 = location
    · have ho : ¬entry.1 = other := fun he => h (he.symm.trans hl)
      simpa [List.filter_cons, List.find?_cons, hl, ho, Ne.symm h] using ih
    · by_cases ho : entry.1 = other
      · simp [ho, h]
      · simpa [List.filter_cons, List.find?_cons, hl, ho] using ih

/-- An entry that is put changes its own location and no other. -/
theorem get?_put (tree : FileTree) (location other : Location) (entry : Entry)
    (h : location ≠ []) :
    (tree.put location entry).get? other =
      if other = location then some entry else tree.get? other := by
  by_cases hn : other = []
  · subst hn
    simp [get?, Ne.symm h]
  · by_cases ho : other = location
    · subst ho
      simp [get?, put, hn]
    · have hl : ¬location = other := fun he => ho he.symm
      have := find?_filter_ne tree.entries ho
      simp only [get?, put, hn, if_false, List.find?_cons, hl, decide_false, ho]
      rw [this]

end FileTree

end SourceEmitter
