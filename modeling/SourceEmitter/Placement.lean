import SourceEmitter.DottedName
import SourceEmitter.FileTree
import SourceEmitter.Layout

/-!
# Placement of generated files

The path of every generated file under a valid layout. Sources follow their qualified name;
resources are named by a package and a name or by a path, and a name that would lead out of its
root is refused.
-/

namespace SourceEmitter

/-- A layout that has passed its check. -/
structure Placement where
  layout : Layout
  valid : layout.check = .ok ()

namespace Placement

/-- The placement of a layout, or the first fault of the layout. -/
def ofLayout (layout : Layout) : Except OutputError Placement :=
  match h : layout.check with
  | .ok () => .ok ⟨layout, h⟩
  | .error fault => .error (.badSettings fault)

/-- The path of the source file of a class: `a.b.C` goes to `a/b/C.java` below the sources. -/
def sourcePath (placement : Placement) (name : String) : Except OutputError Path :=
  match DottedName.segments? name with
  | none => .error (.badName name)
  | some segments =>
    match segments.getLast? with
    | none => .error (.badName name)
    | some last =>
      .ok ((placement.layout.sources.joinAll segments.dropLast).join ⟨last ++ ".java"⟩)

/-- The path of a resource relative to the sources: the non-empty segments of the package, and the
name as it is. -/
def relativeResource (package name : String) : Path :=
  (Path.joinAll ⟨""⟩ ((Text.pieces '.' package).filter (· ≠ ""))).join ⟨name⟩

/-- A path that stays below its root, or an error that names `name`. -/
def requireBelow (path : Path) (name : String) : Except OutputError Path :=
  if path.staysBelow then .ok path else .error (.badName name)

/-- The path of the resource `name` of a package, below the sources. -/
def packageResource (placement : Placement) (package name : String) : Except OutputError Path :=
  if name.isEmpty then .error (.badName name)
  else
    (requireBelow (relativeResource package name) name).map placement.layout.sources.join

def dottedResource (placement : Placement) (name : String) : Except OutputError Path :=
  let (package, name) := DottedName.split name
  placement.packageResource package name

def withoutLeadingSlashes (path : String) : Path := ⟨Text.dropLeading (· = '/') path⟩

/-- The path of a resource below the resource root; slashes at the start are ignored. -/
def namedResource (placement : Placement) (path : String) : Except OutputError Path :=
  (requireBelow (withoutLeadingSlashes path) path).map placement.layout.resources.join

/-- The path of a resource below the base directory; blanks at both ends, and then slashes at the
start, are ignored. -/
def baseResource (placement : Placement) (path : String) : Except OutputError Path :=
  (requireBelow (withoutLeadingSlashes (Text.trimBoth Text.isBlank path)) path).map
    placement.layout.base.join

/-- The root where a resource is looked for: the first of `candidates` that exists, then the
resource root if it exists, and else the sources. -/
def bestRoot (placement : Placement) (tree : FileTree) (candidates : List Path) : Path :=
  match (candidates.map placement.layout.base.join).find? tree.has with
  | some root => root
  | none =>
    if tree.has placement.layout.resources then placement.layout.resources
    else placement.layout.sources

/-- The path of a resource below the best of several roots. -/
def findResource (placement : Placement) (tree : FileTree) (path : String)
    (candidates : List Path) : Except OutputError Path :=
  (requireBelow (withoutLeadingSlashes path) path).map (placement.bestRoot tree candidates).join

end Placement

namespace FileTree

def openOutput (tree : FileTree) (path : Path) : FileTree × Except OutputError Location :=
  match tree.openNew path with
  | (tree, .ok location) => (tree, .ok location)
  | (tree, .error fault) => (tree, .error (.io (.file fault)))

def replaceText (tree : FileTree) (path : Path) (text : String) :
    FileTree × Except OutputError Unit :=
  match tree.openOutput path with
  | (tree, .ok location) => (tree.put location (.file text.toByteArray), .ok ())
  | (tree, .error error) => (tree, .error error)

/-- Writes a text to the file at a path, if there is a path. -/
def replaceTextAt (tree : FileTree) (text : String) :
    Except OutputError Path → FileTree × Except OutputError Unit
  | .ok path => tree.replaceText path text
  | .error error => (tree, .error error)

end FileTree

end SourceEmitter
