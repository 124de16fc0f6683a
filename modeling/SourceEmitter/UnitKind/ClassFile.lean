import SourceEmitter.Java
import SourceEmitter.UnitKind

/-!
# Class files

A class file: an optional header comment, the package, the imports, and the class with its private
fields and its methods. Only the lines of method bodies are expanded.
-/

namespace SourceEmitter

namespace Writer

def headerComment (w : Writer) (lines : List String) : Writer :=
  if lines.isEmpty then w else w.comment true lines

/-- The package line and an empty line, unless the package is empty. -/
def packageSection (w : Writer) (package : String) : Writer :=
  if package.isEmpty then w else w.packageDecl package |>.blankLine

/-- One import line for each import, and an empty line if there are any. -/
def importSection (w : Writer) (imports : List String) : Writer :=
  let w := imports.foldl importDecl w
  if imports.isEmpty then w else w.blankLine

def openPlannedClass (w : Writer) (unit : UnitPlan) (name : String) : Writer :=
  let w := w.openClass unit.access unit.modifiers name
  let w := match unit.superclass with
    | none => w
    | some superclass => w.addSuperclass superclass
  unit.interfaces.foldl addInterface w

def plannedField (w : Writer) (field : FieldPlan) : Writer :=
  w.documentedField field.type field.name field.doc

def plannedMethod (vars : Variables) (w : Writer) (method : MethodPlan) : Writer :=
  let w := w.docLine method.doc
  let w := method.annotations.foldl (fun w name => w.annotate name []) w
  let w := w.openMethod method.access method.modifiers method.returns method.name
  let w := method.args.foldl (fun w arg => w.addArgument arg.type arg.name) w
  let w := method.throws.foldl addException w
  w.fullLinesWith vars method.body |>.closeBody

/-- Methods with an empty line between any two. -/
def plannedMethods (w : Writer) (vars : Variables) : List MethodPlan → Writer
  | [] => w
  | first :: others =>
    others.foldl (fun w method => plannedMethod vars w.blankLine method)
      (plannedMethod vars w first)

/-- The whole class file, for a class of this package and name. -/
def classFile (w : Writer) (unit : UnitPlan) (vars : Variables) (package name : String) :
    Writer :=
  let w := w.headerComment unit.header |>.packageSection package |>.importSection unit.imports
  let w := w.docLine unit.doc |>.openPlannedClass unit name
  let w := unit.fields.foldl plannedField w
  (w.plannedMethods vars unit.methods).closeBody

end Writer

namespace ClassFile

/-- Emits a class. A name that ends in its package's dot is refused before anything is written; a
refusal of the sink shows once the class is done. -/
def emit (unit : UnitPlan) (vars : Variables) : Emission := fun w =>
  let (package, name) := DottedName.split unit.fullName
  if name.isEmpty then (w, .error (.badUnit unit.name .noClassName))
  else
    let w := w.classFile unit vars package name
    match w.failure with
    | some fault => (w.clearFailure, .error (.io (.sink fault)))
    | none => (w, .ok ())

def render (unit : UnitPlan) (vars : Variables) (style : Style) (sink : Sink) : Rendering :=
  (emit unit vars).run style sink

def place (placement : Placement) (unit : UnitPlan) : Except PlanError Path :=
  (placement.sourcePath unit.fullName).mapError .output

def store (unit : UnitPlan) (vars : Variables) (placement : Placement) (tree : FileTree) :
    FileTree × Except PlanError Path :=
  tree.storeEmission (place placement unit) placement.layout.style (emit unit vars)

end ClassFile

def classKind : UnitKind := ⟨"class", ClassFile.render, ClassFile.store⟩

end SourceEmitter
