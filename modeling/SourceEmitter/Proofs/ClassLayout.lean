import SourceEmitter.Proofs.UnitText

/-!
# The layout of a class file

A class file line by line: which lines there are, in which order, at which level of indentation, for
every combination of the parts that a unit may leave out. The layout does not depend on the state of
a writer, and of the style it needs only the separator.
-/

namespace SourceEmitter

/-- A line of a file at a level of indentation. -/
structure FileLine where
  level : Nat
  text : String
deriving DecidableEq, Repr

namespace FileLine

/-- Lines at one level. -/
def block (level : Nat) (texts : List String) : List FileLine := texts.map (⟨level, ·⟩)

def print (style : Style) (line : FileLine) : String := style.lineAt line.level line.text

/-- The text of lines in a row. -/
def printAll (style : Style) (lines : List FileLine) : String :=
  String.join (lines.map (print style))

@[simp] theorem block_nil (level : Nat) : block level [] = [] := rfl

@[simp] theorem block_cons (level : Nat) (text : String) (rest : List String) :
    block level (text :: rest) = ⟨level, text⟩ :: block level rest := rfl

@[simp] theorem block_append (level : Nat) (first second : List String) :
    block level (first ++ second) = block level first ++ block level second := by
  simp [block]

@[simp] theorem printAll_nil (style : Style) : printAll style [] = "" := rfl

@[simp] theorem printAll_cons (style : Style) (line : FileLine) (rest : List FileLine) :
    printAll style (line :: rest) = style.lineAt line.level line.text ++ printAll style rest := by
  simp [printAll, print]

@[simp] theorem printAll_append (style : Style) (first second : List FileLine) :
    printAll style (first ++ second) = printAll style first ++ printAll style second := by
  simp [printAll, String.join_append]

theorem printAll_block (style : Style) (level : Nat) (texts : List String) :
    printAll style (block level texts) = String.join (texts.map (style.lineAt level)) := by
  simp [printAll, block, print, Function.comp_def]

end FileLine

namespace ClassFile

def docLines (doc : Option String) : List String := doc.toList.map fun doc => "/** " ++ doc ++ " */"

def headerLines (lines : List String) : List String :=
  if lines.isEmpty then []
  else
    ["/*"] ++ lines.map (fun line => if line.isEmpty then " *" else " * " ++ line) ++ [" */"]

def packageLines (package : String) : List String :=
  if package.isEmpty then [] else ["package " ++ package ++ ";", ""]

def importLines (imports : List String) : List String :=
  imports.map (fun spec => "import " ++ spec ++ ";") ++ if imports.isEmpty then [] else [""]

/-- The header line of the class. -/
def declaration (separator : String) (unit : UnitPlan) (name : String) : String :=
  Print.word unit.access ++ Print.word unit.modifiers ++ "class " ++ name ++
    Print.superclass unit.superclass ++
    Print.clause " implements " separator unit.interfaces ++ " \x7b"

def fieldLines (field : FieldPlan) : List String :=
  docLines field.doc ++ ["private " ++ field.type ++ " " ++ field.name ++ ";", ""]

/-- The header line of a method. -/
def signature (separator : String) (method : MethodPlan) : String :=
  Print.word method.access ++ Print.word method.modifiers ++ Print.word method.returns ++
    method.name ++ "(" ++
    separator.intercalate (method.args.map fun arg => arg.type ++ " " ++ arg.name) ++ ")" ++
    Print.clause " throws " separator method.throws ++ " \x7b"

def methodLines (separator : String) (vars : Variables) (method : MethodPlan) : List FileLine :=
  FileLine.block 1 (docLines method.doc ++ method.annotations.map ("@" ++ ·) ++
      [signature separator method]) ++
    FileLine.block 2 (method.body.map vars.expand) ++
    FileLine.block 1 ["\x7d"]

/-- The lines behind the header line of the class. -/
def bodyLines (separator : String) (vars : Variables) (unit : UnitPlan) : List FileLine :=
  FileLine.block 1 (unit.fields.flatMap fieldLines) ++
    [⟨1, ""⟩].intercalate (unit.methods.map (methodLines separator vars)) ++
    FileLine.block 0 ["\x7d"]

/-- The lines of a class file, for a class of this package and name. -/
def layout (separator : String) (vars : Variables) (unit : UnitPlan) (package name : String) :
    List FileLine :=
  FileLine.block 0 (headerLines unit.header ++ packageLines package ++ importLines unit.imports ++
      docLines unit.doc ++ [declaration separator unit name]) ++
    bodyLines separator vars unit

end ClassFile

mutual

/-- The lines of a construct at a level. -/
def Construct.fileLines (separator : String) (level : Nat) : Construct → List FileLine
  | .plain leaf => FileLine.block level (leaf.lines separator)
  | .nest head items =>
    ⟨level, head.line separator⟩ :: Construct.fileLinesAll separator (level + 1) items ++
      [⟨level, "\x7d"⟩]

def Construct.fileLinesAll (separator : String) (level : Nat) : List Construct → List FileLine
  | [] => []
  | construct :: rest =>
    construct.fileLines separator level ++ Construct.fileLinesAll separator level rest

end

mutual

/-- A construct prints as its lines. -/
theorem Construct.printAll_fileLines (style : Style) (level : Nat) :
    (construct : Construct) →
      FileLine.printAll style (construct.fileLines style.separator level) =
        construct.text style level
  | .plain leaf => by
    rw [Construct.fileLines, FileLine.printAll_block, Construct.text]
  | .nest head items => by
    simp [Construct.fileLines, Construct.text, Construct.printAll_fileLinesAll, String.append_assoc]

theorem Construct.printAll_fileLinesAll (style : Style) (level : Nat) :
    (items : List Construct) →
      FileLine.printAll style (Construct.fileLinesAll style.separator level items) =
        Construct.textAll style level items
  | [] => rfl
  | construct :: rest => by
    rw [Construct.fileLinesAll, FileLine.printAll_append, Construct.printAll_fileLines,
      Construct.printAll_fileLinesAll, Construct.textAll]

end

namespace Construct

theorem fileLinesAll_append (separator : String) (level : Nat) (first second : List Construct) :
    fileLinesAll separator level (first ++ second) =
      fileLinesAll separator level first ++ fileLinesAll separator level second := by
  induction first with
  | nil => rfl
  | cons construct rest ih =>
    rw [List.cons_append, fileLinesAll, ih, fileLinesAll, List.append_assoc]

theorem fileLinesAll_plain {α : Type} (separator : String) (level : Nat) (leaf : α → Leaf)
    (xs : List α) :
    fileLinesAll separator level (xs.map fun x => .plain (leaf x)) =
      FileLine.block level (xs.flatMap fun x => (leaf x).lines separator) := by
  induction xs with
  | nil => rfl
  | cons x rest ih =>
    rw [List.map_cons, fileLinesAll, fileLines, ih, List.flatMap_cons, FileLine.block_append]

end Construct

namespace ClassFile

variable (style : Style) (separator : String) (vars : Variables)

theorem fileLinesAll_docLine (level : Nat) (doc : Option String) :
    Construct.fileLinesAll separator level (docLine doc) =
      FileLine.block level (docLines doc) := by
  cases doc <;> rfl

theorem lines_documentedField (field : FieldPlan) :
    (Leaf.documentedField field.type field.name field.doc).lines separator = fieldLines field := by
  cases hdoc : field.doc <;>
    simp [Leaf.lines, fieldLines, docLines, hdoc, Print.field, Print.word, String.append_assoc]

theorem line_method (method : MethodPlan) :
    (Head.method method.access method.modifiers method.returns method.name
      (method.args.map fun arg => (arg.type, arg.name)) method.throws).line separator =
        signature separator method := by
  simp [Head.line, Print.signature, signature, String.append_assoc, Function.comp_def]

theorem fileLinesAll_method (method : MethodPlan) :
    Construct.fileLinesAll separator 1 (ClassFile.method vars method) =
      methodLines separator vars method := by
  have hannotations : ∀ names : List String, names.flatMap (fun name =>
      (Leaf.annotate name []).lines separator) = names.map ("@" ++ ·) := by
    intro names
    simp [Leaf.lines, List.map_eq_flatMap]
  have hbody : ∀ body : List String, body.flatMap (fun text =>
      (Leaf.line (vars.expand text)).lines separator) = body.map vars.expand := by
    intro body
    simp [Leaf.lines, List.map_eq_flatMap]
  rw [ClassFile.method, Construct.fileLinesAll_append, Construct.fileLinesAll_append,
    fileLinesAll_docLine, Construct.fileLinesAll_plain, hannotations, Construct.fileLinesAll,
    Construct.fileLines, Construct.fileLinesAll_plain, hbody, line_method, methodLines]
  simp [Construct.fileLinesAll]

/-- Between two methods stands an empty line, and none before the first or after the last: each
further method brings the one in front of it. -/
theorem fileLinesAll_methods (methods : List MethodPlan) :
    Construct.fileLinesAll separator 1 (ClassFile.methods vars methods) =
      [⟨1, ""⟩].intercalate (methods.map (methodLines separator vars)) := by
  cases methods with
  | nil => rfl
  | cons first others =>
    rw [ClassFile.methods, Construct.fileLinesAll_append, fileLinesAll_method]
    induction others generalizing first with
    | nil => simp [Construct.fileLinesAll]
    | cons second rest ih =>
      rw [List.flatMap_cons, List.cons_append, Construct.fileLinesAll,
        Construct.fileLinesAll_append, fileLinesAll_method, ih second]
      simp [Construct.fileLines, Leaf.lines]

/-- The class behind its documentation is the layout from there on. -/
theorem fileLinesAll_constructs (unit : UnitPlan) (name : String) :
    Construct.fileLinesAll separator 0 (constructs unit vars name) =
      FileLine.block 0 (docLines unit.doc ++ [declaration separator unit name]) ++
        bodyLines separator vars unit := by
  have hfields := Construct.fileLinesAll_plain separator 1 (fun field : FieldPlan =>
    Leaf.documentedField field.type field.name field.doc) unit.fields
  rw [constructs, Construct.fileLinesAll_append, fileLinesAll_docLine, Construct.fileLinesAll,
    Construct.fileLines, Construct.fileLinesAll_append, hfields, fileLinesAll_methods]
  simp only [lines_documentedField]
  simp [Construct.fileLinesAll, Head.line, declaration, bodyLines]

theorem headerText_eq (lines : List String) :
    headerText style lines = FileLine.printAll style (FileLine.block 0 (headerLines lines)) := by
  rw [headerText, headerLines, FileLine.printAll_block]
  split
  · rfl
  · simp [Print.comment]

theorem packageText_eq (package : String) :
    packageText style package =
      FileLine.printAll style (FileLine.block 0 (packageLines package)) := by
  rw [packageText, packageLines, FileLine.printAll_block]
  split <;> simp

theorem importText_eq (imports : List String) :
    importText style imports =
      FileLine.printAll style (FileLine.block 0 (importLines imports)) := by
  rw [importText, importLines, FileLine.printAll_block]
  split <;> simp [Function.comp_def, String.join_append]

/-- The text of a class file is its layout, line by line. -/
theorem text_eq_printAll (unit : UnitPlan) (package name : String) :
    text unit vars style package name =
      FileLine.printAll style (layout style.separator vars unit package name) := by
  rw [text, headerText_eq, packageText_eq, importText_eq, ← Construct.printAll_fileLinesAll,
    fileLinesAll_constructs, layout]
  simp [String.append_assoc]

/-- The unit with the lines of its method bodies expanded. -/
def withBodies (vars : Variables) (unit : UnitPlan) : UnitPlan :=
  { unit with methods := unit.methods.map fun method =>
      { method with body := method.body.map vars.expand } }

theorem methodLines_expanded (method : MethodPlan) :
    methodLines separator .empty { method with body := method.body.map vars.expand } =
      methodLines separator vars method := by
  simp [methodLines, signature, Function.comp_def]

/-- Expanding the bodies ahead of the layout leaves nothing of the unit to expand. -/
theorem layout_withBodies (unit : UnitPlan) (package name : String) :
    layout separator .empty (withBodies vars unit) package name =
      layout separator vars unit package name := by
  simp [layout, bodyLines, withBodies, declaration, Function.comp_def, methodLines_expanded]

end ClassFile

/-- A unit with a class name renders as its layout, whatever parts it has and whatever the style,
and to the variables a unit is nothing but the lines of its method bodies. -/
theorem class_renders_layout (unit : UnitPlan) (vars : Variables) (style : Style) {sink : Sink}
    (hsink : sink.NeverFails) (hname : (DottedName.split unit.fullName).2 ≠ "") :
    ClassFile.render unit vars style sink =
        (sink.completed (FileLine.printAll style (ClassFile.layout style.separator vars unit
          (DottedName.split unit.fullName).1 (DottedName.split unit.fullName).2)), .ok ()) ∧
      ClassFile.render unit vars style sink =
        ClassFile.render (ClassFile.withBodies vars unit) .empty style sink := by
  have hisEmpty : (DottedName.split unit.fullName).2.isEmpty = false := by simpa using hname
  have hbodies : (ClassFile.withBodies vars unit).fullName = unit.fullName := rfl
  refine ⟨?_, ?_⟩
  · rw [ClassFile.render_eq unit vars style hsink hisEmpty, ClassFile.text_eq_printAll]
  · rw [ClassFile.render_eq unit vars style hsink hisEmpty,
      ClassFile.render_eq _ .empty style hsink (hbodies ▸ hisEmpty), ClassFile.text_eq_printAll,
      ClassFile.text_eq_printAll, hbodies, ClassFile.layout_withBodies]

/-- A field with documentation, a method with every part and a method with none; the reference to
the variable is kept in the header and in the documentation. -/
theorem class_renders_layout_members :
    let unit : UnitPlan :=
      { kind := "class", name := "a.B", header := ["$\x7bv\x7d", ""], imports := ["c.*"],
        access := "", modifiers := "final", superclass := some "S", interfaces := ["I", "J"],
        fields := [{ type := "T", name := "t", doc := some "$\x7bv\x7d" }],
        methods := [
          { returns := "int", name := "f", args := [⟨"T", "x"⟩, ⟨"U", "y"⟩], throws := ["E"],
            annotations := ["A"], body := ["return $\x7bv\x7d;", ""] },
          { access := "", name := "g" }] }
    let vars := Variables.ofList [("v", "1")]
    let lines : List FileLine :=
      [⟨0, "/*"⟩, ⟨0, " * $\x7bv\x7d"⟩, ⟨0, " *"⟩, ⟨0, " */"⟩, ⟨0, "package a;"⟩, ⟨0, ""⟩,
        ⟨0, "import c.*;"⟩, ⟨0, ""⟩, ⟨0, "final class B extends S implements I; J \x7b"⟩,
        ⟨1, "/** $\x7bv\x7d */"⟩, ⟨1, "private T t;"⟩, ⟨1, ""⟩,
        ⟨1, "@A"⟩, ⟨1, "public int f(T x; U y) throws E \x7b"⟩, ⟨2, "return 1;"⟩, ⟨2, ""⟩,
        ⟨1, "\x7d"⟩, ⟨1, ""⟩, ⟨1, "g() \x7b"⟩, ⟨1, "\x7d"⟩, ⟨0, "\x7d"⟩]
    let style : Style := ⟨"\t", "; ", "\r\n"⟩
    (DottedName.split unit.fullName).2 ≠ "" ∧
      ClassFile.render unit vars style .unlimited =
        (Sink.unlimited.completed (FileLine.printAll style lines), .ok ()) ∧
      ClassFile.render unit vars style .unlimited =
        ClassFile.render (ClassFile.withBodies vars unit) .empty style .unlimited := by
  intro unit vars lines style
  have hsink : Sink.unlimited.NeverFails := ⟨rfl, rfl⟩
  have hname : (DottedName.split unit.fullName).2 ≠ "" := by decide
  have hlines : ClassFile.layout style.separator vars unit (DottedName.split unit.fullName).1
      (DottedName.split unit.fullName).2 = lines := by decide +kernel
  obtain ⟨hrender, hbodies⟩ := class_renders_layout unit vars style hsink hname
  rw [hlines] at hrender
  exact ⟨hname, hrender, hbodies⟩

end SourceEmitter
