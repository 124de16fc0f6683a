import SourceEmitter.KindTable
import SourceEmitter.Proofs.ConstructText

/-!
# The text of a unit

Rendering a unit to a sink without limit appends a text to it that depends on the unit, the
variables and the style alone. A class file is its header, its package and its imports, and then
constructs; a resource file is its lines. The sink is flushed once.
-/

namespace SourceEmitter

namespace ClassFile

def docLine (doc : Option String) : List Construct :=
  doc.toList.map fun doc => .plain (.docComment false [doc])

/-- A method behind its documentation and its annotations. -/
def method (vars : Variables) (method : MethodPlan) : List Construct :=
  docLine method.doc ++ method.annotations.map (fun name => .plain (.annotate name [])) ++
    [.nest (.method method.access method.modifiers method.returns method.name
        (method.args.map fun arg => (arg.type, arg.name)) method.throws)
      (method.body.map fun text => .plain (.line (vars.expand text)))]

/-- Methods with an empty line between any two. -/
def methods (vars : Variables) : List MethodPlan → List Construct
  | [] => []
  | first :: others =>
    method vars first ++ others.flatMap fun next => .plain .blank :: method vars next

/-- The class behind its documentation. -/
def constructs (unit : UnitPlan) (vars : Variables) (name : String) : List Construct :=
  docLine unit.doc ++
    [.nest (.classDecl unit.access unit.modifiers name unit.superclass unit.interfaces)
      (unit.fields.map (fun field =>
          .plain (.documentedField field.type field.name field.doc)) ++
        methods vars unit.methods)]

def headerText (style : Style) (lines : List String) : String :=
  if lines.isEmpty then ""
  else String.join ((Print.comment "/*" true lines).map (style.lineAt 0))

def packageText (style : Style) (package : String) : String :=
  if package.isEmpty then ""
  else style.lineAt 0 ("package " ++ package ++ ";") ++ style.lineAt 0 ""

def importText (style : Style) (imports : List String) : String :=
  String.join (imports.map fun spec => style.lineAt 0 ("import " ++ spec ++ ";")) ++
    if imports.isEmpty then "" else style.lineAt 0 ""

/-- The text of the source file of a class. -/
def text (unit : UnitPlan) (vars : Variables) (style : Style) (package name : String) : String :=
  headerText style unit.header ++ packageText style package ++ importText style unit.imports ++
    Construct.textAll style 0 (constructs unit vars name)

end ClassFile

namespace Construct

theorem opsAll_append (first second : List Construct) :
    opsAll (first ++ second) = opsAll first ++ opsAll second := by
  induction first with
  | nil => rfl
  | cons construct rest ih => rw [List.cons_append, opsAll, opsAll, ih, List.append_assoc]

/-- Steps that issue the calls of constructs still do so when they are repeated over a list. -/
theorem applyAll_flatMap {α : Type} {step : Writer → α → Writer} {items : α → List Construct}
    (hstep : ∀ w x, JavaOp.applyAll w (opsAll (items x)) = step w x) (w : Writer) (xs : List α) :
    JavaOp.applyAll w (opsAll (xs.flatMap items)) = xs.foldl step w := by
  induction xs generalizing w with
  | nil => rfl
  | cons x rest ih =>
    rw [List.flatMap_cons, opsAll_append, JavaOp.applyAll_append, hstep, ih, List.foldl_cons]

theorem applyAll_map {α : Type} {step : Writer → α → Writer} {item : α → Construct}
    (hstep : ∀ w x, JavaOp.applyAll w (item x).ops = step w x) (w : Writer) (xs : List α) :
    JavaOp.applyAll w (opsAll (xs.map item)) = xs.foldl step w := by
  rw [List.map_eq_flatMap]
  refine applyAll_flatMap (fun w x => ?_) w xs
  rw [opsAll, opsAll, List.append_nil, hstep]

theorem applyAll_nest (w : Writer) (head : Head) (items : List Construct) :
    JavaOp.applyAll w (opsAll [.nest head items]) =
      JavaOp.applyAll (JavaOp.applyAll (JavaOp.applyAll w head.opening) (opsAll items))
        head.closing := by
  rw [opsAll, opsAll, List.append_nil, ops, JavaOp.applyAll_append, JavaOp.applyAll_append]

end Construct

namespace Writer

theorem applyAll_docLine (w : Writer) (doc : Option String) :
    JavaOp.applyAll w (Construct.opsAll (ClassFile.docLine doc)) = w.docLine doc := by
  cases doc <;> rfl

theorem applyAll_openMethod (w : Writer) (method : MethodPlan) :
    JavaOp.applyAll w (Head.method method.access method.modifiers method.returns method.name
        (method.args.map fun arg => (arg.type, arg.name)) method.throws).opening =
      method.throws.foldl addException (method.args.foldl
        (fun w arg => w.addArgument arg.type arg.name)
        (w.openMethod method.access method.modifiers method.returns method.name)) := by
  rw [Head.opening, JavaOp.applyAll_cons, JavaOp.signature, JavaOp.applyAll_append, List.map_map]
  rw [JavaOp.applyAll_map (fun _ _ => rfl)]
  refine congrArg (method.throws.foldl addException) ?_
  exact JavaOp.applyAll_map (fun _ _ => rfl) _ _

theorem applyAll_method (vars : Variables) (w : Writer) (method : MethodPlan) :
    JavaOp.applyAll w (Construct.opsAll (ClassFile.method vars method)) =
      plannedMethod vars w method := by
  rw [ClassFile.method, Construct.opsAll_append, Construct.opsAll_append, JavaOp.applyAll_append,
    JavaOp.applyAll_append, applyAll_docLine, Construct.applyAll_map (fun _ _ => rfl),
    Construct.applyAll_nest, applyAll_openMethod, Construct.applyAll_map (fun _ _ => rfl)]
  rfl

theorem applyAll_methods (vars : Variables) (w : Writer) (methods : List MethodPlan) :
    JavaOp.applyAll w (Construct.opsAll (ClassFile.methods vars methods)) =
      w.plannedMethods vars methods := by
  cases methods with
  | nil => rfl
  | cons first others =>
    rw [ClassFile.methods, Construct.opsAll_append, JavaOp.applyAll_append, applyAll_method]
    refine Construct.applyAll_flatMap (fun w next => ?_) _ others
    exact applyAll_method vars w.blankLine next

theorem applyAll_openClass (w : Writer) (unit : UnitPlan) (name : String) :
    JavaOp.applyAll w (Head.classDecl unit.access unit.modifiers name unit.superclass
        unit.interfaces).opening = w.openPlannedClass unit name := by
  rw [Head.opening, JavaOp.applyAll_cons, JavaOp.applyAll_append,
    JavaOp.applyAll_map (fun _ _ => rfl)]
  refine congrArg (unit.interfaces.foldl addInterface) ?_
  cases unit.superclass <;> rfl

/-- A class file is its sections and then the calls of its constructs. -/
theorem classFile_eq (w : Writer) (unit : UnitPlan) (vars : Variables) (package name : String) :
    w.classFile unit vars package name =
      JavaOp.applyAll (((w.headerComment unit.header).packageSection package).importSection
        unit.imports) (Construct.opsAll (ClassFile.constructs unit vars name)) := by
  have hfield : ∀ (w : Writer) (field : FieldPlan), JavaOp.applyAll w
      (Construct.plain (.documentedField field.type field.name field.doc)).ops =
        w.plannedField field := by
    intro w field
    rw [Construct.ops, Leaf.ops, JavaOp.applyAll_java, JavaCall.apply, plannedField]
  rw [ClassFile.constructs, Construct.opsAll_append, JavaOp.applyAll_append, applyAll_docLine,
    Construct.applyAll_nest, applyAll_openClass, Construct.opsAll_append, JavaOp.applyAll_append,
    Construct.applyAll_map hfield, applyAll_methods, applyAll_closing, classFile]

section
variable {base : Sink} {style : Style} {once : OnceSlot} {text : String} {used : Bool}
  {runs : RunTracker}

theorem headerComment_standing (hbase : base.room = none) (lines : List String) :
    (standing base style once text 0 used [] runs).headerComment lines =
      standing base style once (text ++ ClassFile.headerText style lines) 0 used [] runs := by
  unfold headerComment ClassFile.headerText
  split
  · rw [String.append_empty]
  · rw [comment, starComment_standing hbase, String.join_nil, String.append_empty]

theorem packageSection_standing (hbase : base.room = none) (package : String) :
    (standing base style once text 0 used [] runs).packageSection package =
      standing base style once (text ++ ClassFile.packageText style package) 0 used [] runs := by
  unfold packageSection ClassFile.packageText
  split
  · rw [String.append_empty]
  · rw [packageDecl, write_standing hbase, write_standing hbase, writeLine_standing hbase,
      blankLine, fullLine_standing hbase]
    simp [Style.lineAt, Style.lead, String.append_assoc]

theorem importDecl_standing (hbase : base.room = none) (spec : String) :
    (standing base style once text 0 used [] runs).importDecl spec =
      standing base style once (text ++ style.lineAt 0 ("import " ++ spec ++ ";")) 0 used []
        runs := by
  rw [importDecl, write_standing hbase, write_standing hbase, writeLine_standing hbase]
  simp [Style.lineAt, Style.lead, String.append_assoc]

theorem importSection_standing (hbase : base.room = none) (imports : List String) :
    (standing base style once text 0 used [] runs).importSection imports =
      standing base style once (text ++ ClassFile.importText style imports) 0 used [] runs := by
  rw [importSection, foldl_texts_standing (fun _ spec => importDecl_standing hbase spec),
    ClassFile.importText]
  split
  · rw [String.append_empty]
  · rw [blankLine, fullLine_standing hbase, String.join_nil, String.append_empty,
      String.append_assoc]

theorem fullLinesWith_standing (hbase : base.room = none) (vars : Variables)
    (lines : List String) :
    (standing base style once text 0 used [] runs).fullLinesWith vars lines =
      standing base style once (text ++ String.join
        (lines.map fun line => style.lineAt 0 (vars.expand line))) 0 used [] runs := by
  have hline : ∀ text line, (standing base style once text 0 used [] runs).fullLine
      (vars.expand line) =
        standing base style once (text ++ style.lineAt 0 (vars.expand line)) 0 used [] runs := by
    intro text line
    rw [fullLine_standing hbase, String.join_nil, String.append_empty]
  exact foldl_texts_standing hline lines

end

end Writer

/-- The sink behind a rendering that appends a text and flushes once. -/
def Sink.completed (sink : Sink) (text : String) : Sink :=
  { sink.append text with flushes := sink.flushes + 1 }

theorem Writer.toRendering_standing {base : Sink} (hbase : base.NeverFails) (style : Style)
    (once : OnceSlot) (text : String) (level : Nat) (used : Bool) (runs : RunTracker) :
    (standing base style once text level used [] runs).toRendering =
      (base.completed text, .ok ()) := by
  have hflush : (base.append text).refusesFlush = false := hbase.flush
  have houtlet : (standing base style once text level used [] runs).outlet =
      ⟨base.append text, none⟩ := rfl
  rw [toRendering, finish_eq, houtlet]
  have hclose : (Outlet.mk (base.append text) none).close = (base.completed text, .ok ()) :=
    Outlet.close_open hflush
  rw [show (standing base style once text level used [] runs).pending.fragments = [] from rfl,
    Outlet.putAll_nil, hclose]

/-- The text of the source file of a class reaches any sink that takes everything. -/
theorem Writer.classFile_start {sink : Sink} (hsink : sink.room = none) (style : Style)
    (unit : UnitPlan) (vars : Variables) (package name : String) :
    ∃ used runs, (start sink style).classFile unit vars package name =
      standing sink style .spent (ClassFile.text unit vars style package name) 0 used [] runs := by
  have hitems : ClassFile.constructs unit vars name ≠ [] := by simp [ClassFile.constructs]
  have hsections : (((start sink style).headerComment unit.header).packageSection
      package).importSection unit.imports = standing sink style .spent
        (ClassFile.headerText style unit.header ++ ClassFile.packageText style package ++
          ClassFile.importText style unit.imports) 0 false [] .fresh := by
    rw [start_eq, headerComment_standing hsink, packageSection_standing hsink,
      importSection_standing hsink, String.empty_append]
  obtain ⟨used, runs, hrun⟩ := applyAll_constructs hsink hsections hitems
  refine ⟨used, runs, ?_⟩
  rw [classFile_eq, hrun, String.join_nil, String.empty_append, ClassFile.text]

/-- A class without a name is refused before anything is written. -/
theorem ClassFile.render_of_isEmpty {unit : UnitPlan}
    (hname : (DottedName.split unit.fullName).2.isEmpty = true) (vars : Variables) (style : Style)
    (sink : Sink) :
    render unit vars style sink = (sink, .error (.badUnit unit.name .noClassName)) := by
  simp only [render, Emission.run, emit, hname, if_true]
  rfl

/-- A class with a name is written whole before the writer is asked whether the sink has refused. -/
theorem ClassFile.render_of_named {unit : UnitPlan}
    (hname : (DottedName.split unit.fullName).2.isEmpty = false) (vars : Variables) (style : Style)
    (sink : Sink) :
    render unit vars style sink =
      let w := (Writer.start sink style).classFile unit vars (DottedName.split unit.fullName).1
        (DottedName.split unit.fullName).2
      match w.failure with
      | some fault => (w.sink, .error (.io (.sink fault)))
      | none => w.toRendering := by
  simp only [render, Emission.run, emit, hname, Bool.false_eq_true, if_false]
  cases ((Writer.start sink style).classFile unit vars (DottedName.split unit.fullName).1
    (DottedName.split unit.fullName).2).failure <;> rfl

/-- A class with a name renders as its text. -/
theorem ClassFile.render_eq (unit : UnitPlan) (vars : Variables) (style : Style) {sink : Sink}
    (hsink : sink.NeverFails) (hname : (DottedName.split unit.fullName).2.isEmpty = false) :
    render unit vars style sink = (sink.completed (text unit vars style
      (DottedName.split unit.fullName).1 (DottedName.split unit.fullName).2), .ok ()) := by
  obtain ⟨used, runs, hfile⟩ := Writer.classFile_start hsink.room style unit vars
    (DottedName.split unit.fullName).1 (DottedName.split unit.fullName).2
  rw [render_of_named hname, hfile]
  exact Writer.toRendering_standing hsink style _ _ _ _ _

/-- The text of a resource: its lines, expanded. -/
def ResourceFile.text (unit : UnitPlan) (vars : Variables) (style : Style) : String :=
  String.join (unit.lines.map fun line => style.lineAt 0 (vars.expand line))

theorem ResourceFile.render_lines (unit : UnitPlan) (vars : Variables) (style : Style)
    (sink : Sink) :
    render unit vars style sink =
      ((Writer.start sink style).fullLinesWith vars unit.lines).toRendering := rfl

theorem ResourceFile.render_eq (unit : UnitPlan) (vars : Variables) (style : Style) {sink : Sink}
    (hsink : sink.NeverFails) :
    render unit vars style sink = (sink.completed (text unit vars style), .ok ()) := by
  rw [render_lines, Writer.start_eq, Writer.fullLinesWith_standing hsink.room,
    String.empty_append]
  exact Writer.toRendering_standing hsink style _ _ _ _ _

theorem KindTable.get?_standard (name : String) :
    standard.get? name =
      if name = "resource" then some resourceKind
      else if name = "class" then some classKind
      else none := by
  change ((empty.add classKind).add resourceKind).get? name = _
  rw [get?_add, get?_add]
  rfl

/-- The standard table knows classes and resources. -/
theorem KindTable.find_standard {name : String} {kind : UnitKind}
    (h : standard.find name = .ok kind) :
    name = "class" ∧ kind = classKind ∨ name = "resource" ∧ kind = resourceKind := by
  rw [find, get?_standard] at h
  by_cases hresource : name = "resource"
  · rw [if_pos hresource] at h
    exact .inr ⟨hresource, (Except.ok.inj h).symm⟩
  · rw [if_neg hresource] at h
    by_cases hclass : name = "class"
    · rw [if_pos hclass] at h
      exact .inl ⟨hclass, (Except.ok.inj h).symm⟩
    · rw [if_neg hclass] at h
      cases h

/-- What renders to an empty sink renders to every sink that never fails, as the same text. -/
theorem KindTable.render_standard {unit : UnitPlan} {vars : Variables} {style : Style}
    (h : (standard.render unit vars style .unlimited).2 = .ok ()) :
    ∃ text, ∀ sink : Sink, sink.NeverFails →
      standard.render unit vars style sink = (sink.completed text, .ok ()) := by
  unfold render at h ⊢
  cases hfind : standard.find unit.kind with
  | error error =>
    rw [hfind] at h
    cases h
  | ok kind =>
    rw [hfind] at h
    rcases find_standard hfind with ⟨_, rfl⟩ | ⟨_, rfl⟩
    · simp only [classKind] at h ⊢
      cases hname : (DottedName.split unit.fullName).2.isEmpty with
      | true =>
        rw [ClassFile.render_of_isEmpty hname] at h
        cases h
      | false => exact ⟨_, fun sink hsink => ClassFile.render_eq unit vars style hsink hname⟩
    · simp only [resourceKind]
      exact ⟨_, fun sink hsink => ResourceFile.render_eq unit vars style hsink⟩

end SourceEmitter
