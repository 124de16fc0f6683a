import SourceEmitter.Proofs.UnitText

/-!
# Units as histories

A class file and a resource file are histories of a writer that is started for them: lists of
operations that depend on the unit and the variables alone. No operation takes a failure or changes
the room of the sink, so a text that the sink refuses is the last thing the sink sees of the unit.
-/

namespace SourceEmitter

theorem Leaf.leavesOutlet_ops (leaf : Leaf) :
    leaf.ops.all (JavaOp.all Action.leavesOutlet) = true := by
  cases leaf <;> rfl

theorem JavaOp.leavesOutlet_map {α : Type} (call : α → JavaCall) (xs : List α) :
    (xs.map fun x => JavaOp.java (call x)).all (JavaOp.all Action.leavesOutlet) = true := by
  rw [List.all_map]
  exact List.all_eq_true.2 fun _ _ => rfl

theorem Head.leavesOutlet_opening (head : Head) :
    head.opening.all (JavaOp.all Action.leavesOutlet) = true := by
  cases head with
  | classDecl access modifiers name superclass interfaces =>
    simp only [opening, List.all_cons, List.all_append, JavaOp.leavesOutlet_map]
    rfl
  | method | constructor =>
    simp only [opening, JavaOp.signature, List.all_cons, List.all_append,
      JavaOp.leavesOutlet_map]
    rfl
  | ifPieces | whilePieces =>
    simp only [opening, List.all_cons, JavaOp.leavesOutlet_map]
    rfl
  | ifWhole | whileWhole | forSteps | forEach | block => rfl

theorem Head.leavesOutlet_closing (head : Head) :
    head.closing.all (JavaOp.all Action.leavesOutlet) = true := by
  cases head <;> rfl

mutual

theorem Construct.leavesOutlet_ops :
    (construct : Construct) → construct.ops.all (JavaOp.all Action.leavesOutlet) = true
  | .plain leaf => leaf.leavesOutlet_ops
  | .nest head items => by
    rw [ops, List.all_append, List.all_append, head.leavesOutlet_opening,
      Construct.leavesOutlet_opsAll items, head.leavesOutlet_closing]
    rfl

theorem Construct.leavesOutlet_opsAll :
    (constructs : List Construct) →
      (opsAll constructs).all (JavaOp.all Action.leavesOutlet) = true
  | [] => rfl
  | construct :: rest => by
    rw [opsAll, List.all_append, construct.leavesOutlet_ops,
      Construct.leavesOutlet_opsAll rest]
    rfl

end

namespace ClassFile

def headerOps (lines : List String) : List JavaOp :=
  if lines.isEmpty then [] else [.java (.comment true lines)]

def packageOps (package : String) : List JavaOp :=
  if package.isEmpty then [] else [.java (.packageDecl package), .base (.act .blankLine)]

def importOps (imports : List String) : List JavaOp :=
  imports.map (fun spec => .java (.importDecl spec)) ++
    if imports.isEmpty then [] else [.base (.act .blankLine)]

/-- The operations that write a class file. -/
def history (unit : UnitPlan) (vars : Variables) (package name : String) : List JavaOp :=
  headerOps unit.header ++ packageOps package ++ importOps unit.imports ++
    Construct.opsAll (constructs unit vars name)

theorem leavesOutlet_history (unit : UnitPlan) (vars : Variables) (package name : String) :
    (history unit vars package name).all (JavaOp.all Action.leavesOutlet) = true := by
  have hheader : (headerOps unit.header).all (JavaOp.all Action.leavesOutlet) = true := by
    unfold headerOps
    split <;> rfl
  have hpackage : (packageOps package).all (JavaOp.all Action.leavesOutlet) = true := by
    unfold packageOps
    split <;> rfl
  have himports : (importOps unit.imports).all (JavaOp.all Action.leavesOutlet) = true := by
    rw [importOps, List.all_append, JavaOp.leavesOutlet_map]
    split <;> rfl
  rw [history, List.all_append, List.all_append, List.all_append, hheader, hpackage, himports,
    Construct.leavesOutlet_opsAll]
  rfl

end ClassFile

namespace Writer

theorem applyAll_headerOps (w : Writer) (lines : List String) :
    JavaOp.applyAll w (ClassFile.headerOps lines) = w.headerComment lines := by
  unfold ClassFile.headerOps headerComment
  split <;> rfl

theorem applyAll_packageOps (w : Writer) (package : String) :
    JavaOp.applyAll w (ClassFile.packageOps package) = w.packageSection package := by
  unfold ClassFile.packageOps packageSection
  split <;> rfl

theorem applyAll_importOps (w : Writer) (imports : List String) :
    JavaOp.applyAll w (ClassFile.importOps imports) = w.importSection imports := by
  rw [ClassFile.importOps, JavaOp.applyAll_append, JavaOp.applyAll_map (fun _ _ => rfl),
    importSection]
  split <;> rfl

theorem applyAll_classHistory (w : Writer) (unit : UnitPlan) (vars : Variables)
    (package name : String) :
    JavaOp.applyAll w (ClassFile.history unit vars package name) =
      w.classFile unit vars package name := by
  rw [ClassFile.history, JavaOp.applyAll_append, JavaOp.applyAll_append, JavaOp.applyAll_append,
    applyAll_headerOps, applyAll_packageOps, applyAll_importOps, classFile_eq]

end Writer

end SourceEmitter
