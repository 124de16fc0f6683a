import SourceEmitter.UnitKind

/-!
# Resource files

A resource file holds the lines of its unit, expanded. The package of its path is the one that the
unit gives, or else what stands before the last dot of its name.
-/

namespace SourceEmitter.ResourceFile

def emit (unit : UnitPlan) (vars : Variables) : Emission := fun w =>
  (w.fullLinesWith vars unit.lines, .ok ())

def render (unit : UnitPlan) (vars : Variables) (style : Style) (sink : Sink) : Rendering :=
  (emit unit vars).run style sink

/-- The package and the name that place a resource. -/
def placeName (unit : UnitPlan) : String × String :=
  match unit.package with
  | some package => (package, unit.name)
  | none => DottedName.split unit.name

def place (placement : Placement) (unit : UnitPlan) : Except PlanError Path :=
  let (package, name) := placeName unit
  if name.isEmpty then .error (.badUnit unit.name .noResourceName)
  else (placement.packageResource package name).mapError .output

def store (unit : UnitPlan) (vars : Variables) (placement : Placement) (tree : FileTree) :
    FileTree × Except PlanError Path :=
  tree.storeEmission (place placement unit) placement.layout.style (emit unit vars)

end SourceEmitter.ResourceFile

namespace SourceEmitter

def resourceKind : UnitKind := ⟨"resource", ResourceFile.render, ResourceFile.store⟩

end SourceEmitter
