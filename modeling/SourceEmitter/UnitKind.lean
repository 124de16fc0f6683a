import SourceEmitter.Placement
import SourceEmitter.Plan
import SourceEmitter.PlanError
import SourceEmitter.Writer

/-!
# Kinds of units

A kind renders its units to any sink and stores them in a file tree. What storing does to the tree
is up to the kind: it may read the tree, and create any number of files. The kinds that store one
file open it and then write to its sink what they would write to any other.
-/

namespace SourceEmitter

/-- What rendering leaves behind: the sink, and whether rendering succeeded. -/
abbrev Rendering := Sink × Except PlanError Unit

/-- A kind of units, by name, and how its units are rendered and stored. Storing tells the path of
the unit. -/
structure UnitKind where
  name : String
  render : UnitPlan → Variables → Style → Sink → Rendering
  store : UnitPlan → Variables → Placement → FileTree → FileTree × Except PlanError Path

def Writer.toRendering (w : Writer) : Rendering :=
  match w.finish with
  | (sink, .ok ()) => (sink, .ok ())
  | (sink, .error error) => (sink, .error (.output error))

/-- What is done with a writer to write a unit, and whether it succeeds. -/
abbrev Emission := Writer → Writer × Except PlanError Unit

/-- Emits to a sink and finishes the writer; a writer whose emission fails is not finished. -/
def Emission.run (emission : Emission) (style : Style) (sink : Sink) : Rendering :=
  match emission (Writer.start sink style) with
  | (w, .ok ()) => w.toRendering
  | (w, .error error) => (w.sink, .error error)

namespace FileTree

/-- The sink of a file that is open for writing, which goes on behind what the file holds. -/
def sinkOf (tree : FileTree) (location : Location) : Sink :=
  match tree.get? location with
  | some (.file content) => .holding content
  | _ => .unlimited

/-- Creates or empties the file at a path, if there is a path, and emits to the sink of the file,
which keeps what it was given also where emission fails. -/
def storeEmission (tree : FileTree) (place : Except PlanError Path) (style : Style)
    (emission : Emission) : FileTree × Except PlanError Path :=
  match place with
  | .error error => (tree, .error error)
  | .ok path =>
    match tree.openOutput path with
    | (tree, .error error) => (tree, .error (.output error))
    | (tree, .ok location) =>
      let (sink, outcome) := emission.run style (tree.sinkOf location)
      (tree.put location (.file sink.bytes), outcome.map fun _ => path)

end FileTree

end SourceEmitter
