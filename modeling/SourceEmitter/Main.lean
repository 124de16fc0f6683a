import SourceEmitter.CommandLine

/-!
# The program

The command line on the file system of the machine. It reads the plan, asks the library for the path
and the text of every unit and writes the files.
-/

namespace SourceEmitter.Program

def usageText : String :=
  "usage: render --plan FILE [--out DIR | --stdout]\n       kinds"

/-- Tells the reader of the terminal why a plan was not carried out. -/
def reportError (error : PlanError) : IO UInt32 := do
  IO.eprintln (error.message?.getD "The plan could not be read or a file could not be used")
  return 1

/-- The path of a unit of the standard kinds. -/
def placeUnit (placement : Placement) (unit : UnitPlan) : Except PlanError Path :=
  match unit.kind with
  | "class" => ClassFile.place placement unit
  | "resource" => ResourceFile.place placement unit
  | kind => .error (.noSuchKind kind)

/-- Stores a unit: creates the directories above its file and writes the file. -/
def storeUnit (plan : Plan) (placement : Placement) (unit : UnitPlan) :
    IO (Except PlanError Path) := do
  match placeUnit placement unit with
  | .error error => return .error error
  | .ok path =>
    match path.parent? with
    | some directory => unless directory.isEmpty do IO.FS.createDirAll directory.text
    | none => pure ()
    let (sink, outcome) :=
      KindTable.standard.render unit plan.vars placement.layout.style .unlimited
    IO.FS.writeBinFile path.text sink.bytes
    return outcome.map fun _ => path

/-- Stores units in order, up to the first that fails. -/
def storeUnits (plan : Plan) (placement : Placement) : List UnitPlan → List Path → IO UInt32
  | [], stored => do
    IO.print (CommandLine.pathList stored.reverse)
    return 0
  | unit :: rest, stored => do
    match ← storeUnit plan placement unit with
    | .error error => reportError error
    | .ok path => storeUnits plan placement rest (path :: stored)

def withPlan (path : Path) (next : Plan → IO UInt32) : IO UInt32 := do
  let text ← IO.FS.readFile path.text
  match Plan.ofDocument text with
  | .error error => reportError error
  | .ok plan => next plan

/-- Carries out what the arguments ask for and yields the exit code. -/
def run (arguments : List String) : IO UInt32 := do
  match CommandLine.parse arguments with
  | none =>
    IO.eprintln usageText
    return 2
  | some .kinds =>
    IO.print (CommandLine.kindList .standard)
    return 0
  | some (.print path) =>
    withPlan path fun plan => do
      let (sink, outcome) := KindTable.standard.renderAll plan .unlimited
      let stdout ← IO.getStdout
      stdout.write sink.bytes
      match outcome with
      | .ok () => return 0
      | .error error => reportError error
  | some (.store path out) =>
    withPlan path fun plan =>
      match Placement.ofLayout (CommandLine.layoutFor plan out) with
      | .error error => reportError (.output error)
      | .ok placement =>
        match KindTable.standard.requireKinds plan.units with
        | .error error => reportError error
        | .ok () => storeUnits plan placement plan.units []

end SourceEmitter.Program

def main (arguments : List String) : IO UInt32 := SourceEmitter.Program.run arguments
