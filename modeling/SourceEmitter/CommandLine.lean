import SourceEmitter.KindTable
import SourceEmitter.Plan.Document

/-!
# The command line

`render` stores the files of a plan, or prints its units with `--stdout`; `kinds` lists the kinds
of unit there are. Options take their value from the next argument, behind an equals sign, or, in
the short form, from the same argument. Every option is given at most once and no value is empty.
-/

namespace SourceEmitter

/-- What the program is asked to do. -/
inductive Command where
  /-- Stores the files of a plan, below another base directory if one is given. -/
  | store (plan : Path) (out : Option Path)
  /-- Prints the units of a plan. -/
  | print (plan : Path)
  | kinds
deriving DecidableEq, Repr

namespace CommandLine

inductive OptionName where
  | plan
  | out
  | stdout
deriving DecidableEq, Repr

/-- What the options seen so far have set. -/
structure Options where
  plan : Option String := none
  out : Option String := none
  stdout : Bool := false

def longOption? (name : String) : Option OptionName :=
  match name with
  | "plan" => some .plan
  | "out" => some .out
  | "stdout" => some .stdout
  | _ => none

def shortOption? (letter : Char) : Option OptionName :=
  match letter with
  | 'p' => some .plan
  | 'o' => some .out
  | _ => none

/-- The option that an argument names, and the value attached to it. -/
def readOption (argument : String) : Option (OptionName × Option String) :=
  match argument.toList with
  | '-' :: '-' :: long =>
    let (name, value) := long.span (· ≠ '=')
    (longOption? (String.ofList name)).map fun option =>
      (option, value.tail?.map String.ofList)
  | '-' :: letter :: value =>
    (shortOption? letter).map fun option =>
      (option, match value with
        | [] => none
        | '=' :: value => some (String.ofList value)
        | value => some (String.ofList value))
  | _ => none

/-- Whether an argument can be the value of the option in front of it. -/
def isValue (argument : String) : Bool :=
  argument = "-" || argument.toList.head? != some '-'

/-- Sets an option that has not been set; no value may be empty. -/
def set (options : Options) (option : OptionName) (value : String) : Option Options :=
  if value.isEmpty then none
  else
    match option with
    | .plan => if options.plan.isSome then none else some { options with plan := some value }
    | .out => if options.out.isSome then none else some { options with out := some value }
    | .stdout => none

/-- Reads the arguments of `render`. Behind `--` there can be no options, and there is nothing
else to give. -/
def readOptions (options : Options) : List String → Option Options
  | [] => some options
  | argument :: rest =>
    if argument = "--" then if rest.isEmpty then some options else none
    else
      match readOption argument with
      | none => none
      | some (.stdout, none) =>
        if options.stdout then none else readOptions { options with stdout := true } rest
      | some (option, some value) => (set options option value).bind (readOptions · rest)
      | some (option, none) =>
        match rest with
        | [] => none
        | value :: rest =>
          if isValue value then (set options option value).bind (readOptions · rest) else none

/-- The command that arguments stand for, unless they are misused. -/
def parse : List String → Option Command
  | "kinds" :: [] | "kinds" :: "--" :: [] => some .kinds
  | "render" :: rest =>
    match readOptions {} rest with
    | some ⟨some plan, out, false⟩ => some (.store ⟨plan⟩ (out.map Path.mk))
    | some ⟨some plan, none, true⟩ => some (.print ⟨plan⟩)
    | _ => none
  | _ => none

def kindList (table : KindTable) : String :=
  "Available unit kinds:\n"
    ++ String.join (table.names.map fun name => "  - " ++ name ++ "\n")

def pathList (paths : List Path) : String :=
  String.join (paths.map fun path => path.text ++ "\n")

/-- The layout of a plan with another base directory, if one is given. -/
def layoutFor (plan : Plan) (out : Option Path) : Layout :=
  { plan.layout with base := out.getD plan.layout.base }

end CommandLine

def FileTree.loadPlan (tree : FileTree) (path : Path) : Except PlanError Plan :=
  match tree.readText path with
  | .ok text => Plan.ofDocument text
  | .error fault => .error (.io (.file fault))

namespace CommandLine

/-- How a run of the program ends. -/
inductive Verdict where
  | success
  | failure
  | misuse
deriving DecidableEq, Repr

def Verdict.exitCode : Verdict → Nat
  | success => 0
  | failure => 1
  | misuse => 2

/-- How a run of the program ends and what it has printed. -/
structure Outcome where
  verdict : Verdict
  printed : ByteArray

def runStore (tree : FileTree) (plan : Plan) (out : Option Path) : FileTree × Outcome :=
  match Placement.ofLayout (layoutFor plan out) with
  | .error _ => (tree, ⟨.failure, ByteArray.empty⟩)
  | .ok placement =>
    match KindTable.standard.storeAll plan placement tree with
    | (tree, .error _) => (tree, ⟨.failure, ByteArray.empty⟩)
    | (tree, .ok paths) => (tree, ⟨.success, (pathList paths).toByteArray⟩)

/-- Prints the units of a plan, up to the first that fails. -/
def runPrint (plan : Plan) : Outcome :=
  match KindTable.standard.renderAll plan .unlimited with
  | (sink, .ok ()) => ⟨.success, sink.bytes⟩
  | (sink, .error _) => ⟨.failure, sink.bytes⟩

def run (tree : FileTree) (arguments : List String) : FileTree × Outcome :=
  match parse arguments with
  | none => (tree, ⟨.misuse, ByteArray.empty⟩)
  | some .kinds => (tree, ⟨.success, (kindList .standard).toByteArray⟩)
  | some (.print path) =>
    match tree.loadPlan path with
    | .error _ => (tree, ⟨.failure, ByteArray.empty⟩)
    | .ok plan => (tree, runPrint plan)
  | some (.store path out) =>
    match tree.loadPlan path with
    | .error _ => (tree, ⟨.failure, ByteArray.empty⟩)
    | .ok plan => runStore tree plan out

end CommandLine

end SourceEmitter
