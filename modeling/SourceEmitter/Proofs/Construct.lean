import SourceEmitter.Java.Op

/-!
# Nested Java constructs

Java source as a tree: the calls of a writer that open, fill and close every construct, and the text
that a printer without any state gives for the same tree. A printed construct is a list of whole
lines, so a header stands on its line complete with its clauses and its brace.
-/

namespace SourceEmitter

/-- A construct without items of its own. -/
inductive Leaf where
  | line (text : String)
  | blank
  | comment (forceBlock : Bool) (lines : List String)
  | docComment (forceBlock : Bool) (lines : List String)
  | ownLineComment (text : String)
  | annotate (name : String) (params : List String)
  | field (access type name : String)
  | documentedField (type name : String) (doc : Option String)

/-- What stands in front of the items of a construct. The conditions of `ifPieces` and `whilePieces`
are written piece by piece. -/
inductive Head where
  | classDecl (access modifiers name : String) (superclass : Option String)
      (interfaces : List String)
  | method (access modifiers returns name : String) (arguments : List (String × String))
      (exceptions : List String)
  | constructor (name : String) (arguments : List (String × String)) (exceptions : List String)
  | ifWhole (condition : String)
  | ifPieces (pieces : List String)
  | whileWhole (condition : String)
  | whilePieces (pieces : List String)
  | forSteps (init compare increment : String)
  | forEach (item items : String)
  | block (header : String)

inductive Construct where
  | plain (leaf : Leaf)
  | nest (head : Head) (items : List Construct)

def Leaf.ops : Leaf → List JavaOp
  | line text => [.base (.act (.fullLine text))]
  | blank => [.base (.act .blankLine)]
  | comment forceBlock lines => [.java (.comment forceBlock lines)]
  | docComment forceBlock lines => [.java (.docComment forceBlock lines)]
  | ownLineComment text => [.java (.ownLineComment text)]
  | annotate name params => [.java (.annotate name params)]
  | field access type name => [.java (.field access type name)]
  | documentedField type name doc => [.java (.documentedField type name doc)]

/-- The clauses between a method name and the brace. -/
def JavaOp.signature (arguments : List (String × String)) (exceptions : List String) :
    List JavaOp :=
  arguments.map (fun argument => .java (.addArgument argument.1 argument.2)) ++
    exceptions.map (fun name => .java (.addException name))

def Head.opening : Head → List JavaOp
  | classDecl access modifiers name superclass interfaces =>
    .java (.openClass access modifiers name) ::
      (superclass.toList.map (fun name => .java (.addSuperclass name)) ++
        interfaces.map (fun name => .java (.addInterface name)))
  | method access modifiers returns name arguments exceptions =>
    .java (.openMethod access modifiers returns name) :: JavaOp.signature arguments exceptions
  | constructor name arguments exceptions =>
    .java (.openConstructor name) :: JavaOp.signature arguments exceptions
  | ifWhole condition => [.java (.openIf condition)]
  | ifPieces pieces => .java .openIfHeader :: pieces.map (fun text => .java (.ifCondition text))
  | whileWhole condition => [.java (.openWhile condition)]
  | whilePieces pieces =>
    .java .openWhileHeader :: pieces.map (fun text => .java (.whileCondition text))
  | forSteps init compare increment => [.java (.openFor init compare increment)]
  | forEach item items => [.java (.openForEach item items)]
  | block header => [.base (.act (.openBlock header)), .base (.act .indentMore)]

def Head.closing : Head → List JavaOp
  | classDecl .. => [.java .closeClass]
  | method .. | constructor .. => [.java .closeMethod]
  | ifWhole _ | ifPieces _ => [.java .closeIf]
  | whileWhole _ | whilePieces _ => [.java .closeWhile]
  | forSteps .. | forEach .. => [.java .closeFor]
  | block _ => [.base (.act .indentLess), .base (.act .closeBlock)]

mutual

/-- The calls for a construct, in matched order of opening and closing. -/
def Construct.ops : Construct → List JavaOp
  | .plain leaf => leaf.ops
  | .nest head items => head.opening ++ Construct.opsAll items ++ head.closing

def Construct.opsAll : List Construct → List JavaOp
  | [] => []
  | construct :: rest => construct.ops ++ Construct.opsAll rest

end

namespace Print

/-- A word and a blank, or nothing for no word. -/
def word (text : String) : String := if text.isEmpty then "" else text ++ " "

/-- A keyword and its items, or nothing without items. -/
def clause (keyword separator : String) (items : List String) : String :=
  if items.isEmpty then "" else keyword ++ separator.intercalate items

def superclass : Option String → String
  | none => ""
  | some name => " extends " ++ name

/-- The lines of a comment that `opening` begins. -/
def comment (opening : String) (forceBlock : Bool) (lines : List String) : List String :=
  match lines, forceBlock with
  | [line], false => [opening ++ " " ++ line ++ " */"]
  | lines, _ =>
    opening :: (lines.map fun line => if line.isEmpty then " *" else " * " ++ line) ++ [" */"]

def field (access type name : String) : String := word access ++ type ++ " " ++ name ++ ";"

/-- What follows the name of a method. -/
def signature (separator : String) (arguments : List (String × String))
    (exceptions : List String) : String :=
  "(" ++ separator.intercalate (arguments.map fun argument => argument.1 ++ " " ++ argument.2) ++
    ")" ++ clause " throws " separator exceptions ++ " \x7b"

/-- A statement with its parentheses and its brace. -/
def control (keyword header : String) : String := keyword ++ " (" ++ header ++ ") \x7b"

end Print

/-- The lines of a leaf, without margins and line ends. -/
def Leaf.lines (separator : String) : Leaf → List String
  | line text => [text]
  | blank => [""]
  | comment forceBlock lines => Print.comment "/*" forceBlock lines
  | docComment forceBlock lines => Print.comment "/**" forceBlock lines
  | ownLineComment text => ["// " ++ text]
  | annotate name params =>
    ["@" ++ name ++ if params.isEmpty then "" else "(" ++ separator.intercalate params ++ ")"]
  | field access type name => [Print.field access type name]
  | documentedField type name doc =>
    (match doc with
      | none => []
      | some doc => ["/** " ++ doc ++ " */"]) ++
      [Print.field "private" type name, ""]

/-- The header line of a construct, without margin and line end. -/
def Head.line (separator : String) : Head → String
  | classDecl access modifiers name superclass interfaces =>
    Print.word access ++ Print.word modifiers ++ "class " ++ name ++
      Print.superclass superclass ++ Print.clause " implements " separator interfaces ++ " \x7b"
  | method access modifiers returns name arguments exceptions =>
    Print.word access ++ Print.word modifiers ++ Print.word returns ++ name ++
      Print.signature separator arguments exceptions
  | constructor name arguments exceptions =>
    name ++ Print.signature separator arguments exceptions
  | ifWhole condition => Print.control "if" condition
  | ifPieces pieces => Print.control "if" (String.join pieces)
  | whileWhole condition => Print.control "while" condition
  | whilePieces pieces => Print.control "while" (String.join pieces)
  | forSteps init compare increment =>
    Print.control "for" (init ++ "; " ++ compare ++ "; " ++ increment)
  | forEach item items => Print.control "for" (item ++ " : " ++ items)
  | block header => header ++ " \x7b"

namespace Style

/-- The margin of a level. -/
def lead (style : Style) (level : Nat) : String :=
  String.join (List.replicate level style.indentation)

/-- A whole line at a level. -/
def lineAt (style : Style) (level : Nat) (text : String) : String :=
  style.lead level ++ text ++ style.lineEnd

end Style

mutual

/-- The text of a construct at a level. -/
def Construct.text (style : Style) (level : Nat) : Construct → String
  | .plain leaf => String.join ((leaf.lines style.separator).map (style.lineAt level))
  | .nest head items =>
    style.lineAt level (head.line style.separator) ++ Construct.textAll style (level + 1) items ++
      style.lineAt level "\x7d"

def Construct.textAll (style : Style) (level : Nat) : List Construct → String
  | [] => ""
  | construct :: rest => construct.text style level ++ Construct.textAll style level rest

end

end SourceEmitter
