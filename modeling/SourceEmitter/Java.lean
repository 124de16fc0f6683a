import SourceEmitter.Writer

/-!
# Java constructs

Templates of Java source on top of a writer. Whatever is opened is closed by `closeBody`, and pairs
nest as long as they are closed in reverse order of opening. The header of a class or method leaves
its closing tokens pending, so that clauses can follow until the next write that releases them.
-/

namespace SourceEmitter.Writer

def classCaller : Caller := ⟨"java.class_header"⟩
def interfaceCaller : Caller := ⟨"java.implements"⟩
def methodCaller : Caller := ⟨"java.method_header"⟩
def exceptionCaller : Caller := ⟨"java.throws"⟩

/-- Writes a word and a blank, unless the word is empty. -/
def writeWord (w : Writer) (word : String) : Writer :=
  if word.isEmpty then w else w.write word |>.write " "

/-- Takes one level off the indentation and closes a brace. -/
def closeBody (w : Writer) : Writer := w.indentLess.fullLine "\x7d"

def starLine (w : Writer) (line : String) : Writer :=
  if line.isEmpty then w.fullLine " *" else w.fullLine (" * " ++ line)

/-- A comment that `opening` begins: on one line if it has one line and no block is forced, and
otherwise as a block with a star in front of every line. -/
def starComment (w : Writer) (opening : String) (forceBlock : Bool) (lines : List String) :
    Writer :=
  match lines, forceBlock with
  | [line], false =>
    w.startLine |>.write opening |>.write " " |>.write line |>.writeLine " */"
  | lines, _ =>
    (lines.foldl starLine (w.startLine.writeLine opening)).fullLine " */"

def comment (w : Writer) (forceBlock : Bool) (lines : List String) : Writer :=
  w.starComment "/*" forceBlock lines

def docComment (w : Writer) (forceBlock : Bool) (lines : List String) : Writer :=
  w.starComment "/**" forceBlock lines

/-- A documentation comment on one line, if there is one. -/
def docLine (w : Writer) (doc : Option String) : Writer :=
  match doc with
  | none => w
  | some doc => w.docComment false [doc]

/-- A comment up to the end of the line, at the current position. -/
def lineComment (w : Writer) (text : String) : Writer := w.write "// " |>.writeLine text

def ownLineComment (w : Writer) (text : String) : Writer := w.startLine.lineComment text

def packageDecl (w : Writer) (name : String) : Writer :=
  w.write "package " |>.write name |>.writeLine ";"

/-- An import of what `spec` names, which may end in a star. -/
def importDecl (w : Writer) (spec : String) : Writer :=
  w.write "import " |>.write spec |>.writeLine ";"

/-- One item of a list, behind the separator that belongs in front of it. -/
def writeItem (w : Writer) (item : String) : Writer := w.separate.writeAhead item

/-- An annotation with its parameters, each as given; without parameters there are no
parentheses. -/
def annotate (w : Writer) (name : String) (params : List String) : Writer :=
  let w := w.startLine |>.write "@" |>.write name
  let w :=
    if params.isEmpty then w
    else (params.foldl writeItem (w.write "(").startList).write ")"
  w.writeLine ""

/-- A class header; `addSuperclass` and `addInterface` may follow before the brace. -/
def openClass (w : Writer) (access modifiers name : String) : Writer :=
  w.record classCaller |>.startLine |>.writeWord access |>.writeWord modifiers
    |>.write "class " |>.write name |>.deferLine " \x7b" |>.indentMore

/-- The superclass, directly behind the class name. -/
def addSuperclass (w : Writer) (name : String) : Writer :=
  w.writeAhead " extends " |>.writeAhead name

def addInterface (w : Writer) (name : String) : Writer :=
  w.ifNewRun interfaceCaller (fun w => w.writeAhead " implements " |>.startList) |>.writeItem name

/-- A method header up to the opening parenthesis. The closing parenthesis and the brace are two
pending fragments, so that exceptions fit between them. -/
def openMethod (w : Writer) (access modifiers returns name : String) : Writer :=
  w.record methodCaller |>.startLine |>.writeWord access |>.writeWord modifiers
    |>.writeWord returns |>.write name |>.write "(" |>.defer ")" |>.deferLine " \x7b"
    |>.indentMore |>.startList

def openConstructor (w : Writer) (name : String) : Writer := w.openMethod "" "" "" name

def addArgument (w : Writer) (type name : String) : Writer :=
  w.separate |>.writeAhead type |>.writeAhead " " |>.writeAhead name

/-- One more exception of the method; the first of a run closes the argument list. -/
def addException (w : Writer) (name : String) : Writer :=
  w.ifNewRun exceptionCaller (fun w => w.releaseFirst |>.writeAhead " throws " |>.startList)
    |>.writeItem name

def field (w : Writer) (access type name : String) : Writer :=
  w.startLine |>.writeWord access |>.write type |>.write " " |>.write name |>.writeLine ";"

/-- A private field behind its documentation, with an empty line after it. -/
def documentedField (w : Writer) (type name : String) (doc : Option String) : Writer :=
  w.docLine doc |>.field "private" type name |>.blankLine

/-- A statement with a complete header in parentheses and its opening brace. -/
def openControl (w : Writer) (keyword header : String) : Writer :=
  w.startLine |>.write keyword |>.write " (" |>.write header |>.writeLine ") \x7b"
    |>.indentMore

/-- A statement whose header stays open for writes ahead until the next write that releases. -/
def openControlHeader (w : Writer) (keyword : String) : Writer :=
  w.startLine |>.write keyword |>.write " (" |>.deferLine ") \x7b" |>.indentMore

def openIf (w : Writer) (condition : String) : Writer := w.openControl "if" condition
def openIfHeader (w : Writer) : Writer := w.openControlHeader "if"
def openWhile (w : Writer) (condition : String) : Writer := w.openControl "while" condition
def openWhileHeader (w : Writer) : Writer := w.openControlHeader "while"

def openFor (w : Writer) (init compare increment : String) : Writer :=
  w.openControl "for" (init ++ "; " ++ compare ++ "; " ++ increment)

def openForEach (w : Writer) (item items : String) : Writer :=
  w.openControl "for" (item ++ " : " ++ items)

end SourceEmitter.Writer
