import SourceEmitter.Proofs.Moves

/-!
# Java calls as operations

Every call that emits a Java construct is built from the operations of the writer alone, so what
holds of all operations holds of all Java calls.
-/

namespace SourceEmitter

/-- Actions as operations. -/
def Op.acts (actions : List Action) : List Op := actions.map .act

def Action.word (word : String) : List Action :=
  if word.isEmpty then [] else [.write word, .write " "]

def Action.item (item : String) : List Action := [.separate, .writeAhead item]

def Action.closeBody : List Action := [.indentLess, .fullLine "\x7d"]

def Action.star (line : String) : Action :=
  if line.isEmpty then .fullLine " *" else .fullLine (" * " ++ line)

def Action.comment (opening : String) (forceBlock : Bool) (lines : List String) : List Action :=
  match lines, forceBlock with
  | [line], false => [.startLine, .write opening, .write " ", .write line, .writeLine " */"]
  | lines, _ => [.startLine, .writeLine opening] ++ lines.map Action.star ++ [.fullLine " */"]

/-- A documentation comment on one line, if there is one. -/
def Action.docLine : Option String → List Action
  | none => []
  | some doc => Action.comment "/**" false [doc]

def Action.field (access type name : String) : List Action :=
  [.startLine] ++ Action.word access ++ [.write type, .write " ", .write name, .writeLine ";"]

def Action.annotate (name : String) (params : List String) : List Action :=
  [.startLine, .write "@", .write name] ++
    (if params.isEmpty then []
      else [.write "(", .startList] ++ params.flatMap Action.item ++ [.write ")"]) ++
    [.writeLine ""]

def Action.openClass (access modifiers name : String) : List Action :=
  [.record Writer.classCaller, .startLine] ++ Action.word access ++ Action.word modifiers ++
    [.write "class ", .write name, .deferLine " \x7b", .indentMore]

def Action.openMethod (access modifiers returns name : String) : List Action :=
  [.record Writer.methodCaller, .startLine] ++ Action.word access ++ Action.word modifiers ++
    Action.word returns ++
    [.write name, .write "(", .defer ")", .deferLine " \x7b", .indentMore, .startList]

def Action.openControl (keyword header : String) : List Action :=
  [.startLine, .write keyword, .write " (", .write header, .writeLine ") \x7b", .indentMore]

def Action.openControlHeader (keyword : String) : List Action :=
  [.startLine, .write keyword, .write " (", .deferLine ") \x7b", .indentMore]

/-- The operations of a call. Only the clauses that list interfaces and exceptions depend on the
runs of callers. -/
def JavaCall.ops : JavaCall → List Op
  | lineComment text => Op.acts [.write "// ", .writeLine text]
  | ownLineComment text => Op.acts [.startLine, .write "// ", .writeLine text]
  | comment forceBlock lines => Op.acts (Action.comment "/*" forceBlock lines)
  | docComment forceBlock lines => Op.acts (Action.comment "/**" forceBlock lines)
  | packageDecl name => Op.acts [.write "package ", .write name, .writeLine ";"]
  | importDecl spec => Op.acts [.write "import ", .write spec, .writeLine ";"]
  | annotate name params => Op.acts (Action.annotate name params)
  | openClass access modifiers name => Op.acts (Action.openClass access modifiers name)
  | addSuperclass name => Op.acts [.writeAhead " extends ", .writeAhead name]
  | addInterface name =>
    .ifNewRun Writer.interfaceCaller (Op.acts [.writeAhead " implements ", .startList]) ::
      Op.acts (Action.item name)
  | openMethod access modifiers returns name =>
    Op.acts (Action.openMethod access modifiers returns name)
  | openConstructor name => Op.acts (Action.openMethod "" "" "" name)
  | addArgument type name =>
    Op.acts [.separate, .writeAhead type, .writeAhead " ", .writeAhead name]
  | addException name =>
    .ifNewRun Writer.exceptionCaller
        (Op.acts [.releaseFirst, .writeAhead " throws ", .startList]) ::
      Op.acts (Action.item name)
  | field access type name => Op.acts (Action.field access type name)
  | documentedField type name doc =>
    Op.acts (Action.docLine doc ++ Action.field "private" type name ++ [.blankLine])
  | openIf condition => Op.acts (Action.openControl "if" condition)
  | openIfHeader => Op.acts (Action.openControlHeader "if")
  | openWhile condition => Op.acts (Action.openControl "while" condition)
  | openWhileHeader => Op.acts (Action.openControlHeader "while")
  | ifCondition text | whileCondition text => Op.acts [.writeAhead text]
  | openFor init compare increment =>
    Op.acts (Action.openControl "for" (init ++ "; " ++ compare ++ "; " ++ increment))
  | openForEach item items => Op.acts (Action.openControl "for" (item ++ " : " ++ items))
  | closeClass | closeMethod | closeIf | closeWhile | closeFor => Op.acts Action.closeBody

/-- Whether an action writes text or begins a list, and does nothing else. -/
def Action.writes : Action → Bool
  | startLine | startList | separate | write _ | writeLine _ | fullLine _ | blankLine
  | writeAhead _ => true
  | _ => false

namespace Action

theorem writes_word (text : String) : (word text).all writes = true := by
  unfold word
  split <;> rfl

theorem writes_comment (opening : String) (forceBlock : Bool) (lines : List String) :
    (comment opening forceBlock lines).all writes = true := by
  have hstar : ∀ line, (star line).writes = true := by
    intro line
    unfold star
    split <;> rfl
  unfold comment
  split
  · rfl
  · have hlines : (lines.map star).all writes = true := by
      rw [List.all_map]
      exact List.all_eq_true.2 fun line _ => hstar line
    simp only [List.all_append, hlines]
    rfl

theorem writes_documentedField (type name : String) (doc : Option String) :
    (docLine doc ++ field "private" type name ++ [blankLine]).all writes = true := by
  have hdoc : (docLine doc).all writes = true := by
    cases doc with
    | none => rfl
    | some doc => exact writes_comment "/**" false [doc]
  simp only [field, List.all_append, hdoc, writes_word]
  rfl

theorem writes_annotate (name : String) (params : List String) :
    (annotate name params).all writes = true := by
  have hitems : (params.flatMap item).all writes = true := by
    rw [List.all_flatMap]
    exact List.all_eq_true.2 fun param _ => rfl
  unfold annotate
  split
  · rfl
  · simp only [List.all_append, hitems]
    rfl

end Action

/-- Whether a Java call only writes: it opens and closes no body and lists nothing that depends on
the runs of callers. -/
def JavaCall.writes : JavaCall → Bool
  | lineComment _ | ownLineComment _ | comment _ _ | docComment _ _ | packageDecl _ | importDecl _
  | annotate _ _ | addSuperclass _ | addArgument _ _ | field _ _ _ | documentedField _ _ _
  | ifCondition _ | whileCondition _ => true
  | _ => false

theorem JavaCall.ops_of_writes {call : JavaCall} (h : call.writes = true) :
    ∃ actions, call.ops = Op.acts actions ∧ actions.all Action.writes = true := by
  cases call with
  | comment forceBlock lines => exact ⟨_, rfl, Action.writes_comment "/*" forceBlock lines⟩
  | docComment forceBlock lines => exact ⟨_, rfl, Action.writes_comment "/**" forceBlock lines⟩
  | annotate name params => exact ⟨_, rfl, Action.writes_annotate name params⟩
  | field access type name =>
    refine ⟨_, rfl, ?_⟩
    simp only [Action.field, List.all_append, Action.writes_word]
    rfl
  | documentedField type name doc => exact ⟨_, rfl, Action.writes_documentedField type name doc⟩
  | lineComment | ownLineComment | packageDecl | importDecl | addSuperclass | addArgument
  | ifCondition | whileCondition => exact ⟨_, rfl, rfl⟩
  | _ => cases h

def Action.applyAll (w : Writer) (actions : List Action) : Writer := actions.foldl Action.apply w

theorem Op.applyAll_acts (w : Writer) (actions : List Action) :
    Op.applyAll w (Op.acts actions) = Action.applyAll w actions := by
  induction actions generalizing w with
  | nil => rfl
  | cons action rest ih => exact ih (action.apply w)

namespace Action

@[simp] theorem applyAll_nil (w : Writer) : applyAll w [] = w := rfl
@[simp] theorem applyAll_cons (w : Writer) (action : Action) (rest : List Action) :
    applyAll w (action :: rest) = applyAll (action.apply w) rest := rfl
@[simp] theorem applyAll_append (w : Writer) (first second : List Action) :
    applyAll w (first ++ second) = applyAll (applyAll w first) second :=
  List.foldl_append

theorem applyAll_word (w : Writer) (text : String) :
    applyAll w (word text) = w.writeWord text := by
  unfold word Writer.writeWord
  split <;> rfl

theorem applyAll_items (w : Writer) (items : List String) :
    applyAll w (items.flatMap item) = items.foldl Writer.writeItem w := by
  induction items generalizing w with
  | nil => rfl
  | cons first rest ih =>
    rw [List.flatMap_cons, applyAll_append, ih]
    rfl

theorem applyAll_stars (w : Writer) (lines : List String) :
    applyAll w (lines.map star) = lines.foldl Writer.starLine w := by
  induction lines generalizing w with
  | nil => rfl
  | cons line rest ih =>
    have hline : (star line).apply w = w.starLine line := by
      unfold star Writer.starLine
      split <;> rfl
    rw [List.map_cons, applyAll_cons, hline, ih]
    rfl

theorem applyAll_comment (w : Writer) (opening : String) (forceBlock : Bool)
    (lines : List String) :
    applyAll w (comment opening forceBlock lines) = w.starComment opening forceBlock lines := by
  unfold comment Writer.starComment
  split
  · rfl
  · simp only [applyAll_append, applyAll_cons, applyAll_nil, applyAll_stars]
    rfl

theorem applyAll_docLine (w : Writer) (doc : Option String) :
    applyAll w (docLine doc) = w.docLine doc := by
  cases doc with
  | none => rfl
  | some doc => exact applyAll_comment w "/**" false [doc]

theorem applyAll_field (w : Writer) (access type name : String) :
    applyAll w (field access type name) = w.field access type name := by
  simp only [field, applyAll_append, applyAll_word]
  rfl

theorem applyAll_annotate (w : Writer) (name : String) (params : List String) :
    applyAll w (annotate name params) = w.annotate name params := by
  unfold annotate Writer.annotate
  cases params with
  | nil => rfl
  | cons first rest =>
    simp only [List.isEmpty_cons, Bool.false_eq_true, if_false, applyAll_append, applyAll_cons,
      applyAll_nil, applyAll_items]
    rfl

theorem applyAll_openClass (w : Writer) (access modifiers name : String) :
    applyAll w (openClass access modifiers name) = w.openClass access modifiers name := by
  simp only [openClass, applyAll_append, applyAll_word]
  rfl

theorem applyAll_openMethod (w : Writer) (access modifiers returns name : String) :
    applyAll w (openMethod access modifiers returns name) =
      w.openMethod access modifiers returns name := by
  simp only [openMethod, applyAll_append, applyAll_word]
  rfl

end Action

/-- A call has the effect of its operations, whatever the writer. -/
theorem JavaCall.applyAll_ops (w : Writer) (call : JavaCall) :
    Op.applyAll w call.ops = call.apply w := by
  cases call with
  | comment forceBlock lines =>
    exact (Op.applyAll_acts w _).trans (Action.applyAll_comment w "/*" forceBlock lines)
  | docComment forceBlock lines =>
    exact (Op.applyAll_acts w _).trans (Action.applyAll_comment w "/**" forceBlock lines)
  | annotate name params =>
    exact (Op.applyAll_acts w _).trans (Action.applyAll_annotate w name params)
  | openClass access modifiers name =>
    exact (Op.applyAll_acts w _).trans (Action.applyAll_openClass w access modifiers name)
  | openMethod access modifiers returns name =>
    exact (Op.applyAll_acts w _).trans (Action.applyAll_openMethod w access modifiers returns name)
  | openConstructor name =>
    exact (Op.applyAll_acts w _).trans (Action.applyAll_openMethod w "" "" "" name)
  | field access type name =>
    exact (Op.applyAll_acts w _).trans (Action.applyAll_field w access type name)
  | documentedField type name doc =>
    rw [ops, Op.applyAll_acts, Action.applyAll_append, Action.applyAll_append,
      Action.applyAll_docLine, Action.applyAll_field, Action.applyAll_cons, Action.applyAll_nil,
      Action.apply, apply, Writer.documentedField]
  | lineComment | ownLineComment | packageDecl | importDecl | addSuperclass | addInterface
  | addArgument | addException | openIf | openIfHeader | openWhile | openWhileHeader
  | ifCondition | whileCondition | openFor | openForEach
  | closeClass | closeMethod | closeIf | closeWhile | closeFor => rfl

namespace JavaOp

/-- The writer's operations behind an operation on Java source. -/
def ops : JavaOp → List Op
  | base op => [op]
  | java call => call.ops

theorem applyAll_ops (w : Writer) (op : JavaOp) : Op.applyAll w op.ops = op.apply w := by
  cases op with
  | base op => rfl
  | java call => exact call.applyAll_ops w

/-- A history of Java source is a history of the writer. -/
theorem applyAll_eq_ops (w : Writer) (ops : List JavaOp) :
    applyAll w ops = Op.applyAll w (ops.flatMap JavaOp.ops) := by
  induction ops generalizing w with
  | nil => rfl
  | cons op rest ih =>
    rw [List.flatMap_cons, Op.applyAll_append, applyAll_ops, ← ih]
    rfl

end JavaOp

end SourceEmitter
