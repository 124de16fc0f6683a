import SourceEmitter.Proofs.Standing

/-!
# Constructs print as their text

Issuing the calls of nested constructs writes what was pending and then their printed text, from any
state that a run can reach over a sink without limit. A header is short of the fragments that it
holds back until the next write, so its clauses, its items and its closing line are each proved to
complete it.
-/

namespace SourceEmitter

namespace JavaOp

theorem applyAll_java (w : Writer) (call : JavaCall) : applyAll w [.java call] = call.apply w := rfl

theorem applyAll_cons (w : Writer) (op : JavaOp) (rest : List JavaOp) :
    applyAll w (op :: rest) = applyAll (op.apply w) rest := rfl

theorem applyAll_append (w : Writer) (first second : List JavaOp) :
    applyAll w (first ++ second) = applyAll (applyAll w first) second := List.foldl_append

theorem applyAll_map {α : Type} {call : α → JavaCall} {step : Writer → α → Writer}
    (hstep : ∀ w x, (call x).apply w = step w x) (w : Writer) (xs : List α) :
    applyAll w (xs.map fun x => .java (call x)) = xs.foldl step w := by
  have hop : ∀ w x, apply w (.java (call x)) = step w x := hstep
  rw [applyAll, List.foldl_map]
  simp only [hop]

end JavaOp

/-- The writer has put `line` behind `text`, up to the fragments that it holds back. -/
def Writer.HasPut (base : Sink) (style : Style) (once : OnceSlot) (text : String) (level : Nat)
    (line : String) (w : Writer) : Prop :=
  ∃ more used held runs, w = standing base style once (text ++ more) level used held runs ∧
    more ++ String.join held = line

namespace Writer

section
variable {base : Sink} {style : Style} {once : OnceSlot} {text : String} {level : Nat} {used : Bool}
  {held : List String} {runs : RunTracker} {w : Writer}

theorem starLine_standing (hbase : base.room = none) (line : String) :
    (standing base style once text level used [] runs).starLine line =
      standing base style once (text ++
        style.lineAt level (if line.isEmpty then " *" else " * " ++ line)) level used [] runs := by
  unfold starLine
  split <;> rw [fullLine_standing hbase, String.join_nil, String.append_empty]

theorem starComment_standing (hbase : base.room = none) (opening : String) (forceBlock : Bool)
    (lines : List String) :
    (standing base style once text level used held runs).starComment opening forceBlock lines =
      standing base style once (text ++ String.join held ++
        String.join ((Print.comment opening forceBlock lines).map (style.lineAt level))) level used
        [] runs := by
  unfold starComment Print.comment
  split
  · rw [startLine_standing hbase, write_standing hbase, write_standing hbase, write_standing hbase,
      writeLine_standing hbase]
    simp [Style.lineAt, String.append_assoc]
  · rw [startLine_standing hbase, writeLine_standing hbase,
      foldl_texts_standing (fun _ line => starLine_standing hbase line), fullLine_standing hbase]
    simp [Style.lineAt, String.append_assoc, Function.comp_def]

theorem field_standing (hbase : base.room = none) (access type name : String) :
    (standing base style once text level used held runs).field access type name =
      standing base style once (text ++ String.join held ++
        style.lineAt level (Print.field access type name)) level used [] runs := by
  rw [field, startLine_standing hbase, writeWord_standing hbase, write_standing hbase,
    write_standing hbase, write_standing hbase, writeLine_standing hbase]
  simp [Style.lineAt, Print.field, String.append_assoc]

theorem ownLineComment_standing (hbase : base.room = none) (comment : String) :
    (standing base style once text level used held runs).ownLineComment comment =
      standing base style once (text ++ String.join held ++
        style.lineAt level ("// " ++ comment)) level used [] runs := by
  rw [ownLineComment, lineComment, startLine_standing hbase, write_standing hbase,
    writeLine_standing hbase]
  simp [Style.lineAt, String.append_assoc]

/-- Only the parameters of an annotation use the slot for separators. -/
theorem annotate_standing (hbase : base.room = none)
    (hw : w = standing base style once text level used held runs) (name : String)
    (params : List String) :
    ∃ used', w.annotate name params =
      standing base style once (text ++ String.join held ++ style.lineAt level
        ("@" ++ name ++
          if params.isEmpty then "" else "(" ++ style.separator.intercalate params ++ ")"))
        level used' [] runs := by
  subst hw
  cases params with
  | nil =>
    refine ⟨used, ?_⟩
    simp only [annotate, List.isEmpty_nil, if_true, startLine_standing hbase, write_standing hbase,
      writeLine_standing hbase]
    simp [Style.lineAt, String.append_assoc]
  | cons first rest =>
    refine ⟨true, ?_⟩
    simp only [annotate, List.isEmpty_cons, Bool.false_eq_true, if_false,
      startLine_standing hbase, write_standing hbase, startList_standing,
      foldl_writeItem_standing hbase, writeLine_standing hbase]
    simp [Style.lineAt, String.append_assoc]

theorem documentedField_standing (hbase : base.room = none) (type name : String)
    (doc : Option String) :
    (standing base style once text level used held runs).documentedField type name doc =
      standing base style once (text ++ String.join held ++ String.join
        (((Leaf.documentedField type name doc).lines style.separator).map (style.lineAt level)))
        level used [] runs := by
  cases doc with
  | none =>
    rw [documentedField, docLine, field_standing hbase, blankLine, fullLine_standing hbase]
    simp [Leaf.lines, String.append_assoc]
  | some doc =>
    rw [documentedField, docLine, docComment, starComment_standing hbase, field_standing hbase,
      blankLine, fullLine_standing hbase]
    simp [Leaf.lines, Print.comment, String.append_assoc]

theorem applyAll_leaf (hbase : base.room = none)
    (hw : w = standing base style once text level used held runs) (leaf : Leaf) :
    ∃ used', JavaOp.applyAll w leaf.ops =
      standing base style once (text ++ String.join held ++
        String.join ((leaf.lines style.separator).map (style.lineAt level)))
        level used' [] runs := by
  have hone : ∀ line, String.join ([line].map (style.lineAt level)) = style.lineAt level line := by
    simp
  subst hw
  cases leaf with
  | line line =>
    refine ⟨used, (fullLine_standing hbase line).trans ?_⟩
    rw [Leaf.lines, hone]
  | blank =>
    refine ⟨used, (fullLine_standing hbase "").trans ?_⟩
    rw [Leaf.lines, hone]
  | comment forceBlock lines => exact ⟨used, starComment_standing hbase "/*" forceBlock lines⟩
  | docComment forceBlock lines => exact ⟨used, starComment_standing hbase "/**" forceBlock lines⟩
  | ownLineComment comment =>
    refine ⟨used, (ownLineComment_standing hbase comment).trans ?_⟩
    rw [Leaf.lines, hone]
  | annotate name params =>
    obtain ⟨used', hwrite⟩ := annotate_standing hbase rfl name params
    refine ⟨used', hwrite.trans ?_⟩
    rw [Leaf.lines, hone]
  | field access type name =>
    refine ⟨used, (field_standing hbase access type name).trans ?_⟩
    rw [Leaf.lines, hone]
  | documentedField type name doc =>
    refine ⟨used, ?_⟩
    rw [Leaf.ops, JavaOp.applyAll_java, JavaCall.apply, documentedField_standing hbase]

theorem openClass_standing (hbase : base.room = none) (access modifiers name : String) :
    (standing base style once text level used held runs).openClass access modifiers name =
      standing base style once (text ++ String.join held ++ (style.lead level ++
        Print.word access ++ Print.word modifiers ++ "class " ++ name)) (level + 1) used
        [" \x7b" ++ style.lineEnd] ⟨some classCaller⟩ := by
  rw [openClass, record_standing, startLine_standing hbase, writeWord_standing hbase,
    writeWord_standing hbase, write_standing hbase, write_standing hbase, deferLine_standing,
    indentMore_standing]
  simp [String.append_assoc]

theorem openMethod_standing (hbase : base.room = none) (access modifiers returns name : String) :
    (standing base style once text level used held runs).openMethod access modifiers returns name =
      standing base style once (text ++ String.join held ++ (style.lead level ++
        Print.word access ++ Print.word modifiers ++ Print.word returns ++ name ++ "(")) (level + 1)
        false [")", " \x7b" ++ style.lineEnd] ⟨some methodCaller⟩ := by
  rw [openMethod, record_standing, startLine_standing hbase, writeWord_standing hbase,
    writeWord_standing hbase, writeWord_standing hbase, write_standing hbase, write_standing hbase,
    defer_standing, deferLine_standing, indentMore_standing, startList_standing]
  simp [String.append_assoc]

theorem openControl_standing (hbase : base.room = none) (keyword header : String) :
    (standing base style once text level used held runs).openControl keyword header =
      standing base style once (text ++ String.join held ++
        style.lineAt level (Print.control keyword header)) (level + 1) used [] runs := by
  rw [openControl, startLine_standing hbase, write_standing hbase, write_standing hbase,
    write_standing hbase, writeLine_standing hbase, indentMore_standing]
  simp [Style.lineAt, Print.control, String.append_assoc]

theorem openControlHeader_standing (hbase : base.room = none) (keyword : String) :
    (standing base style once text level used held runs).openControlHeader keyword =
      standing base style once (text ++ String.join held ++
        (style.lead level ++ keyword ++ " ("))
        (level + 1) used [") \x7b" ++ style.lineEnd] runs := by
  rw [openControlHeader, startLine_standing hbase, write_standing hbase, write_standing hbase,
    deferLine_standing, indentMore_standing]
  simp [String.append_assoc]

theorem openBlock_standing (hbase : base.room = none) (header : String) :
    (standing base style once text level used held runs).openBlock header =
      standing base style once (text ++ String.join held ++ (style.lead level ++ header)) level used
        [" \x7b" ++ style.lineEnd] runs := by
  rw [openBlock, startLine_standing hbase, write_standing hbase, deferLine_standing]
  simp [String.append_assoc]

theorem closeBody_standing (hbase : base.room = none) :
    (standing base style once text (level + 1) used held runs).closeBody =
      standing base style once (text ++ String.join held ++ style.lineAt level "\x7d") level used []
        runs := by
  rw [closeBody, indentLess_standing, fullLine_standing hbase]

theorem addArgument_eq (w : Writer) (type name : String) :
    w.addArgument type name = ((w.writeItem type).put " ").put name := rfl

theorem addArgument_standing (hbase : base.room = none) (type name : String) :
    (standing base style once text level true held runs).addArgument type name =
      standing base style once (text ++ style.separator ++ (type ++ " " ++ name)) level true held
        runs := by
  rw [addArgument_eq, writeItem_standing hbase, put_standing hbase, put_standing hbase]
  simp only [String.append_assoc]

theorem addArgument_standing_first (hbase : base.room = none) (type name : String) :
    (standing base style once text level false held runs).addArgument type name =
      standing base style once (text ++ (type ++ " " ++ name)) level true held runs := by
  rw [addArgument_eq, writeItem_standing_first hbase, put_standing hbase, put_standing hbase]
  simp only [String.append_assoc]

theorem addInterface_standing (hbase : base.room = none) (name : String) :
    (standing base style once text level true held ⟨some interfaceCaller⟩).addInterface name =
      standing base style once (text ++ style.separator ++ name) level true held
        ⟨some interfaceCaller⟩ := by
  have hsame : (⟨some interfaceCaller⟩ : RunTracker).startsRun interfaceCaller = false := by decide
  rw [addInterface, ifNewRun, if_neg, record_standing, writeItem_standing hbase]
  rw [standing, hsame]
  decide

theorem addInterface_standing_first (hbase : base.room = none) (name : String)
    (hruns : runs.startsRun interfaceCaller = true) :
    (standing base style once text level used held runs).addInterface name =
      standing base style once (text ++ " implements " ++ name) level true held
        ⟨some interfaceCaller⟩ := by
  rw [addInterface, ifNewRun, if_pos, writeAhead, put_standing hbase, startList_standing,
    record_standing, writeItem_standing_first hbase]
  exact hruns

theorem addException_standing (hbase : base.room = none) (name : String) :
    (standing base style once text level true held ⟨some exceptionCaller⟩).addException name =
      standing base style once (text ++ style.separator ++ name) level true held
        ⟨some exceptionCaller⟩ := by
  have hsame : (⟨some exceptionCaller⟩ : RunTracker).startsRun exceptionCaller = false := by decide
  rw [addException, ifNewRun, if_neg, record_standing, writeItem_standing hbase]
  rw [standing, hsame]
  decide

theorem addException_standing_first (hbase : base.room = none) (first : String)
    (rest : List String) (name : String) (hruns : runs.startsRun exceptionCaller = true) :
    (standing base style once text level used (first :: rest) runs).addException name =
      standing base style once (text ++ first ++ " throws " ++ name) level true rest
        ⟨some exceptionCaller⟩ := by
  rw [addException, ifNewRun, if_pos, releaseFirst_standing hbase, writeAhead, put_standing hbase,
    startList_standing, record_standing, writeItem_standing_first hbase]
  exact hruns

theorem applyAll_interfaces (hbase : base.room = none)
    (hw : w = standing base style once text level used held ⟨some classCaller⟩)
    (interfaces : List String) :
    ∃ used' runs', JavaOp.applyAll w (interfaces.map fun name => .java (.addInterface name)) =
      standing base style once (text ++ Print.clause " implements " style.separator interfaces)
        level used' held runs' := by
  rw [JavaOp.applyAll_map (fun _ _ => rfl), hw]
  cases interfaces with
  | nil =>
    refine ⟨used, ⟨some classCaller⟩, ?_⟩
    rw [Print.clause, if_pos List.isEmpty_nil, String.append_empty]
    rfl
  | cons first rest =>
    have hnew : (⟨some classCaller⟩ : RunTracker).startsRun interfaceCaller = true := by decide
    refine ⟨true, ⟨some interfaceCaller⟩, ?_⟩
    refine (foldl_standing (fun _ name => addInterface_standing hbase name)
      (addInterface_standing_first hbase first hnew) rest).trans ?_
    simp [Print.clause, String.append_assoc]

theorem applyAll_superclass (hbase : base.room = none)
    (hw : w = standing base style once text level used held runs) (superclass : Option String) :
    JavaOp.applyAll w (superclass.toList.map fun name => .java (.addSuperclass name)) =
      standing base style once (text ++ Print.superclass superclass) level used held runs := by
  cases superclass with
  | none =>
    rw [Print.superclass, String.append_empty, ← hw]
    rfl
  | some name =>
    have hextends : ∀ w : Writer, w.addSuperclass name = (w.put " extends ").put name :=
      fun _ => rfl
    refine (hextends w).trans ?_
    rw [hw, put_standing hbase, put_standing hbase, Print.superclass, String.append_assoc]

theorem applyAll_arguments (hbase : base.room = none)
    (hw : w = standing base style once text level false held runs)
    (arguments : List (String × String)) :
    ∃ used', JavaOp.applyAll w
        (arguments.map fun argument => .java (.addArgument argument.1 argument.2)) =
      standing base style once (text ++ style.separator.intercalate
        (arguments.map fun argument => argument.1 ++ " " ++ argument.2)) level used' held runs := by
  rw [JavaOp.applyAll_map (fun _ _ => rfl), hw]
  cases arguments with
  | nil =>
    refine ⟨false, ?_⟩
    rw [List.map_nil, String.intercalate_nil, String.append_empty]
    rfl
  | cons first rest =>
    refine ⟨true, ?_⟩
    exact foldl_standing
      (fun _ (argument : String × String) => addArgument_standing hbase argument.1 argument.2)
      (addArgument_standing_first hbase first.1 first.2) rest

theorem HasPut.prepend {more line : String}
    (h : HasPut base style once (text ++ more) level line w) :
    HasPut base style once text level (more ++ line) w := by
  obtain ⟨rest, used', held', runs', hw, hline⟩ := h
  refine ⟨more ++ rest, used', held', runs', ?_, ?_⟩
  · rw [hw, String.append_assoc]
  · rw [String.append_assoc, hline]

theorem hasPut_standing (hw : w = standing base style once text level used held runs) :
    HasPut base style once text level (String.join held) w := by
  refine ⟨"", used, held, runs, ?_, ?_⟩
  · rw [hw, String.append_empty]
  · rw [String.empty_append]

/-- The first exception takes the parenthesis that is held back; without exceptions it stays. -/
theorem applyAll_exceptions (hbase : base.room = none) {brace : String}
    (hw : w = standing base style once text level used [")", brace] ⟨some methodCaller⟩)
    (exceptions : List String) :
    HasPut base style once text level
      (")" ++ (Print.clause " throws " style.separator exceptions ++ brace))
      (JavaOp.applyAll w (exceptions.map fun name => .java (.addException name))) := by
  rw [JavaOp.applyAll_map (fun _ _ => rfl), hw]
  cases exceptions with
  | nil =>
    have hput := hasPut_standing hw
    rw [String.join_cons, String.join_cons, String.join_nil, String.append_empty] at hput
    rw [Print.clause, if_pos List.isEmpty_nil, String.empty_append]
    exact hw ▸ hput
  | cons first rest =>
    have hnew : (⟨some methodCaller⟩ : RunTracker).startsRun exceptionCaller = true := by decide
    refine ⟨")" ++ Print.clause " throws " style.separator (first :: rest), true, [brace],
      ⟨some exceptionCaller⟩, ?_, ?_⟩
    · refine (foldl_standing (fun _ name => addException_standing hbase name)
        (addException_standing_first hbase ")" [brace] first hnew) rest).trans ?_
      simp only [List.map_id', Print.clause, List.isEmpty_cons, Bool.false_eq_true, if_false,
        String.append_assoc]
    · rw [String.join_cons, String.join_nil, String.append_empty, String.append_assoc]

theorem applyAll_pieces (hbase : base.room = none) {call : String → JavaCall}
    (hcall : ∀ w piece, (call piece).apply w = w.writeAhead piece)
    (hw : w = standing base style once text level used held runs) (pieces : List String) :
    JavaOp.applyAll w (pieces.map fun piece => .java (call piece)) =
      standing base style once (text ++ String.join pieces) level used held runs := by
  rw [JavaOp.applyAll_map hcall, hw]
  exact putAll_standing hbase pieces

theorem openClass_hasPut (hbase : base.room = none)
    (hw : w = standing base style once text level used held runs)
    (access modifiers name : String) (superclass : Option String) (interfaces : List String) :
    HasPut base style once (text ++ String.join held) (level + 1)
      (style.lineAt level
        ((Head.classDecl access modifiers name superclass interfaces).line style.separator))
      (JavaOp.applyAll w
        (Head.classDecl access modifiers name superclass interfaces).opening) := by
  have hsuper := applyAll_superclass hbase
    (hw ▸ openClass_standing hbase access modifiers name) superclass
  obtain ⟨used', runs', hinterfaces⟩ := applyAll_interfaces hbase hsuper interfaces
  have hput := (hasPut_standing hinterfaces).prepend.prepend.prepend
  rw [Head.opening, JavaOp.applyAll_cons, JavaOp.applyAll_append, JavaOp.apply, JavaCall.apply]
  simpa [Style.lineAt, Head.line, String.append_assoc] using hput

theorem openMethod_hasPut (hbase : base.room = none)
    (hw : w = standing base style once text level used held runs)
    (access modifiers returns name : String) (arguments : List (String × String))
    (exceptions : List String) :
    HasPut base style once (text ++ String.join held) (level + 1)
      (style.lineAt level (Print.word access ++ Print.word modifiers ++ Print.word returns ++
        name ++ Print.signature style.separator arguments exceptions))
      (JavaOp.applyAll (w.openMethod access modifiers returns name)
        (JavaOp.signature arguments exceptions)) := by
  obtain ⟨_, harguments⟩ := applyAll_arguments hbase
    (hw ▸ openMethod_standing hbase access modifiers returns name) arguments
  have hput := (applyAll_exceptions hbase harguments exceptions).prepend.prepend
  rw [JavaOp.signature, JavaOp.applyAll_append]
  simpa only [Style.lineAt, Print.signature, String.append_assoc] using hput

theorem openControl_hasPut (hbase : base.room = none)
    (hw : w = standing base style once text level used held runs) (keyword header : String) :
    HasPut base style once (text ++ String.join held) (level + 1)
      (style.lineAt level (Print.control keyword header)) (w.openControl keyword header) := by
  refine ⟨_, _, _, _, hw ▸ openControl_standing hbase keyword header, ?_⟩
  rw [String.join_nil, String.append_empty]

/-- The conditions are written in front of the brace that is held back. -/
theorem openControlHeader_hasPut (hbase : base.room = none)
    (hw : w = standing base style once text level used held runs) (keyword : String)
    {call : String → JavaCall} (hcall : ∀ w piece, (call piece).apply w = w.writeAhead piece)
    (pieces : List String) :
    HasPut base style once (text ++ String.join held) (level + 1)
      (style.lineAt level (Print.control keyword (String.join pieces)))
      (JavaOp.applyAll (w.openControlHeader keyword)
        (pieces.map fun piece => .java (call piece))) := by
  have hpieces := applyAll_pieces hbase hcall (hw ▸ openControlHeader_standing hbase keyword) pieces
  have hput := (hasPut_standing hpieces).prepend.prepend
  simpa [Style.lineAt, Print.control, String.append_assoc] using hput

theorem openBlock_hasPut (hbase : base.room = none)
    (hw : w = standing base style once text level used held runs) (header : String) :
    HasPut base style once (text ++ String.join held) (level + 1)
      (style.lineAt level (header ++ " \x7b")) (w.openBlock header).indentMore := by
  rw [hw, openBlock_standing hbase, indentMore_standing]
  refine ⟨_, _, _, _, rfl, ?_⟩
  simp [Style.lineAt, String.append_assoc]

/-- A header has put its line behind everything, up to the fragments that it holds back. -/
theorem applyAll_opening (hbase : base.room = none)
    (hw : w = standing base style once text level used held runs) (head : Head) :
    HasPut base style once (text ++ String.join held) (level + 1)
      (style.lineAt level (head.line style.separator)) (JavaOp.applyAll w head.opening) := by
  cases head with
  | classDecl access modifiers name superclass interfaces =>
    exact openClass_hasPut hbase hw access modifiers name superclass interfaces
  | method access modifiers returns name arguments exceptions =>
    exact openMethod_hasPut hbase hw access modifiers returns name arguments exceptions
  | constructor name arguments exceptions =>
    have hput := openMethod_hasPut hbase hw "" "" "" name arguments exceptions
    have hword : Print.word "" = "" := rfl
    simp only [hword, String.empty_append] at hput
    exact hput
  | ifWhole condition => exact openControl_hasPut hbase hw "if" condition
  | whileWhole condition => exact openControl_hasPut hbase hw "while" condition
  | forSteps init compare increment => exact openControl_hasPut hbase hw "for" _
  | forEach item items => exact openControl_hasPut hbase hw "for" _
  | ifPieces pieces =>
    exact openControlHeader_hasPut hbase hw "if" (fun _ _ => rfl) pieces
  | whilePieces pieces =>
    exact openControlHeader_hasPut hbase hw "while" (fun _ _ => rfl) pieces
  | block header => exact openBlock_hasPut hbase hw header

theorem applyAll_closing (w : Writer) (head : Head) :
    JavaOp.applyAll w head.closing = w.closeBody := by
  cases head <;> rfl

end

mutual

/-- A construct writes what is pending and its text, and leaves nothing pending. -/
theorem applyAll_construct {base : Sink} {style : Style} {once : OnceSlot}
    (hbase : base.room = none) {w : Writer} {text : String} {level : Nat} {used : Bool}
    {held : List String} {runs : RunTracker}
    (hw : w = standing base style once text level used held runs) :
    (construct : Construct) → ∃ used' runs', JavaOp.applyAll w construct.ops =
      standing base style once (text ++ String.join held ++ construct.text style level) level used'
        [] runs'
  | .plain leaf => by
    obtain ⟨used', hleaf⟩ := applyAll_leaf hbase hw leaf
    exact ⟨used', runs, hleaf⟩
  | .nest head items => by
    obtain ⟨line, used₁, held₁, runs₁, hopen, hline⟩ := applyAll_opening hbase hw head
    obtain ⟨body, used₂, held₂, runs₂, hitems, hbody⟩ := hasPut_constructs hbase hopen items
    have hclose : body ++ (String.join held₂ ++ style.lineAt level "\x7d") =
        String.join held₁ ++
          (Construct.textAll style (level + 1) items ++ style.lineAt level "\x7d") := by
      rw [← String.append_assoc, hbody, String.append_assoc]
    refine ⟨used₂, runs₂, ?_⟩
    rw [Construct.ops, JavaOp.applyAll_append, JavaOp.applyAll_append,
      applyAll_closing, hitems, closeBody_standing hbase, Construct.text, ← hline]
    simp only [String.append_assoc, hclose]

/-- Constructs in a row write their texts in a row behind what is pending. -/
theorem hasPut_constructs {base : Sink} {style : Style} {once : OnceSlot}
    (hbase : base.room = none) {w : Writer} {text : String} {level : Nat} {used : Bool}
    {held : List String} {runs : RunTracker}
    (hw : w = standing base style once text level used held runs) :
    (items : List Construct) → HasPut base style once text level
      (String.join held ++ Construct.textAll style level items)
      (JavaOp.applyAll w (Construct.opsAll items))
  | [] => by
    rw [Construct.textAll, String.append_empty]
    exact hasPut_standing hw
  | first :: rest => by
    obtain ⟨_, _, hfirst⟩ := applyAll_construct hbase hw first
    have hrest := hasPut_constructs hbase hfirst rest
    rw [String.join_nil, String.empty_append] at hrest
    rw [Construct.opsAll, JavaOp.applyAll_append]
    exact hrest.prepend.prepend

end

/-- Behind at least one construct nothing is pending. -/
theorem applyAll_constructs {base : Sink} {style : Style} {once : OnceSlot}
    (hbase : base.room = none) {w : Writer} {text : String} {level : Nat} {used : Bool}
    {held : List String} {runs : RunTracker}
    (hw : w = standing base style once text level used held runs) {items : List Construct}
    (hitems : items ≠ []) :
    ∃ used' runs', JavaOp.applyAll w (Construct.opsAll items) =
      standing base style once (text ++ (String.join held ++ Construct.textAll style level items))
        level used' [] runs' := by
  induction items generalizing w text used held runs with
  | nil => exact absurd rfl hitems
  | cons first rest ih =>
    obtain ⟨used₁, runs₁, hfirst⟩ := applyAll_construct hbase hw first
    rw [Construct.opsAll, JavaOp.applyAll_append, Construct.textAll]
    cases rest with
    | nil =>
      refine ⟨used₁, runs₁, hfirst.trans ?_⟩
      rw [Construct.textAll, String.append_empty, String.append_assoc]
    | cons second rest =>
      obtain ⟨used₂, runs₂, hrest⟩ := ih hfirst (List.cons_ne_nil second rest)
      refine ⟨used₂, runs₂, hrest.trans ?_⟩
      rw [String.join_nil, String.empty_append]
      simp only [String.append_assoc]

end Writer

/-- Issuing the calls of constructs appends what was pending and then their printed text to a sink
that takes everything, whatever the level, the slots, the pending fragments and the runs of callers
were. Behind at least one construct nothing is pending; the level and all but the slot for
separators and the runs are as before. -/
theorem constructs_print (sink : Sink) (style : Style) (level : Nat) (used : Bool)
    (once : OnceSlot) (pending : FragmentQueue) (runs : RunTracker) (items : List Construct)
    (hsink : sink.room = none) :
    let w : Writer :=
      { sink, style, once, pending, runs
        margin := style.lead level
        separator := ⟨style.separator, used⟩
        failure := none }
    (items = [] → JavaOp.applyAll w (Construct.opsAll items) = w) ∧
      (items ≠ [] → ∃ used' runs', JavaOp.applyAll w (Construct.opsAll items) =
        { w with
          sink := sink.append
            (String.join pending.fragments ++ Construct.textAll style level items)
          pending := .empty
          separator := ⟨style.separator, used'⟩
          runs := runs' }) := by
  intro w
  have hw : w = .standing sink style once "" level used pending.fragments runs := by
    rw [Writer.standing, Sink.append_empty]
  constructor
  · intro hitems
    rw [hitems]
    rfl
  · intro hitems
    obtain ⟨used', runs', hrun⟩ := Writer.applyAll_constructs hsink hw hitems
    refine ⟨used', runs', hrun.trans ?_⟩
    rw [String.empty_append]
    rfl

/-- A comma, a brace and a run of exceptions are left over from before; the first item of the class
is reached with the header of the class still pending. -/
theorem constructs_print_nested :
    let sink := Sink.holding "x".toByteArray
    let items : List Construct :=
      [.nest (.classDecl "public" "" "A" (some "B") ["I", "J"])
        [.nest (.method "" "static" "int" "f" [("int", "a"), ("T", "b")] ["E", "F"])
          [.nest (.ifPieces ["a", " && b"]) []]]]
    let w : Writer :=
      { sink, style := .default, once := ⟨"y"⟩, pending := ⟨[";", "\n"]⟩
        runs := ⟨some Writer.exceptionCaller⟩, margin := "    ", separator := ⟨", ", true⟩
        failure := none }
    sink.room = none ∧ (JavaOp.applyAll w (Construct.opsAll items)).sink =
      sink.append (";\n    public class A extends B implements I, J \x7b\n" ++
        "        static int f(int a, T b) throws E, F \x7b\n" ++
        "            if (a && b) \x7b\n            \x7d\n        \x7d\n    \x7d\n") := by
  intro sink items w
  have hprint := constructs_print sink .default 1 true ⟨"y"⟩ ⟨[";", "\n"]⟩
    ⟨some Writer.exceptionCaller⟩ items rfl
  obtain ⟨_, _, hrun⟩ := hprint.2 (List.cons_ne_nil _ _)
  refine ⟨rfl, (congrArg Writer.sink hrun).trans ?_⟩
  rfl

end SourceEmitter
