import SourceEmitter.Plan.Document
import SourceEmitter.Proofs.DocumentEdits

/-!
# Plans survive being written and read

A plan is read back from its document as it was. The shapes say which keys of a document may be left
out, and what counts in their absence; a document that is edited within the shape of a plan is read
as the same plan.
-/

namespace SourceEmitter

open Toml (Value Record Field Shape Edit Edits Ignores)

def Style.shape : Shape :=
  .table [("indent_unit", .text Style.default.indentation),
    ("separator", .text Style.default.separator), ("line_ending", .text Style.default.lineEnd)]

def Layout.shape : Shape :=
  .table [("base_dir", .text Layout.default.base.text),
    ("source_output", .text Layout.default.sourceDir.text),
    ("resource_root", .text Layout.default.resourceDir.text),
    ("writer", ⟨some Layout.default.style.toValue, Style.shape⟩)]

def ArgumentPlan.shape : Shape := .table [("type", .bare), ("name", .bare)]

def FieldPlan.shape : Shape := .table [("type", .bare), ("name", .bare), ("doc", .bare)]

def MethodPlan.shape : Shape :=
  .table [("access", .text "public"), ("modifiers", .text ""), ("returns", .text ""),
    ("name", .bare), ("args", .list ArgumentPlan.shape), ("throws", .texts), ("doc", .bare),
    ("annotations", .texts), ("body", .texts)]

def UnitPlan.shape : Shape :=
  .table [("kind", .bare), ("name", .bare), ("package", .bare), ("header", .texts),
    ("imports", .texts), ("doc", .bare), ("access", .text "public"), ("modifiers", .text ""),
    ("extends", .bare), ("implements", .texts), ("fields", .list FieldPlan.shape),
    ("methods", .list MethodPlan.shape), ("lines", .texts)]

/-- The variables are plain: every key of their table is the name of one. -/
def Plan.shape : Shape :=
  .table [("layout", ⟨some Layout.default.toValue, Layout.shape⟩),
    ("vars", ⟨some (.table []), .plain⟩), ("unit", .list UnitPlan.shape)]

section

variable {α : Type} {encode : α → Value} {decode : Value → Option α}

theorem Toml.Value.list?_map (h : ∀ x, decode (encode x) = some x) (xs : List α) :
    (Value.array (xs.map encode)).list? decode = some xs := by
  have hcomp : decode ∘ encode = fun x => pure (id x) := funext h
  rw [Value.list?, List.mapM_map, hcomp, List.mapM_pure, List.map_id]
  rfl

end

@[simp] theorem Toml.Value.text?_text (text : String) : (Value.text text).text? = some text := rfl

@[simp] theorem Toml.Value.mapM_text?_map (text : Option String) :
    (text.map Value.text).mapM Value.text? = some text := by
  cases text <;> rfl

@[simp] theorem texts?_textsValue (texts : List String) : (textsValue texts).texts? = some texts :=
  Value.list?_map Value.text?_text texts

@[simp] theorem lookup_optionalEntry {rest : List (String × Value)} {name key : String}
    {text : Option String} :
    Value.lookup (optionalEntry name text ++ rest) key =
      if name = key then (text.map Value.text).or (Value.lookup rest key)
      else Value.lookup rest key := by
  cases text <;> by_cases hkey : name = key <;> simp [optionalEntry, hkey]

theorem read_some {α β : Type} (x : α) (rest : α → Option β) : (some x >>= rest) = rest x := rfl

theorem Layout.path?_text (path : Path) : path? (.text path.text) = some path := rfl

theorem Style.ofValue?_toValue (style : Style) : ofValue? style.toValue = some style := rfl

theorem Layout.ofValue?_toValue (layout : Layout) : ofValue? layout.toValue = some layout := rfl

theorem ArgumentPlan.ofValue?_toValue (arg : ArgumentPlan) : ofValue? arg.toValue = some arg := rfl

theorem FieldPlan.ofValue?_toValue (field : FieldPlan) : ofValue? field.toValue = some field := by
  obtain ⟨type, name, doc⟩ := field
  cases doc <;> rfl

theorem MethodPlan.ofValue?_toValue (method : MethodPlan) :
    ofValue? method.toValue = some method := by
  have hargs := Value.list?_map ArgumentPlan.ofValue?_toValue method.args
  simp [ofValue?, toValue, read_some, hargs, -Option.bind_eq_bind]

theorem UnitPlan.ofValue?_toValue (unit : UnitPlan) : ofValue? unit.toValue = some unit := by
  have hfields := Value.list?_map FieldPlan.ofValue?_toValue unit.fields
  have hmethods := Value.list?_map MethodPlan.ofValue?_toValue unit.methods
  simp [ofValue?, toValue, read_some, hfields, hmethods, -Option.bind_eq_bind]

theorem Plan.varsOf?_table (vars : Variables) :
    varsOf? (.table (vars.table.entries.map fun var => (var.1, .text var.2))) = some vars := by
  have hlist : Variables.ofList vars.table.entries = vars :=
    congrArg Variables.mk vars.table.ofList_entries
  have hpairs : (vars.table.entries.map fun var => (var.1, Value.text var.2)).mapM
      (fun entry => entry.2.text?.map fun text => (entry.1, text)) = some vars.table.entries := by
    rw [List.mapM_map]
    exact List.mapM_pure.trans (congrArg some (List.map_id _))
  simp only [varsOf?, Value.entries?, Option.bind_eq_bind, Option.bind_some, hpairs, hlist]
  rfl

theorem Plan.ofValue?_toValue (plan : Plan) : ofValue? plan.toValue = some plan := by
  have hvars := varsOf?_table plan.vars
  have hunits := Value.list?_map UnitPlan.ofValue?_toValue plan.units
  simp [ofValue?, toValue, read_some, Layout.ofValue?_toValue, hvars, hunits,
    -Option.bind_eq_bind]

theorem Style.ignores : Ignores shape ofValue? := by
  refine .record fun entries others htable => ?_
  have hindentation := htable.text 0 "indent_unit" rfl
  have hseparator := htable.text 1 "separator" rfl
  have hlineEnd := htable.text 2 "line_ending" rfl
  rw [hindentation, hseparator, hlineEnd]

theorem Layout.ignores : Ignores shape ofValue? := by
  refine .record fun entries others htable => ?_
  have hpath : Ignores .plain path? := .plain
  have hbase := htable.default 0 "base_dir" hpath rfl (path?_text _)
  have hsourceDir := htable.default 1 "source_output" hpath rfl (path?_text _)
  have hresourceDir := htable.default 2 "resource_root" hpath rfl (path?_text _)
  have hstyle := htable.default 3 "writer" Style.ignores rfl (Style.ofValue?_toValue _)
  rw [hbase, hsourceDir, hresourceDir, hstyle]

theorem ArgumentPlan.ignores : Ignores shape ofValue? := by
  refine .record fun entries others htable => ?_
  have htype := htable.requireText 0 "type" rfl
  have hname := htable.requireText 1 "name" rfl
  rw [htype, hname]

theorem FieldPlan.ignores : Ignores shape ofValue? := by
  refine .record fun entries others htable => ?_
  have htype := htable.requireText 0 "type" rfl
  have hname := htable.requireText 1 "name" rfl
  have hdoc := htable.optionalText 2 "doc" rfl
  rw [htype, hname, hdoc]

theorem MethodPlan.ignores : Ignores shape ofValue? := by
  refine .record fun entries others htable => ?_
  have haccess := htable.text 0 "access" rfl
  have hmodifiers := htable.text 1 "modifiers" rfl
  have hreturns := htable.text 2 "returns" rfl
  have hname := htable.requireText 3 "name" rfl
  have hargs := htable.list 4 "args" ArgumentPlan.ignores rfl
  have hthrows := htable.texts 5 "throws" rfl
  have hdoc := htable.optionalText 6 "doc" rfl
  have hannotations := htable.texts 7 "annotations" rfl
  have hbody := htable.texts 8 "body" rfl
  rw [haccess, hmodifiers, hreturns, hname, hargs, hthrows, hdoc, hannotations, hbody]

theorem UnitPlan.ignores : Ignores shape ofValue? := by
  refine .record fun entries others htable => ?_
  have hkind := htable.requireText 0 "kind" rfl
  have hname := htable.requireText 1 "name" rfl
  have hpackage := htable.optionalText 2 "package" rfl
  have hheader := htable.texts 3 "header" rfl
  have himports := htable.texts 4 "imports" rfl
  have hdoc := htable.optionalText 5 "doc" rfl
  have haccess := htable.text 6 "access" rfl
  have hmodifiers := htable.text 7 "modifiers" rfl
  have hsuperclass := htable.optionalText 8 "extends" rfl
  have hinterfaces := htable.texts 9 "implements" rfl
  have hfields := htable.list 10 "fields" FieldPlan.ignores rfl
  have hmethods := htable.list 11 "methods" MethodPlan.ignores rfl
  have hlines := htable.texts 12 "lines" rfl
  rw [hkind, hname, hpackage, hheader, himports, hdoc, haccess, hmodifiers, hsuperclass,
    hinterfaces, hfields, hmethods, hlines]

theorem Plan.ignores : Ignores shape ofValue? := by
  refine .record fun entries others htable => ?_
  have hlayout := htable.default 0 "layout" Layout.ignores rfl (Layout.ofValue?_toValue _)
  have hplain : Ignores .plain varsOf? := .plain
  have hvars := htable.default 1 "vars" hplain rfl (varsOf?_table .empty)
  have hunits := htable.list 2 "unit" UnitPlan.ignores rfl
  rw [hlayout, hvars, hunits]

/-- A plan is read back from the document it is written as, and from every document that leaves out
keys which have the value that counts anyway, or that has keys nobody knows. -/
theorem plan_reads_back (plan : Plan) :
    Plan.ofValue? plan.toValue = some plan ∧
      ∀ value, Edits Plan.shape plan.toValue value → Plan.ofValue? value = some plan :=
  ⟨plan.ofValue?_toValue, fun _ hedits =>
    (Plan.ignores.edits hedits).trans plan.ofValue?_toValue⟩

/-- Of two units, one says that it has no access, and one leaves out that it is public. -/
theorem plan_reads_back_shortened :
    let hidden : UnitPlan := { kind := "lines", name := "A", access := "" }
    let shown : UnitPlan := { kind := "lines", name := "B" }
    let plan : Plan := { units := [hidden, shown] }
    let short : Value := .table [("unit", .array [
      .table [("kind", .text "lines"), ("name", .text "A"), ("access", .text "")],
      .table [("since", .integer 2), ("kind", .text "lines"), ("name", .text "B")]])]
    Edits Plan.shape plan.toValue short ∧ Plan.ofValue? short = some plan := by
  intro hidden shown plan short
  have hhidden : Edits UnitPlan.shape hidden.toValue
      (.table [("kind", .text "lines"), ("name", .text "A"), ("access", .text "")]) := by
    refine Edits.leaveOut ["header", "imports", "modifiers", "implements", "fields", "methods",
      "lines"] ?_
    simp [List.lookup_cons, Field.texts, Field.text, Field.list, textsValue, optionalEntry, hidden]
  have hshown : Edits UnitPlan.shape shown.toValue
      (.table [("since", .integer 2), ("kind", .text "lines"), ("name", .text "B")]) := by
    refine (Edits.leaveOut ["header", "imports", "access", "modifiers", "implements", "fields",
      "methods", "lines"] ?_).tail (@Edit.add _ [] _ "since" rfl _)
    simp [List.lookup_cons, Field.texts, Field.text, Field.list, textsValue, optionalEntry, shown]
  have hunits := (Edits.item [] [shown.toValue] hhidden).trans (Edits.item [_] [] hshown)
  have hedits : Edits Plan.shape plan.toValue short := by
    refine (Edits.leaveOut ["layout", "vars"] ?_).trans (Edits.entry [] [] rfl hunits)
    simp [List.lookup_cons, plan, Layout.default, Variables.empty, SortedTable.empty]
  exact ⟨hedits, (plan_reads_back plan).2 short hedits⟩

end SourceEmitter
