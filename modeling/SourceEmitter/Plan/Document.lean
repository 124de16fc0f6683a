import SourceEmitter.OutputError
import SourceEmitter.Plan
import SourceEmitter.PlanError
import SourceEmitter.Toml.Document
import SourceEmitter.Toml.Record

/-!
# Plans as documents

The document value of every part of a plan, and the way back. Encoding writes every field, except
that an absent text is left out; decoding fills in defaults and ignores what it does not know.
-/

namespace SourceEmitter

open Toml (Value Record)

def textsValue (texts : List String) : Value := .array (texts.map .text)

/-- The entry of a text that may be absent. -/
def optionalEntry (key : String) (text : Option String) : List (String × Value) :=
  (text.map fun text => (key, Value.text text)).toList

namespace Style

def toValue (style : Style) : Value :=
  .table [("indent_unit", .text style.indentation), ("separator", .text style.separator),
    ("line_ending", .text style.lineEnd)]

def ofValue? (value : Value) : Option Style := do
  let record ← value.record?
  let indentation ← record.default 0 "indent_unit" Value.text? default.indentation
  let separator ← record.default 1 "separator" Value.text? default.separator
  let lineEnd ← record.default 2 "line_ending" Value.text? default.lineEnd
  return { indentation, separator, lineEnd }

/-- Reads and validates writer settings. -/
def ofDocument (text : String) : Except OutputError Style :=
  match (Toml.parse? text).bind ofValue? with
  | none => .error .unreadable
  | some style =>
    match style.check with
    | .ok () => .ok style
    | .error fault => .error (.badSettings fault)

end Style

namespace Layout

def toValue (layout : Layout) : Value :=
  .table [("base_dir", .text layout.base.text), ("source_output", .text layout.sourceDir.text),
    ("resource_root", .text layout.resourceDir.text), ("writer", layout.style.toValue)]

def path? (value : Value) : Option Path := value.text?.map Path.mk

def ofValue? (value : Value) : Option Layout := do
  let record ← value.record?
  let base ← record.default 0 "base_dir" path? default.base
  let sourceDir ← record.default 1 "source_output" path? default.sourceDir
  let resourceDir ← record.default 2 "resource_root" path? default.resourceDir
  let style ← record.default 3 "writer" Style.ofValue? default.style
  return { base, sourceDir, resourceDir, style }

end Layout

namespace ArgumentPlan

def toValue (arg : ArgumentPlan) : Value :=
  .table [("type", .text arg.type), ("name", .text arg.name)]

def ofValue? (value : Value) : Option ArgumentPlan := do
  let record ← value.record?
  let type ← record.require 0 "type" Value.text?
  let name ← record.require 1 "name" Value.text?
  return { type, name }

end ArgumentPlan

namespace FieldPlan

def toValue (field : FieldPlan) : Value :=
  .table ([("type", .text field.type), ("name", .text field.name)]
    ++ optionalEntry "doc" field.doc)

def ofValue? (value : Value) : Option FieldPlan := do
  let record ← value.record?
  let type ← record.require 0 "type" Value.text?
  let name ← record.require 1 "name" Value.text?
  let doc ← record.optionalText 2 "doc"
  return { type, name, doc }

end FieldPlan

namespace MethodPlan

def toValue (method : MethodPlan) : Value :=
  .table ([("access", .text method.access), ("modifiers", .text method.modifiers),
      ("returns", .text method.returns), ("name", .text method.name),
      ("args", .array (method.args.map ArgumentPlan.toValue)), ("throws", textsValue method.throws)]
    ++ optionalEntry "doc" method.doc
    ++ [("annotations", textsValue method.annotations), ("body", textsValue method.body)])

def ofValue? (value : Value) : Option MethodPlan := do
  let record ← value.record?
  let access ← record.default 0 "access" Value.text? "public"
  let modifiers ← record.default 1 "modifiers" Value.text? ""
  let returns ← record.default 2 "returns" Value.text? ""
  let name ← record.require 3 "name" Value.text?
  let args ← record.default 4 "args" (Value.list? ArgumentPlan.ofValue?) []
  let throws ← record.default 5 "throws" Value.texts? []
  let doc ← record.optionalText 6 "doc"
  let annotations ← record.default 7 "annotations" Value.texts? []
  let body ← record.default 8 "body" Value.texts? []
  return { access, modifiers, returns, name, args, throws, doc, annotations, body }

end MethodPlan

namespace UnitPlan

def toValue (unit : UnitPlan) : Value :=
  .table ([("kind", .text unit.kind), ("name", .text unit.name)]
    ++ optionalEntry "package" unit.package
    ++ [("header", textsValue unit.header), ("imports", textsValue unit.imports)]
    ++ optionalEntry "doc" unit.doc
    ++ [("access", .text unit.access), ("modifiers", .text unit.modifiers)]
    ++ optionalEntry "extends" unit.superclass
    ++ [("implements", textsValue unit.interfaces),
      ("fields", .array (unit.fields.map FieldPlan.toValue)),
      ("methods", .array (unit.methods.map MethodPlan.toValue)),
      ("lines", textsValue unit.lines)])

def ofValue? (value : Value) : Option UnitPlan := do
  let record ← value.record?
  let kind ← record.require 0 "kind" Value.text?
  let name ← record.require 1 "name" Value.text?
  let package ← record.optionalText 2 "package"
  let header ← record.default 3 "header" Value.texts? []
  let imports ← record.default 4 "imports" Value.texts? []
  let doc ← record.optionalText 5 "doc"
  let access ← record.default 6 "access" Value.text? "public"
  let modifiers ← record.default 7 "modifiers" Value.text? ""
  let superclass ← record.optionalText 8 "extends"
  let interfaces ← record.default 9 "implements" Value.texts? []
  let fields ← record.default 10 "fields" (Value.list? FieldPlan.ofValue?) []
  let methods ← record.default 11 "methods" (Value.list? MethodPlan.ofValue?) []
  let lines ← record.default 12 "lines" Value.texts? []
  return { kind, name, package, header, imports, doc, access, modifiers, superclass, interfaces,
           fields, methods, lines }

end UnitPlan

namespace Plan

def toValue (plan : Plan) : Value :=
  .table [("layout", plan.layout.toValue),
    ("vars", .table (plan.vars.table.entries.map fun var => (var.1, .text var.2))),
    ("unit", .array (plan.units.map UnitPlan.toValue))]

def varsOf? (value : Value) : Option Variables := do
  let entries ← value.entries?
  let pairs ← entries.mapM fun entry => entry.2.text?.map fun text => (entry.1, text)
  return .ofList pairs

def ofValue? (value : Value) : Option Plan := do
  let record ← value.record?
  let layout ← record.default 0 "layout" Layout.ofValue? Layout.default
  let vars ← record.default 1 "vars" varsOf? .empty
  let units ← record.default 2 "unit" (Value.list? UnitPlan.ofValue?) []
  return { layout, vars, units }

def ofDocument (text : String) : Except PlanError Plan :=
  match (Toml.parse? text).bind ofValue? with
  | some plan => .ok plan
  | none => .error .unreadable

end Plan

end SourceEmitter
