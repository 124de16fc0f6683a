import SourceEmitter.UnitKind.ClassFile
import SourceEmitter.UnitKind.ResourceFile

/-!
# Tables of kinds

The kinds of units by name; of two kinds of one name the later counts. A plan is refused before
anything is written if the kind of one of its units is not in the table; after that its units are
rendered or stored in order, up to the first that fails.
-/

namespace SourceEmitter

/-- The kinds of units by name. -/
structure KindTable where
  byName : SortedTable UnitKind

namespace KindTable

def empty : KindTable := ⟨.empty⟩

/-- Adds a kind, in place of an earlier one of the same name. -/
def add (table : KindTable) (kind : UnitKind) : KindTable :=
  ⟨table.byName.insert kind.name kind⟩

/-- The table of a list of kinds; of two kinds of one name the later counts. -/
def ofList (kinds : List UnitKind) : KindTable := kinds.foldl add empty

def standard : KindTable := ofList [classKind, resourceKind]

def get? (table : KindTable) (name : String) : Option UnitKind := table.byName.get? name

def names (table : KindTable) : List String := table.byName.keys

def find (table : KindTable) (name : String) : Except PlanError UnitKind :=
  match table.get? name with
  | some kind => .ok kind
  | none => .error (.noSuchKind name)

/-- Refuses the first unit whose kind is not in the table. -/
def requireKinds (table : KindTable) : List UnitPlan → Except PlanError Unit
  | [] => .ok ()
  | unit :: rest =>
    match table.find unit.kind with
    | .ok _ => requireKinds table rest
    | .error error => .error error

def render (table : KindTable) (unit : UnitPlan) (vars : Variables) (style : Style) (sink : Sink) :
    Rendering :=
  match table.find unit.kind with
  | .ok kind => kind.render unit vars style sink
  | .error error => (sink, .error error)

/-- The line in front of a unit where several are rendered to one sink. -/
def marker (unit : UnitPlan) : String := "// ---- " ++ unit.name ++ " (" ++ unit.kind ++ ")\n"

/-- Renders units to a sink, each behind its marker, up to the first that fails. -/
def renderUnits (table : KindTable) (vars : Variables) (style : Style) (sink : Sink) :
    List UnitPlan → Rendering
  | [] =>
    match sink.flush with
    | (sink, none) => (sink, .ok ())
    | (sink, some fault) => (sink, .error (.io (.sink fault)))
  | unit :: rest =>
    match sink.accept (marker unit).toByteArray with
    | (sink, some fault) => (sink, .error (.io (.sink fault)))
    | (sink, none) =>
      match table.render unit vars style sink with
      | (sink, .ok ()) => renderUnits table vars style sink rest
      | (sink, .error error) => (sink, .error error)

/-- Renders the units of a plan to a sink. The layout and the kinds are checked before anything is
written. -/
def renderAll (table : KindTable) (plan : Plan) (sink : Sink) : Rendering :=
  match plan.layout.check with
  | .error fault => (sink, .error (.output (.badSettings fault)))
  | .ok () =>
    match table.requireKinds plan.units with
    | .error error => (sink, .error error)
    | .ok () => table.renderUnits plan.vars plan.layout.style sink plan.units

/-- Stores one unit and tells its path. -/
def store (table : KindTable) (unit : UnitPlan) (vars : Variables) (placement : Placement)
    (tree : FileTree) : FileTree × Except PlanError Path :=
  match table.find unit.kind with
  | .ok kind => kind.store unit vars placement tree
  | .error error => (tree, .error error)

/-- Stores units, up to the first that fails, and tells their paths. -/
def storeUnits (table : KindTable) (vars : Variables) (placement : Placement)
    (tree : FileTree) : List UnitPlan → FileTree × Except PlanError (List Path)
  | [] => (tree, .ok [])
  | unit :: rest =>
    match table.store unit vars placement tree with
    | (tree, .error error) => (tree, .error error)
    | (tree, .ok path) =>
      match storeUnits table vars placement tree rest with
      | (tree, .ok paths) => (tree, .ok (path :: paths))
      | (tree, .error error) => (tree, .error error)

/-- Stores the units of a plan. The kinds are checked before anything is written. -/
def storeAll (table : KindTable) (plan : Plan) (placement : Placement) (tree : FileTree) :
    FileTree × Except PlanError (List Path) :=
  match table.requireKinds plan.units with
  | .error error => (tree, .error error)
  | .ok () => table.storeUnits plan.vars placement tree plan.units

theorem get?_add (table : KindTable) (kind : UnitKind) (name : String) :
    (table.add kind).get? name = if name = kind.name then some kind else table.get? name :=
  SortedTable.get?_insert table.byName kind.name name kind

/-- The first unit whose kind is not in the table. -/
def firstUnknown (table : KindTable) (units : List UnitPlan) : Option UnitPlan :=
  units.find? (·.kind ∉ table.names)

theorem get?_eq_none_iff {table : KindTable} {name : String} :
    table.get? name = none ↔ name ∉ table.names :=
  SortedTable.get?_eq_none_iff table.byName name

theorem find_of_mem {table : KindTable} {name : String} (h : name ∈ table.names) :
    ∃ kind, table.find name = .ok kind := by
  cases hget : table.get? name with
  | none => exact absurd h (get?_eq_none_iff.1 hget)
  | some kind => exact ⟨kind, by rw [find, hget]⟩

theorem find_of_notMem {table : KindTable} {name : String} (h : name ∉ table.names) :
    table.find name = .error (.noSuchKind name) := by
  rw [find, get?_eq_none_iff.2 h]

theorem firstUnknown_eq_none_iff {table : KindTable} {units : List UnitPlan} :
    table.firstUnknown units = none ↔ ∀ unit ∈ units, unit.kind ∈ table.names := by
  simp [firstUnknown]

theorem firstUnknown_of_subset {table : KindTable} {units others : List UnitPlan}
    (hsubset : others ⊆ units) (h : table.firstUnknown units = none) :
    table.firstUnknown others = none := by
  rw [firstUnknown_eq_none_iff] at h ⊢
  exact fun unit hmem => h unit (hsubset hmem)

theorem find_of_firstUnknown {table : KindTable} {units : List UnitPlan}
    (h : table.firstUnknown units = none) {unit : UnitPlan} (hunit : unit ∈ units) :
    ∃ kind, table.find unit.kind = .ok kind :=
  find_of_mem (firstUnknown_eq_none_iff.1 h unit hunit)

/-- The check of kinds fails at the first unit without one. -/
theorem requireKinds_eq (table : KindTable) (units : List UnitPlan) :
    table.requireKinds units =
      match table.firstUnknown units with
      | some unit => .error (.noSuchKind unit.kind)
      | none => .ok () := by
  induction units with
  | nil => rfl
  | cons first rest ih =>
    rw [requireKinds, firstUnknown, List.find?_cons]
    by_cases h : first.kind ∈ table.names
    · obtain ⟨kind, hfind⟩ := find_of_mem h
      simp only [hfind, h, not_true_eq_false, decide_false]
      exact ih
    · simp [find_of_notMem h, h]

section
variable {table : KindTable} {plan : Plan} {unit : UnitPlan}

theorem renderAll_of_unknown (hlayout : plan.layout.check = .ok ())
    (h : table.firstUnknown plan.units = some unit) (sink : Sink) :
    table.renderAll plan sink = (sink, .error (.noSuchKind unit.kind)) := by
  rw [renderAll, hlayout, requireKinds_eq, h]

theorem renderAll_of_known (hlayout : plan.layout.check = .ok ())
    (h : table.firstUnknown plan.units = none) (sink : Sink) :
    table.renderAll plan sink =
      table.renderUnits plan.vars plan.layout.style sink plan.units := by
  rw [renderAll, hlayout, requireKinds_eq, h]

theorem storeAll_of_unknown (h : table.firstUnknown plan.units = some unit)
    (placement : Placement) (tree : FileTree) :
    table.storeAll plan placement tree = (tree, .error (.noSuchKind unit.kind)) := by
  rw [storeAll, requireKinds_eq, h]

theorem storeAll_of_known {placement : Placement} {tree : FileTree}
    (h : table.firstUnknown plan.units = none) :
    table.storeAll plan placement tree =
      table.storeUnits plan.vars placement tree plan.units := by
  rw [storeAll, requireKinds_eq, h]

end

end KindTable

end SourceEmitter
