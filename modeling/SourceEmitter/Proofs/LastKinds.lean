import SourceEmitter.Proofs.SourcePlace
import SourceEmitter.Proofs.Utf8Order

/-!
# Tables of kinds by the kinds that were added last

A table is determined by the kind that was added last under each name, and by nothing else of the
order in which kinds were added. The check in front of a plan and the look-up for each unit read one
table: behind a check that succeeds no look-up fails, and the units are handled by the last kinds of
their names, up to the first that fails. A kind may still answer of its own that there is no such
kind.
-/

namespace SourceEmitter

namespace SortedTable

variable {α : Type}

theorem nodup_entries (table : SortedTable α) : table.entries.Nodup := by
  refine table.ascending.imp ?_
  rintro entry _ hlt rfl
  exact String.lt_irrefl entry.1 hlt

/-- A table has no more in it than the values of its keys: strictly ascending lists with the same
members are permutations, and so the same list. -/
theorem ext_get? {first second : SortedTable α}
    (h : ∀ key, first.get? key = second.get? key) : first = second := by
  have hmem : ∀ entry, entry ∈ first.entries ↔ entry ∈ second.entries := fun ⟨key, value⟩ => by
    rw [← get?_eq_some_iff, ← get?_eq_some_iff, h]
  have hperm : first.entries.Perm second.entries :=
    (List.perm_ext_iff_of_nodup first.nodup_entries second.nodup_entries).2 hmem
  have hentries : first.entries = second.entries :=
    hperm.eq_of_pairwise (fun _ _ _ _ hlt hgt => absurd hgt (String.lt_asymm hlt))
      first.ascending second.ascending
  cases first
  cases second
  cases hentries
  rfl

end SortedTable

namespace KindTable

/-- Of the kinds of a list that have a name, the last. -/
def lastNamed (kinds : List UnitKind) (name : String) : Option UnitKind :=
  (kinds.filter (·.name = name)).getLast?

theorem lastNamed_cons (kind : UnitKind) (rest : List UnitKind) (name : String) :
    lastNamed (kind :: rest) name =
      (lastNamed rest name).or (if kind.name = name then some kind else none) := by
  by_cases h : kind.name = name
  · rw [lastNamed, lastNamed, List.filter_cons_of_pos (by simpa using h), List.getLast?_cons,
      if_pos h]
    cases (rest.filter (·.name = name)).getLast? <;> rfl
  · rw [lastNamed, lastNamed, List.filter_cons_of_neg (by simpa using h), if_neg h, Option.or_none]

theorem lastNamed_eq_none_iff {kinds : List UnitKind} {name : String} :
    lastNamed kinds name = none ↔ ∀ kind ∈ kinds, kind.name ≠ name := by
  simp [lastNamed]

/-- A kind that is added counts before all that were there. -/
theorem get?_foldl_add (table : KindTable) (kinds : List UnitKind) (name : String) :
    (kinds.foldl add table).get? name = (lastNamed kinds name).or (table.get? name) := by
  induction kinds generalizing table with
  | nil => rfl
  | cons kind rest ih =>
    rw [List.foldl_cons, ih, get?_add, lastNamed_cons, Option.or_assoc]
    by_cases h : kind.name = name
    · rw [if_pos h, if_pos h.symm, Option.some_or]
    · rw [if_neg h, if_neg (Ne.symm h), Option.none_or]

theorem get?_ofList (kinds : List UnitKind) (name : String) :
    (ofList kinds).get? name = lastNamed kinds name := by
  rw [ofList, get?_foldl_add]
  exact Option.or_none

theorem mem_names_ofList {kinds : List UnitKind} {name : String} :
    name ∈ (ofList kinds).names ↔ ∃ kind ∈ kinds, kind.name = name := by
  rw [← not_iff_not, ← get?_eq_none_iff, get?_ofList, lastNamed_eq_none_iff]
  simp

/-- Names are listed in the order of their bytes, each once. -/
theorem pairwise_bytesOf_names (table : KindTable) :
    (table.names.map Text.Utf8.bytesOf).Pairwise (· < ·) :=
  List.pairwise_map.2 (table.byName.pairwise_keys.imp Text.Utf8.bytesOf_lt)

/-- Lists with the same last kind of every name have the same table. -/
theorem ofList_congr {kinds others : List UnitKind}
    (h : ∀ name, lastNamed others name = lastNamed kinds name) : ofList others = ofList kinds := by
  have hget : ∀ name, (ofList others).byName.get? name = (ofList kinds).byName.get? name :=
    fun name => (get?_ofList others name).trans ((h name).trans (get?_ofList kinds name).symm)
  exact congrArg KindTable.mk (SortedTable.ext_get? hget)

end KindTable

/-- Units, each beside the kind that handles it. -/
abbrev Assignment := List (UnitPlan × UnitKind)

namespace Assignment

/-- Renders units to a sink, each behind a line that tells its name and its kind, and as the kind
beside it. -/
def render (vars : Variables) (style : Style) (sink : Sink) : Assignment → Rendering
  | [] =>
    match sink.flush with
    | (sink, none) => (sink, .ok ())
    | (sink, some fault) => (sink, .error (.io (.sink fault)))
  | (unit, kind) :: rest =>
    match sink.accept ("// ---- " ++ unit.name ++ " (" ++ unit.kind ++ ")\n").toByteArray with
    | (sink, some fault) => (sink, .error (.io (.sink fault)))
    | (sink, none) =>
      match kind.render unit vars style sink with
      | (sink, .ok ()) => render vars style sink rest
      | (sink, .error error) => (sink, .error error)

/-- Stores units, each as the kind beside it. -/
def store (vars : Variables) (placement : Placement) (tree : FileTree) :
    Assignment → FileTree × Except PlanError (List Path)
  | [] => (tree, .ok [])
  | (unit, kind) :: rest =>
    match kind.store unit vars placement tree with
    | (tree, .error error) => (tree, .error error)
    | (tree, .ok path) =>
      match store vars placement tree rest with
      | (tree, .ok paths) => (tree, .ok (path :: paths))
      | (tree, .error error) => (tree, .error error)

/-- Units beside the last kinds of their names. -/
structure IsLast (kinds : List UnitKind) (units : List UnitPlan) (assignment : Assignment) :
    Prop where
  units : assignment.map Prod.fst = units
  last : ∀ pair ∈ assignment, KindTable.lastNamed kinds pair.1.kind = some pair.2

theorem exists_isLast {kinds : List UnitKind} {units : List UnitPlan}
    (h : ∀ unit ∈ units, unit.kind ∈ (KindTable.ofList kinds).names) :
    ∃ assignment, IsLast kinds units assignment := by
  induction units with
  | nil => exact ⟨[], rfl, fun _ hpair => nomatch hpair⟩
  | cons unit rest ih =>
    obtain ⟨hunit, hrest⟩ := List.forall_mem_cons.1 h
    obtain ⟨assignment, hunits, hlast⟩ := ih hrest
    cases hkind : KindTable.lastNamed kinds unit.kind with
    | none =>
      rw [← KindTable.get?_ofList] at hkind
      exact absurd hunit (KindTable.get?_eq_none_iff.1 hkind)
    | some kind =>
      exact ⟨(unit, kind) :: assignment, congrArg (unit :: ·) hunits,
        List.forall_mem_cons.2 ⟨hkind, hlast⟩⟩

end Assignment

namespace KindTable

variable {table : KindTable} {assignment : Assignment}

theorem find_of_lastNamed {kinds : List UnitKind} {name : String} {kind : UnitKind}
    (h : lastNamed kinds name = some kind) : (ofList kinds).find name = .ok kind := by
  rw [find, get?_ofList, h]

theorem render_of_find {unit : UnitPlan} {kind : UnitKind} (h : table.find unit.kind = .ok kind)
    (vars : Variables) (style : Style) (sink : Sink) :
    table.render unit vars style sink = kind.render unit vars style sink := by
  rw [render, h]

/-- Where every look-up finds the kind beside the unit, the table does what the kinds do. -/
theorem renderUnits_of_find (h : ∀ pair ∈ assignment, table.find pair.1.kind = .ok pair.2)
    (vars : Variables) (style : Style) (sink : Sink) :
    table.renderUnits vars style sink (assignment.map Prod.fst) =
      assignment.render vars style sink := by
  induction assignment generalizing sink with
  | nil => rfl
  | cons pair rest ih =>
    obtain ⟨hpair, hrest⟩ := List.forall_mem_cons.1 h
    simp only [List.map_cons, renderUnits, Assignment.render, render_of_find hpair, marker]
    rcases sink.accept ("// ---- " ++ pair.1.name ++ " (" ++ pair.1.kind ++ ")\n").toByteArray
      with ⟨marked, _ | fault⟩
    · dsimp only
      rcases pair.2.render pair.1 vars style marked with ⟨rendered, error | ⟨⟩⟩
      · rfl
      · exact ih hrest rendered
    · rfl

theorem storeUnits_of_find (h : ∀ pair ∈ assignment, table.find pair.1.kind = .ok pair.2)
    (vars : Variables) (placement : Placement) (tree : FileTree) :
    table.storeUnits vars placement tree (assignment.map Prod.fst) =
      assignment.store vars placement tree := by
  induction assignment generalizing tree with
  | nil => rfl
  | cons pair rest ih =>
    obtain ⟨hpair, hrest⟩ := List.forall_mem_cons.1 h
    simp only [List.map_cons, storeUnits, Assignment.store, store_of_find hpair]
    rcases pair.2.store pair.1 vars placement tree with ⟨stored, error | path⟩
    · rfl
    · have hothers := ih hrest stored
      rcases hstored : Assignment.store vars placement stored rest with ⟨after, error | paths⟩ <;>
        rw [hstored] at hothers <;> simp only [hstored, hothers]

end KindTable

/-- A kind that leaves it to the table to say that there is no such kind. -/
structure UnitKind.LeavesKindsToTable (kind : UnitKind) : Prop where
  render : ∀ unit vars style sink name,
    (kind.render unit vars style sink).2 ≠ .error (.noSuchKind name)
  store : ∀ unit vars placement tree name,
    (kind.store unit vars placement tree).2 ≠ .error (.noSuchKind name)

theorem Writer.toRendering_ne (w : Writer) (name : String) :
    w.toRendering.2 ≠ .error (.noSuchKind name) := by
  intro h
  unfold toRendering at h
  split at h <;> cases h

/-- Where neither the place nor the emission of a unit fails so, storing it does not either. -/
theorem FileTree.storeEmission_ne {tree : FileTree} {place : Except PlanError Path} {style : Style}
    {emission : Emission} {name : String} (hplace : place ≠ .error (.noSuchKind name))
    (hemission : (emission.run style .unlimited).2 ≠ .error (.noSuchKind name)) :
    (tree.storeEmission place style emission).2 ≠ .error (.noSuchKind name) := by
  intro h
  rcases storeEmission_error (Prod.ext rfl h) with ⟨hfails, _⟩ | ⟨⟨_, hfile⟩, _⟩ | ⟨_, hfails⟩
  · exact hplace hfails
  · cases hfile
  · exact hemission hfails

theorem ClassFile.render_ne (unit : UnitPlan) (vars : Variables) (style : Style) (sink : Sink)
    (name : String) : (render unit vars style sink).2 ≠ .error (.noSuchKind name) := by
  intro h
  cases hname : (DottedName.split unit.fullName).2.isEmpty with
  | true =>
    rw [render_of_isEmpty hname] at h
    cases h
  | false =>
    rw [render_of_named hname] at h
    dsimp only at h
    split at h
    · cases h
    · exact Writer.toRendering_ne _ name h

theorem classKind_leavesKindsToTable : classKind.LeavesKindsToTable where
  render := ClassFile.render_ne
  store := by
    intro unit vars placement tree name
    simp only [classKind, ClassFile.store]
    refine FileTree.storeEmission_ne ?_ (ClassFile.render_ne unit vars _ .unlimited name)
    intro h
    obtain ⟨reason, _, hreason⟩ := Except.mapError_eq_error.1 h
    cases hreason

theorem resourceKind_leavesKindsToTable : resourceKind.LeavesKindsToTable where
  render := fun _ _ _ _ name => Writer.toRendering_ne _ name
  store := by
    intro unit vars placement tree name
    simp only [resourceKind, ResourceFile.store]
    refine FileTree.storeEmission_ne ?_ (Writer.toRendering_ne _ name)
    intro h
    unfold ResourceFile.place at h
    split at h
    next =>
      split at h
      next => cases h
      next =>
        obtain ⟨reason, _, hreason⟩ := Except.mapError_eq_error.1 h
        cases hreason

theorem KindTable.leavesKindsToTable_standard {name : String} {kind : UnitKind}
    (h : standard.get? name = some kind) : kind.LeavesKindsToTable := by
  rw [get?_standard] at h
  split at h
  · cases h
    exact resourceKind_leavesKindsToTable
  · split at h
    · cases h
      exact classKind_leavesKindsToTable
    · cases h

namespace Assignment

variable {assignment : Assignment} {name : String}

/-- An assignment has no table, so only a kind of it can answer that there is no such kind. -/
theorem render_noSuchKind {vars : Variables} {style : Style} {sink : Sink}
    (h : (assignment.render vars style sink).2 = .error (.noSuchKind name)) :
    ∃ pair ∈ assignment, ∃ before,
      (pair.2.render pair.1 vars style before).2 = .error (.noSuchKind name) := by
  induction assignment generalizing sink with
  | nil =>
    unfold render at h
    split at h <;> cases h
  | cons pair rest ih =>
    unfold render at h
    split at h
    next => cases h
    next =>
      split at h
      next =>
        obtain ⟨other, hother, hanswer⟩ := ih h
        exact ⟨other, List.mem_cons_of_mem _ hother, hanswer⟩
      next hfails =>
        cases h
        exact ⟨_, List.mem_cons_self, _, congrArg Prod.snd hfails⟩

theorem store_noSuchKind {vars : Variables} {placement : Placement} {tree : FileTree}
    (h : (assignment.store vars placement tree).2 = .error (.noSuchKind name)) :
    ∃ pair ∈ assignment, ∃ before,
      (pair.2.store pair.1 vars placement before).2 = .error (.noSuchKind name) := by
  induction assignment generalizing tree with
  | nil => cases h
  | cons pair rest ih =>
    unfold store at h
    split at h
    next hfails =>
      cases h
      exact ⟨_, List.mem_cons_self, _, congrArg Prod.snd hfails⟩
    next =>
      split at h
      next => cases h
      next hfails =>
        cases h
        obtain ⟨other, hother, hanswer⟩ := ih (congrArg Prod.snd hfails)
        exact ⟨other, List.mem_cons_of_mem _ hother, hanswer⟩

end Assignment

namespace KindTable

variable {kinds : List UnitKind} {plan : Plan}

/-- A plan whose kinds are all there runs as its units do beside the last kinds of their names. -/
theorem exists_assignment (h : (ofList kinds).firstUnknown plan.units = none) :
    ∃ assignment, Assignment.IsLast kinds plan.units assignment ∧
      (plan.layout.check = .ok () → ∀ sink,
        (ofList kinds).renderAll plan sink =
          assignment.render plan.vars plan.layout.style sink) ∧
      ∀ placement tree,
        (ofList kinds).storeAll plan placement tree =
          assignment.store plan.vars placement tree := by
  obtain ⟨assignment, hassigned⟩ := Assignment.exists_isLast (firstUnknown_eq_none_iff.1 h)
  have hfind : ∀ pair ∈ assignment, (ofList kinds).find pair.1.kind = .ok pair.2 :=
    fun pair hpair => find_of_lastNamed (hassigned.last pair hpair)
  refine ⟨assignment, hassigned, fun hlayout sink => ?_, fun placement tree => ?_⟩
  · rw [renderAll_of_known hlayout h, ← renderUnits_of_find hfind, hassigned.units]
  · rw [storeAll_of_known h, ← storeUnits_of_find hfind, hassigned.units]

/-- If there is no such kind, the table says so for the first unit whose kind it does not have, or
else the kind of a unit says so of its own. -/
theorem renderAll_noSuchKind (hlayout : plan.layout.check = .ok ()) {sink : Sink} {name : String}
    (h : ((ofList kinds).renderAll plan sink).2 = .error (.noSuchKind name)) :
    (∃ unit, (ofList kinds).firstUnknown plan.units = some unit ∧ unit.kind = name) ∨
      ∃ unit ∈ plan.units, ∃ kind before, lastNamed kinds unit.kind = some kind ∧
        (kind.render unit plan.vars plan.layout.style before).2 = .error (.noSuchKind name) := by
  cases hunknown : (ofList kinds).firstUnknown plan.units with
  | some unit =>
    rw [renderAll_of_unknown hlayout hunknown] at h
    exact .inl ⟨unit, rfl, PlanError.noSuchKind.inj (Except.error.inj h)⟩
  | none =>
    obtain ⟨assignment, hassigned, hrender, -⟩ := exists_assignment hunknown
    rw [hrender hlayout] at h
    obtain ⟨pair, hpair, before, hanswer⟩ := Assignment.render_noSuchKind h
    exact .inr ⟨pair.1, hassigned.units ▸ List.mem_map_of_mem hpair, pair.2, before,
      hassigned.last pair hpair, hanswer⟩

theorem storeAll_noSuchKind {placement : Placement} {tree : FileTree} {name : String}
    (h : ((ofList kinds).storeAll plan placement tree).2 = .error (.noSuchKind name)) :
    (∃ unit, (ofList kinds).firstUnknown plan.units = some unit ∧ unit.kind = name) ∨
      ∃ unit ∈ plan.units, ∃ kind before, lastNamed kinds unit.kind = some kind ∧
        (kind.store unit plan.vars placement before).2 = .error (.noSuchKind name) := by
  cases hunknown : (ofList kinds).firstUnknown plan.units with
  | some unit =>
    rw [storeAll_of_unknown hunknown] at h
    exact .inl ⟨unit, rfl, PlanError.noSuchKind.inj (Except.error.inj h)⟩
  | none =>
    obtain ⟨assignment, hassigned, -, hstore⟩ := exists_assignment hunknown
    rw [hstore] at h
    obtain ⟨pair, hpair, before, hanswer⟩ := Assignment.store_noSuchKind h
    exact .inr ⟨pair.1, hassigned.units ▸ List.mem_map_of_mem hpair, pair.2, before,
      hassigned.last pair hpair, hanswer⟩

/-- Where no kind says so of its own, only the first unit whose kind is not there can be meant. -/
theorem noSuchKind_iff (hkinds : ∀ name kind, lastNamed kinds name = some kind →
      kind.LeavesKindsToTable) (plan : Plan) (name : String) :
    (plan.layout.check = .ok () → ∀ sink,
      ((ofList kinds).renderAll plan sink).2 = .error (.noSuchKind name) ↔
        ∃ unit, (ofList kinds).firstUnknown plan.units = some unit ∧ unit.kind = name) ∧
    ∀ placement tree,
      ((ofList kinds).storeAll plan placement tree).2 = .error (.noSuchKind name) ↔
        ∃ unit, (ofList kinds).firstUnknown plan.units = some unit ∧ unit.kind = name := by
  refine ⟨fun hlayout sink => ⟨fun h => ?_, ?_⟩, fun placement tree => ⟨fun h => ?_, ?_⟩⟩
  · rcases renderAll_noSuchKind hlayout h with hunknown | ⟨unit, _, kind, before, hlast, hanswer⟩
    · exact hunknown
    · exact absurd hanswer ((hkinds _ kind hlast).render unit _ _ before name)
  · rintro ⟨unit, hunknown, rfl⟩
    rw [renderAll_of_unknown hlayout hunknown]
  · rcases storeAll_noSuchKind h with hunknown | ⟨unit, _, kind, before, hlast, hanswer⟩
    · exact hunknown
    · exact absurd hanswer ((hkinds _ kind hlast).store unit _ _ before name)
  · rintro ⟨unit, hunknown, rfl⟩
    rw [storeAll_of_unknown hunknown]

end KindTable

/-- A table of kinds lists the names of the kinds that were added, in the order of their bytes, and
has under each name the kind that was added last. A plan fails for the first unit whose kind is not
listed, before anything is written; in any other plan each unit is handled by the last kind of its
name, up to the first unit that fails. So the answer that there is no such kind is about a kind that
is not listed, unless the kind of a unit gives this answer of its own, as no kind of the standard
table does. Lists with the same last kinds treat all plans alike. -/
theorem last_kinds_handle_units (kinds : List UnitKind) :
    let table := KindTable.ofList kinds
    (table.names.map Text.Utf8.bytesOf).Pairwise (· < ·) ∧
    (∀ name, name ∈ table.names ↔ ∃ kind ∈ kinds, kind.name = name) ∧
    (∀ name, table.get? name = KindTable.lastNamed kinds name) ∧
    (∀ name, table.get? name = none ↔ name ∉ table.names) ∧
    (∀ plan unit, table.firstUnknown plan.units = some unit →
      (plan.layout.check = .ok () → ∀ sink,
        table.renderAll plan sink = (sink, .error (.noSuchKind unit.kind))) ∧
      ∀ placement tree,
        table.storeAll plan placement tree = (tree, .error (.noSuchKind unit.kind))) ∧
    (∀ plan, table.firstUnknown plan.units = none →
      ∃ assignment, Assignment.IsLast kinds plan.units assignment ∧
        (plan.layout.check = .ok () → ∀ sink,
          table.renderAll plan sink = assignment.render plan.vars plan.layout.style sink) ∧
        ∀ placement tree,
          table.storeAll plan placement tree = assignment.store plan.vars placement tree) ∧
    (∀ plan name,
      (plan.layout.check = .ok () → ∀ sink,
        (table.renderAll plan sink).2 = .error (.noSuchKind name) →
        (∃ unit, table.firstUnknown plan.units = some unit ∧ unit.kind = name) ∨
          ∃ unit ∈ plan.units, ∃ kind before, KindTable.lastNamed kinds unit.kind = some kind ∧
            (kind.render unit plan.vars plan.layout.style before).2 =
              .error (.noSuchKind name)) ∧
      ∀ placement tree,
        (table.storeAll plan placement tree).2 = .error (.noSuchKind name) →
        (∃ unit, table.firstUnknown plan.units = some unit ∧ unit.kind = name) ∨
          ∃ unit ∈ plan.units, ∃ kind before, KindTable.lastNamed kinds unit.kind = some kind ∧
            (kind.store unit plan.vars placement before).2 = .error (.noSuchKind name)) ∧
    (∀ name kind, KindTable.standard.get? name = some kind → kind.LeavesKindsToTable) ∧
    ((∀ name kind, KindTable.lastNamed kinds name = some kind → kind.LeavesKindsToTable) →
      ∀ plan name,
        (plan.layout.check = .ok () → ∀ sink,
          (table.renderAll plan sink).2 = .error (.noSuchKind name) ↔
            ∃ unit, table.firstUnknown plan.units = some unit ∧ unit.kind = name) ∧
        ∀ placement tree,
          (table.storeAll plan placement tree).2 = .error (.noSuchKind name) ↔
            ∃ unit, table.firstUnknown plan.units = some unit ∧ unit.kind = name) ∧
    ∀ others, (∀ name, KindTable.lastNamed others name = KindTable.lastNamed kinds name) →
      ∀ plan, (∀ sink, (KindTable.ofList others).renderAll plan sink = table.renderAll plan sink) ∧
        ∀ placement tree, (KindTable.ofList others).storeAll plan placement tree =
          table.storeAll plan placement tree := by
  intro table
  refine ⟨table.pairwise_bytesOf_names, fun _ => KindTable.mem_names_ofList,
    KindTable.get?_ofList kinds, fun _ => KindTable.get?_eq_none_iff, ?_,
    fun _ => KindTable.exists_assignment, ?_, fun _ _ => KindTable.leavesKindsToTable_standard,
    KindTable.noSuchKind_iff, ?_⟩
  · intro plan unit hunknown
    exact ⟨fun hlayout => KindTable.renderAll_of_unknown hlayout hunknown,
      KindTable.storeAll_of_unknown hunknown⟩
  · intro plan name
    exact ⟨fun hlayout _ => KindTable.renderAll_noSuchKind hlayout,
      fun _ _ => KindTable.storeAll_noSuchKind⟩
  · intro others hlast plan
    rw [KindTable.ofList_congr hlast]
    exact ⟨fun _ => rfl, fun _ _ => rfl⟩

/-- A kind that refuses its units is replaced by the class kind, which leaves the standard table; a
name in capitals is another name. -/
theorem last_kinds_handle_units_replaced :
    let refusing : UnitKind :=
      ⟨"class", fun unit _ _ sink => (sink, .error (.noSuchKind unit.kind)),
        fun unit _ _ tree => (tree, .error (.noSuchKind unit.kind))⟩
    let kinds := [refusing, resourceKind, classKind]
    let table := KindTable.ofList kinds
    let known : Plan :=
      { units := [{ kind := "class", name := "a.B" }, { kind := "resource", name := "r" }] }
    let unknown : Plan := { known with units := known.units ++ [{ kind := "Class", name := "C" }] }
    table.names = ["class", "resource"] ∧
      (∀ sink, table.renderAll unknown sink = (sink, .error (.noSuchKind "Class"))) ∧
      (∃ assignment, Assignment.IsLast kinds known.units assignment) ∧
      (∀ sink name, (table.renderAll known sink).2 ≠ .error (.noSuchKind name)) ∧
      ∀ plan sink, KindTable.standard.renderAll plan sink = table.renderAll plan sink := by
  intro refusing kinds table known unknown
  obtain ⟨-, -, -, -, hunknown, hknown, -, -, hexact, halike⟩ := last_kinds_handle_units kinds
  have hlast : ∀ name, KindTable.lastNamed [classKind, resourceKind] name =
      KindTable.lastNamed kinds name := by
    intro name
    by_cases hclass : "class" = name
    · simp [← hclass, kinds, refusing, KindTable.lastNamed_cons, classKind, resourceKind]
    · simp [kinds, refusing, KindTable.lastNamed_cons, classKind, hclass]
  have hleaves : ∀ name kind, KindTable.lastNamed kinds name = some kind →
      kind.LeavesKindsToTable := by
    intro name kind hkind
    rw [← hlast, ← KindTable.get?_ofList] at hkind
    exact KindTable.leavesKindsToTable_standard hkind
  have hlayout : known.layout.check = .ok () := by decide
  have hfirst : table.firstUnknown known.units = none := by decide
  refine ⟨by decide, ?_, ?_, ?_, fun plan sink => (halike _ hlast plan).1 sink⟩
  · exact (hunknown unknown { kind := "Class", name := "C" } (by decide)).1 hlayout
  · obtain ⟨assignment, hassigned, -⟩ := hknown known hfirst
    exact ⟨assignment, hassigned⟩
  · intro sink name hanswer
    obtain ⟨unit, hunit, -⟩ := ((hexact hleaves known name).1 hlayout sink).1 hanswer
    rw [hfirst] at hunit
    cases hunit

/-- A kind that is listed may answer of its own that there is no such kind, and a unit behind one
that fails is not handled. -/
theorem last_kind_answers_of_its_own :
    let refusing : UnitKind :=
      ⟨"class", fun unit _ _ sink => (sink, .error (.noSuchKind unit.kind)),
        fun unit _ _ tree => (tree, .error (.noSuchKind unit.kind))⟩
    let table := KindTable.ofList [refusing]
    let plan : Plan := { units := [{ kind := "class", name := "B" }] }
    let placement : Placement := ⟨{}, rfl⟩
    let resource : UnitPlan := { kind := "resource", name := "r", lines := ["x"] }
    let nameless : Plan := { units := [{ kind := "class", name := "demo." }, resource] }
    ¬((∃ kind, (table.renderAll plan .unlimited).2 = .error (.noSuchKind kind)) ↔
        ∃ unit ∈ plan.units, unit.kind ∉ table.names) ∧
      ¬((∃ kind, (table.storeAll plan placement (.startingAt ["w"])).2 =
          .error (.noSuchKind kind)) ↔
        ∃ unit ∈ plan.units, unit.kind ∉ table.names) ∧
      KindTable.standard.firstUnknown nameless.units = none ∧
      (resourceKind.render resource .empty {} .unlimited).1.bytes = "x\n".toByteArray ∧
      (KindTable.standard.renderAll nameless .unlimited).2 =
        .error (.badUnit "demo." .noClassName) ∧
      (KindTable.standard.renderAll nameless .unlimited).1.bytes =
        "// ---- demo. (class)\n".toByteArray := by
  intro refusing table plan placement resource nameless
  have hlisted : ¬∃ unit ∈ plan.units, unit.kind ∉ table.names := by decide
  refine ⟨fun h => hlisted (h.1 ⟨"class", by decide⟩), fun h => hlisted (h.1 ⟨"class", by decide⟩),
    by decide, by decide +kernel, by decide +kernel, by decide +kernel⟩

end SourceEmitter
