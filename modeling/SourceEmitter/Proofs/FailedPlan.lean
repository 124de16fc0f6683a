import SourceEmitter.Proofs.StoredPlan

/-!
# Plans that fail

Storing a plan stops at the first unit that fails. The units before it are stored as they would be
alone, the failing unit creates and empties no file, and the units behind it are not looked at. A
unit that is refused for its name leaves no directory either. Other faults may leave the directories
that were made on the way to the file.
-/

namespace SourceEmitter

/-- Whether an error refuses a unit for a name that it gives. -/
def PlanError.RefusesName (error : PlanError) : Prop :=
  (∃ name, error = .output (.badName name)) ∨ ∃ name fault, error = .badUnit name fault

/-- The check of the qualified name leaves no class without a name. -/
theorem Placement.className_ne_empty {placement : Placement} {name : String} {path : Path}
    (h : placement.sourcePath name = .ok path) : (DottedName.split name).2.isEmpty = false := by
  unfold sourcePath at h
  split at h
  next => cases h
  next segments hsegments => simpa using DottedName.split_ne_empty hsegments

/-- A class that has a place has a name, so it is emitted without a failure. -/
theorem ClassFile.emits_of_place {unit : UnitPlan} {placement : Placement} {path : Path}
    (h : place placement unit = .ok path) (vars : Variables) (style : Style) :
    ((emit unit vars).run style .unlimited).2 = .ok () := by
  have hname := Placement.className_ne_empty (Except.mapError_eq_ok.1 h)
  exact congrArg Prod.snd (render_eq unit vars style ⟨rfl, rfl⟩ hname)

theorem ResourceFile.emits (unit : UnitPlan) (vars : Variables) (style : Style) :
    ((emit unit vars).run style .unlimited).2 = .ok () :=
  congrArg Prod.snd (render_eq unit vars style ⟨rfl, rfl⟩)

/-- What is emitted whenever it has a place is stored, or has no place, or fails at its file. -/
theorem FileTree.storeEmission_refused {tree after : FileTree} {place : Except PlanError Path}
    {style : Style} {emission : Emission} {error : PlanError}
    (hemits : ∀ path, place = .ok path → (emission.run style .unlimited).2 = .ok ())
    (h : tree.storeEmission place style emission = (after, .error error)) :
    place = .error error ∧ after = tree ∨
      (∃ fault, error = .output (.io (.file fault))) ∧ Grows tree after ∧
        SameFilesBut [] tree after := by
  rcases storeEmission_error h with hplace | hfile | ⟨⟨path, hplace⟩, hfails⟩
  · exact .inl hplace
  · exact .inr hfile
  · rw [hemits path hplace] at hfails
    cases hfails

/-- A unit that fails leaves every file alone, and the whole tree if its name is at fault. -/
theorem KindTable.store_error {unit : UnitPlan} {vars : Variables} {placement : Placement}
    {tree after : FileTree} {error : PlanError}
    (h : standard.store unit vars placement tree = (after, .error error)) :
    FileTree.Grows tree after ∧ FileTree.SameFilesBut [] tree after ∧
      (error.RefusesName → after = tree) := by
  have hwhole : after = tree ∨ (∃ fault, error = .output (.io (.file fault))) ∧
      FileTree.Grows tree after ∧ FileTree.SameFilesBut [] tree after := by
    unfold store at h
    cases hfind : standard.find unit.kind with
    | error reason =>
      simp only [hfind] at h
      exact .inl (Prod.mk.inj h).1.symm
    | ok kind =>
      simp only [hfind] at h
      rcases find_standard hfind with ⟨_, rfl⟩ | ⟨_, rfl⟩
      · simp only [classKind, ClassFile.store] at h
        exact (FileTree.storeEmission_refused
          (fun _ hplace => ClassFile.emits_of_place hplace vars _) h).imp_left And.right
      · simp only [resourceKind, ResourceFile.store] at h
        exact (FileTree.storeEmission_refused
          (fun _ _ => ResourceFile.emits unit vars _) h).imp_left And.right
  rcases hwhole with rfl | ⟨⟨fault, rfl⟩, hgrows, hsame⟩
  · exact ⟨.refl _, .refl _, fun _ => rfl⟩
  · refine ⟨hgrows, hsame, ?_⟩
    rintro (⟨name, hname⟩ | ⟨name, reason, hname⟩) <;> cases hname

namespace KindTable

section
variable {table : KindTable} {vars : Variables} {placement : Placement}
  {tree middle after : FileTree} {path : Path} {paths : List Path} {error : PlanError}
  {unit : UnitPlan} {before : List UnitPlan}

/-- Behind a unit that is stored, its path is in front of what the rest yields. -/
theorem storeUnits_cons (hunit : table.store unit vars placement tree = (middle, .ok path))
    (rest : List UnitPlan) :
    table.storeUnits vars placement tree (unit :: rest) =
      ((table.storeUnits vars placement middle rest).1,
        (table.storeUnits vars placement middle rest).2.map (path :: ·)) := by
  simp only [storeUnits, hunit]
  rcases table.storeUnits vars placement middle rest with ⟨tree, reason | paths⟩ <;> rfl

theorem storeUnits_cons_error
    (hunit : table.store unit vars placement tree = (after, .error error))
    (rest : List UnitPlan) :
    table.storeUnits vars placement tree (unit :: rest) = (after, .error error) := by
  rw [storeUnits, hunit]

/-- A unit that fails behind units that are stored fails the plan, whatever is behind it. -/
theorem storeUnits_stops
    (hbefore : table.storeUnits vars placement tree before = (middle, .ok paths))
    (hunit : table.store unit vars placement middle = (after, .error error))
    (rest : List UnitPlan) :
    table.storeUnits vars placement tree (before ++ unit :: rest) = (after, .error error) := by
  induction before generalizing tree paths with
  | nil =>
    cases hbefore
    exact storeUnits_cons_error hunit rest
  | cons first others ih =>
    rcases hfirst : table.store first vars placement tree with ⟨next, reason | path⟩
    · rw [storeUnits_cons_error hfirst] at hbefore
      cases hbefore
    · rw [storeUnits_cons hfirst] at hbefore
      rcases hothers : table.storeUnits vars placement next others with ⟨last, reason | stored⟩
      · rw [hothers] at hbefore
        cases hbefore
      · rw [hothers] at hbefore
        cases hbefore
        rw [List.cons_append, storeUnits_cons hfirst, ih hothers]
        rfl

/-- Units that cannot all be stored are stored up to the first that fails. -/
theorem storeUnits_error {units : List UnitPlan}
    (h : table.storeUnits vars placement tree units = (after, .error error)) :
    ∃ before unit rest middle paths, units = before ++ unit :: rest ∧
      table.storeUnits vars placement tree before = (middle, .ok paths) ∧
      table.store unit vars placement middle = (after, .error error) := by
  induction units generalizing tree with
  | nil => cases h
  | cons first others ih =>
    rcases hfirst : table.store first vars placement tree with ⟨next, reason | path⟩
    · rw [storeUnits_cons_error hfirst] at h
      cases h
      exact ⟨[], first, others, tree, [], rfl, rfl, hfirst⟩
    · rw [storeUnits_cons hfirst] at h
      rcases hothers : table.storeUnits vars placement next others with ⟨last, reason | stored⟩
      · rw [hothers] at h
        obtain ⟨before, unit, rest, middle, paths, hunits, hbefore, hunit⟩ := ih (hothers.trans h)
        refine ⟨first :: before, unit, rest, middle, path :: paths, ?_, ?_, hunit⟩
        · rw [hunits, List.cons_append]
        · rw [storeUnits_cons hfirst, hbefore]
          rfl
      · rw [hothers] at h
        cases h

end

end KindTable

/-- A plan with a unit of an unknown kind fails for the first such unit and changes nothing. Any
other plan that fails has a first unit that fails: the units before it are stored as a plan of their
own, the plan is left as if it ended with that unit, and that unit has not touched a file, nor a
directory if it was refused for its name. -/
theorem failed_plan_leaves (plan : Plan) (placement : Placement) (tree : FileTree) :
    (∀ unit, KindTable.standard.firstUnknown plan.units = some unit →
      KindTable.standard.storeAll plan placement tree =
        (tree, .error (.noSuchKind unit.kind))) ∧
    (KindTable.standard.firstUnknown plan.units = none → ∀ after error,
      KindTable.standard.storeAll plan placement tree = (after, .error error) →
      ∃ before unit rest middle paths, plan.units = before ++ unit :: rest ∧
        KindTable.standard.storeAll { plan with units := before } placement tree =
          (middle, .ok paths) ∧
        KindTable.standard.store unit plan.vars placement middle = (after, .error error) ∧
        KindTable.standard.storeAll { plan with units := before ++ [unit] } placement tree =
          (after, .error error) ∧
        FileTree.Grows middle after ∧ FileTree.SameFilesBut [] middle after ∧
        (error.RefusesName → after = middle)) := by
  constructor
  · exact fun unit hunknown => KindTable.storeAll_of_unknown hunknown placement tree
  · intro hknown after error hstore
    rw [KindTable.storeAll_of_known hknown] at hstore
    obtain ⟨before, unit, rest, middle, paths, hunits, hbefore, hunit⟩ :=
      KindTable.storeUnits_error hstore
    have hfront : before ++ [unit] ⊆ plan.units := by
      rw [hunits.trans (List.append_cons before unit rest)]
      exact List.subset_append_left _ rest
    have hsome : ∀ units, units ⊆ before ++ [unit] →
        KindTable.standard.storeAll { plan with units } placement tree =
          KindTable.standard.storeUnits plan.vars placement tree units := fun units hsubset =>
      KindTable.storeAll_of_known
        (KindTable.firstUnknown_of_subset (fun _ hmem => hfront (hsubset hmem)) hknown)
    refine ⟨before, unit, rest, middle, paths, hunits, ?_, hunit, ?_, KindTable.store_error hunit⟩
    · rw [hsome before (List.subset_append_left _ _), hbefore]
    · rw [hsome _ (List.Subset.refl _), KindTable.storeUnits_stops hbefore hunit]

/-- A resource below the file of the class before it. That class alone is stored, the resource fails
behind it without touching its file, and the class behind the resource is not looked at. A unit of
no known kind fails its plan before anything is stored. -/
theorem failed_plan_leaves_blocked :
    let source : UnitPlan := { kind := "class", name := "B", package := some "a" }
    let blocked : UnitPlan := { kind := "resource", name := "a/B.java/x", package := some "" }
    let last : UnitPlan := { kind := "class", name := "D" }
    let unknown : UnitPlan := { kind := "enum", name := "C" }
    let placement : Placement := ⟨{}, rfl⟩
    let tree := FileTree.startingAt ["w"]
    let path : Path := ⟨"./target/generated-sources/a/B.java"⟩
    let error : PlanError := .output (.io (.file .notDirectory))
    KindTable.standard.storeAll { units := [source, unknown, blocked] } placement tree =
        (tree, .error (.noSuchKind "enum")) ∧
      KindTable.standard.firstUnknown [source, blocked, last] = none ∧
      ∃ middle after,
        KindTable.standard.storeAll { units := [source] } placement tree = (middle, .ok [path]) ∧
        middle.read path = .ok "package a;\n\npublic class B \x7b\n\x7d\n".toByteArray ∧
        KindTable.standard.store blocked .empty placement middle = (after, .error error) ∧
        KindTable.standard.storeAll { units := [source, blocked] } placement tree =
          (after, .error error) ∧
        KindTable.standard.storeAll { units := [source, blocked, last] } placement tree =
          (after, .error error) ∧
        FileTree.SameFilesBut [] middle after := by
  intro source blocked last unknown placement tree path error
  have hunknown : KindTable.standard.firstUnknown [source, unknown, blocked] = some unknown := by
    decide
  have hknown : KindTable.standard.firstUnknown [source, blocked, last] = none := by
    decide
  have hsource : (KindTable.standard.storeAll { units := [source] } placement tree).map
      (·.read path) id =
        (.ok "package a;\n\npublic class B \x7b\n\x7d\n".toByteArray, .ok [path]) := by
    decide +kernel
  have hblocked : (KindTable.standard.storeAll { units := [source, blocked] } placement tree).2 =
      .error error := by
    decide +kernel
  have hall : (KindTable.standard.storeAll { units := [source, blocked, last] } placement tree).2 =
      .error error := by
    decide +kernel
  refine ⟨(failed_plan_leaves { units := [source, unknown, blocked] } placement tree).1 unknown
    hunknown, hknown, ?_⟩
  obtain ⟨before, unit, rest, middle, paths, hunits, hbefore, hunit, hfront, _, hsame, _⟩ :=
    (failed_plan_leaves { units := [source, blocked, last] } placement tree).2 hknown _ error
      (Prod.ext rfl hall)
  rcases before with _ | ⟨first, _ | ⟨second, others⟩⟩
  · obtain ⟨rfl, -⟩ := List.cons.inj hunits
    rw [List.nil_append] at hfront
    rw [hfront] at hsource
    cases congrArg Prod.snd hsource
  · obtain ⟨rfl, hrest⟩ := List.cons.inj hunits
    obtain ⟨rfl, -⟩ := List.cons.inj hrest
    rw [hbefore] at hsource
    obtain ⟨hread, hpaths⟩ := Prod.mk.inj hsource
    have hstored : KindTable.standard.storeAll { units := [source] } placement tree =
        (middle, .ok [path]) :=
      hbefore.trans (Prod.ext rfl hpaths)
    exact ⟨middle, _, hstored, hread, hunit, hfront, Prod.ext rfl hall, hsame⟩
  · obtain ⟨rfl, hrest⟩ := List.cons.inj hunits
    obtain ⟨rfl, hlast⟩ := List.cons.inj hrest
    rcases others with _ | ⟨third, others⟩
    · rw [hbefore] at hblocked
      cases hblocked
    · cases others <;> cases (List.cons.inj hlast).2

end SourceEmitter
