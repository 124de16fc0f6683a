import Mathlib.Data.List.Forall2
import SourceEmitter.Proofs.FileGrowth
import SourceEmitter.Proofs.UnitText

/-!
# Stored plans and rendered plans

If storing a plan succeeds then every file holds what its unit renders to, or what the last unit of
the same file renders to, and rendering the plan succeeds with the same texts behind their markers.
The proof goes unit by unit: a file that has been stored keeps its path, and only a unit of the same
file can change it later.
-/

namespace SourceEmitter

/-- The path of a resource: in the package that the unit gives, or else by its dotted name. -/
def Placement.resourcePath (placement : Placement) (unit : UnitPlan) : Except OutputError Path :=
  match unit.package with
  | some package => placement.packageResource package unit.name
  | none => placement.dottedResource unit.name

/-- Whether the file of a unit has this path. -/
def Placement.Targets (placement : Placement) (unit : UnitPlan) (path : Path) : Prop :=
  unit.kind = "class" ∧ placement.sourcePath unit.fullName = .ok path ∨
    unit.kind = "resource" ∧ placement.resourcePath unit = .ok path

/-- What a unit renders to on an empty sink. -/
def UnitPlan.rendering (unit : UnitPlan) (vars : Variables) (style : Style) : Rendering :=
  KindTable.standard.render unit vars style .unlimited

/-- The bytes of units, each behind a line that tells its name and its kind. -/
def UnitPlan.printed (vars : Variables) (style : Style) : List UnitPlan → ByteArray
  | [] => ByteArray.empty
  | unit :: rest =>
    ("// ---- " ++ unit.name ++ " (" ++ unit.kind ++ ")\n").toByteArray ++
      (unit.rendering vars style).1.bytes ++ UnitPlan.printed vars style rest

/-- The `j`-th of some paths is the last that names a location. -/
structure FileTree.LastAt (tree : FileTree) (paths : List Path) (location : Location) (j : Nat) :
    Prop where
  names : ∃ path, paths[j]? = some path ∧ tree.fileLocation path = .ok location
  last : ∀ k path, j < k → paths[k]? = some path → tree.fileLocation path ≠ .ok location

theorem FileTree.LastAt.cons {tree : FileTree} {paths : List Path} {location : Location} {j : Nat}
    (h : tree.LastAt paths location j) (first : Path) :
    tree.LastAt (first :: paths) location (j + 1) := by
  refine ⟨h.names, ?_⟩
  intro k path hk hpath
  cases k with
  | zero => cases hk
  | succ k => exact h.last k path (Nat.lt_of_succ_lt_succ hk) hpath

theorem Placement.ofLayout_eq {layout : Layout} (h : layout.check = .ok ()) :
    Placement.ofLayout layout = .ok ⟨layout, h⟩ := by
  unfold ofLayout
  split
  next => rfl
  next fault hfault => cases h.symm.trans hfault

theorem Placement.layout_ofLayout {layout : Layout} {placement : Placement}
    (h : Placement.ofLayout layout = .ok placement) : placement.layout = layout := by
  unfold ofLayout at h
  split at h
  next => exact (Except.ok.inj h) ▸ rfl
  next => cases h

theorem Except.mapError_eq_ok {ε δ α : Type} {result : Except ε α} {wrap : ε → δ} {value : α} :
    result.mapError wrap = .ok value ↔ result = .ok value := by
  cases result <;> simp [Except.mapError]

theorem Except.mapError_eq_error {ε δ α : Type} {result : Except ε α} {wrap : ε → δ} {error : δ} :
    result.mapError wrap = .error error ↔
      ∃ reason, result = .error reason ∧ wrap reason = error := by
  cases result <;> simp [Except.mapError]

namespace FileTree

variable {tree opened after : FileTree} {place : Except PlanError Path} {style : Style}
  {emission : Emission} {path : Path} {location : Location}

/-- A file that has just been opened is empty, so its sink takes what a new sink takes. -/
theorem Stores.sinkOf (h : Stores path location ByteArray.empty tree after) :
    after.sinkOf location = .unlimited := by
  rw [FileTree.sinkOf, h.holds]
  rfl

theorem storeEmission_of_unopened {fault : FileFault}
    (hopen : tree.openNew path = (opened, .error fault)) :
    tree.storeEmission (.ok path) style emission =
      (opened, .error (.output (.io (.file fault)))) := by
  simp only [storeEmission, openOutput, hopen]

/-- A file that can be opened holds what the same emission leaves in a new sink. -/
theorem storeEmission_of_opened (hopen : tree.openNew path = (opened, .ok location)) :
    tree.storeEmission (.ok path) style emission =
      (opened.put location (.file (emission.run style .unlimited).1.bytes),
        (emission.run style .unlimited).2.map fun _ => path) := by
  simp only [storeEmission, openOutput, hopen, (openNew_stores hopen).sinkOf]

/-- What is stored has its place, is emitted without a failure, and is in its file. -/
theorem storeEmission_stores
    (h : tree.storeEmission place style emission = (after, .ok path)) :
    place = .ok path ∧ (emission.run style .unlimited).2 = .ok () ∧
      ∃ location, Stores path location (emission.run style .unlimited).1.bytes tree after := by
  cases place with
  | error error => cases h
  | ok target =>
    rcases hopen : tree.openNew target with ⟨opened, fault | location⟩
    · rw [storeEmission_of_unopened hopen] at h
      cases h
    · rw [storeEmission_of_opened hopen] at h
      obtain ⟨rfl, houtcome⟩ := Prod.mk.inj h
      cases hrun : (emission.run style .unlimited).2 with
      | error error =>
        rw [hrun] at houtcome
        cases houtcome
      | ok done =>
        rw [hrun] at houtcome
        cases houtcome
        exact ⟨rfl, rfl, location, (openNew_stores hopen).put _⟩

/-- Storing fails for want of a place, at the file, or for what emission fails with. Unless it is
emission that fails, no file is touched. -/
theorem storeEmission_error {error : PlanError}
    (h : tree.storeEmission place style emission = (after, .error error)) :
    place = .error error ∧ after = tree ∨
      (∃ fault, error = .output (.io (.file fault))) ∧ Grows tree after ∧
        SameFilesBut [] tree after ∨
      (∃ path, place = .ok path) ∧ (emission.run style .unlimited).2 = .error error := by
  cases place with
  | error reason =>
    cases h
    exact .inl ⟨rfl, rfl⟩
  | ok target =>
    rcases hopen : tree.openNew target with ⟨opened, fault | location⟩
    · rw [storeEmission_of_unopened hopen] at h
      cases h
      exact .inr (.inl ⟨⟨fault, rfl⟩, openNew_error hopen⟩)
    · rw [storeEmission_of_opened hopen] at h
      obtain ⟨_, houtcome⟩ := Prod.mk.inj h
      cases hrun : (emission.run style .unlimited).2 with
      | error reason =>
        rw [hrun] at houtcome
        cases houtcome
        exact .inr (.inr ⟨⟨target, rfl⟩, rfl⟩)
      | ok done =>
        rw [hrun] at houtcome
        cases houtcome

end FileTree

/-- A resource that is placed at all is placed at its path. -/
theorem ResourceFile.resourcePath_of_place {unit : UnitPlan} {placement : Placement} {path : Path}
    (h : place placement unit = .ok path) : placement.resourcePath unit = .ok path := by
  have hpath : placement.resourcePath unit =
      placement.packageResource (placeName unit).1 (placeName unit).2 := by
    unfold Placement.resourcePath placeName
    cases unit.package <;> rfl
  unfold place at h
  split at h
  next hplace =>
    split at h
    next => cases h
    next => rw [hpath, hplace, Except.mapError_eq_ok.1 h]

/-- A unit that is stored has its path, renders, and leaves its rendering in its file. -/
theorem KindTable.store_standard {unit : UnitPlan} {vars : Variables} {placement : Placement}
    {tree after : FileTree} {path : Path}
    (h : standard.store unit vars placement tree = (after, .ok path)) :
    placement.Targets unit path ∧ (unit.rendering vars placement.layout.style).2 = .ok () ∧
      ∃ location, FileTree.Stores path location
        (unit.rendering vars placement.layout.style).1.bytes tree after := by
  unfold store at h
  cases hfind : standard.find unit.kind with
  | error error => simp [hfind] at h
  | ok kind =>
    rw [UnitPlan.rendering, render, hfind]
    simp only [hfind] at h
    rcases find_standard hfind with ⟨hkind, rfl⟩ | ⟨hkind, rfl⟩
    · simp only [classKind, ClassFile.store] at h
      obtain ⟨hplace, hstored⟩ := FileTree.storeEmission_stores h
      simp only [classKind, ClassFile.render]
      exact ⟨.inl ⟨hkind, Except.mapError_eq_ok.1 hplace⟩, hstored⟩
    · simp only [resourceKind, ResourceFile.store] at h
      obtain ⟨hplace, hstored⟩ := FileTree.storeEmission_stores h
      simp only [resourceKind, ResourceFile.render]
      exact ⟨.inr ⟨hkind, ResourceFile.resourcePath_of_place hplace⟩, hstored⟩

/-- What storing units in order leaves behind: paths that match the units, the rendering of the last
unit of a file in each of the files, and no change to other files. -/
structure KindTable.StoredAll (vars : Variables) (placement : Placement) (before after : FileTree)
    (units : List UnitPlan) (paths : List Path) : Prop where
  targets : List.Forall₂ placement.Targets units paths
  rendered : ∀ unit ∈ units, (unit.rendering vars placement.layout.style).2 = .ok ()
  grows : FileTree.Grows before after
  holds : ∀ i path, paths[i]? = some path → ∃ location j unit, i ≤ j ∧
    after.fileLocation path = .ok location ∧ after.LastAt paths location j ∧
    units[j]? = some unit ∧ after.get? location =
      some (.file (unit.rendering vars placement.layout.style).1.bytes)
  others : ∀ location, (∀ path ∈ paths, after.fileLocation path ≠ .ok location) → ∀ content,
    after.get? location = some (.file content) ↔ before.get? location = some (.file content)

namespace KindTable.StoredAll

variable {vars : Variables} {placement : Placement} {before middle after : FileTree}
  {units : List UnitPlan} {paths : List Path} {unit : UnitPlan} {path : Path}

theorem nil (vars : Variables) (placement : Placement) (tree : FileTree) :
    StoredAll vars placement tree tree [] [] where
  targets := .nil
  rendered := fun _ hm => nomatch hm
  grows := .refl tree
  holds := fun _ _ h => nomatch h
  others := fun _ _ _ => Iff.rfl

/-- The first unit keeps its file unless a later one has the same. -/
theorem cons {location : Location}
    (htarget : placement.Targets unit path)
    (hrendered : (unit.rendering vars placement.layout.style).2 = .ok ())
    (hstores : FileTree.Stores path location
      (unit.rendering vars placement.layout.style).1.bytes before middle)
    (hrest : StoredAll vars placement middle after units paths) :
    StoredAll vars placement before after (unit :: units) (path :: paths) := by
  have hnamed : after.fileLocation path = .ok location := hrest.grows.fileLocation hstores.named
  refine ⟨.cons htarget hrest.targets, ?_, hstores.grows.trans hrest.grows, ?_, ?_⟩
  · intro other hother
    rcases List.mem_cons.1 hother with rfl | hother
    · exact hrendered
    · exact hrest.rendered other hother
  · intro i named hi
    cases i with
    | succ i =>
      obtain ⟨found, j, last, hle, hfound, hlast, hj, hget⟩ := hrest.holds i named hi
      exact ⟨found, j + 1, last, Nat.succ_le_succ hle, hfound, hlast.cons path, hj, hget⟩
    | zero =>
      cases hi
      by_cases hlater : ∃ later ∈ paths, after.fileLocation later = .ok location
      · obtain ⟨later, hmem, hsame⟩ := hlater
        obtain ⟨k, hk⟩ := List.getElem?_of_mem hmem
        obtain ⟨found, j, last, _, hfound, hlast, hj, hget⟩ := hrest.holds k later hk
        have heq : found = location := Except.ok.inj (hfound.symm.trans hsame)
        rw [heq] at hlast hget
        exact ⟨location, j + 1, last, Nat.zero_le _, hnamed, hlast.cons path, hj, hget⟩
      · have hnone : ∀ later ∈ paths, after.fileLocation later ≠ .ok location :=
          fun later hmem hsame => hlater ⟨later, hmem, hsame⟩
        refine ⟨location, 0, unit, Nat.le_refl 0, hnamed, ⟨⟨path, rfl, hnamed⟩, ?_⟩, rfl, ?_⟩
        · intro k later hk hlast
          cases k with
          | zero => cases hk
          | succ k => exact hnone later (List.mem_of_getElem? hlast)
        · exact (hrest.others location hnone _).2 hstores.holds
  · intro other hother content
    have hpath : other ∉ [location] := by
      intro hmem
      rw [List.mem_singleton.1 hmem] at hother
      exact hother path List.mem_cons_self hnamed
    exact (hrest.others other (fun later hmem => hother later (List.mem_cons_of_mem path hmem))
      content).trans (hstores.others other hpath content)

end KindTable.StoredAll

/-- Storing units in order, when it succeeds. -/
theorem KindTable.storeUnits_standard {vars : Variables} {placement : Placement}
    {before after : FileTree} {units : List UnitPlan} {paths : List Path}
    (h : standard.storeUnits vars placement before units = (after, .ok paths)) :
    StoredAll vars placement before after units paths := by
  induction units generalizing before paths with
  | nil =>
    cases h
    exact StoredAll.nil vars placement _
  | cons unit rest ih =>
    unfold storeUnits at h
    split at h
    next => cases h
    next middle path hstore =>
      split at h
      next after' paths' hrest =>
        cases h
        obtain ⟨htarget, hrendered, location, hstores⟩ := store_standard hstore
        exact (ih hrest).cons htarget hrendered hstores
      next => cases h

theorem Sink.NeverFails.append {sink : Sink} (h : sink.NeverFails) (text : String) :
    (sink.append text).NeverFails := ⟨h.room, h.flush⟩

theorem Sink.NeverFails.completed {sink : Sink} (h : sink.NeverFails) (text : String) :
    (sink.completed text).NeverFails := ⟨h.room, h.flush⟩

/-- Units that render one by one render behind each other. -/
theorem KindTable.renderUnits_standard {vars : Variables} {style : Style} {units : List UnitPlan}
    (hunits : ∀ unit ∈ units, (unit.rendering vars style).2 = .ok ()) {sink : Sink}
    (hsink : sink.NeverFails) :
    ∃ done, standard.renderUnits vars style sink units = (done, .ok ()) ∧
      done.bytes = sink.bytes ++ UnitPlan.printed vars style units := by
  induction units generalizing sink with
  | nil =>
    refine ⟨{ sink with flushes := sink.flushes + 1 }, ?_, ?_⟩
    · simp [renderUnits, Sink.flush, hsink.flush]
    · rw [UnitPlan.printed, ByteArray.append_empty]
  | cons unit rest ih =>
    obtain ⟨text, htext⟩ := render_standard (hunits unit List.mem_cons_self)
    have hmarked := hsink.append (marker unit)
    have hbytes : (unit.rendering vars style).1.bytes = text.toByteArray := by
      rw [UnitPlan.rendering, htext .unlimited ⟨rfl, rfl⟩]
      exact ByteArray.empty_append
    have haccept : sink.accept (marker unit).toByteArray = (sink.append (marker unit), none) :=
      sink.accept_unlimited _ hsink.room
    obtain ⟨done, hdone, hall⟩ := ih (fun other hm => hunits other (List.mem_cons_of_mem unit hm))
      (hmarked.completed text)
    refine ⟨done, ?_, ?_⟩
    · simp only [renderUnits, haccept, htext _ hmarked, hdone]
    · have hmarker : "// ---- " ++ unit.name ++ " (" ++ unit.kind ++ ")\n" = marker unit := rfl
      rw [hall, UnitPlan.printed, hbytes, hmarker]
      simp [Sink.completed, Sink.append, ByteArray.append_assoc]

/-- A plan that can be stored has the stated paths, leaves the rendering of each unit in its file
unless a later unit has the same file, changes no other file, and renders as a whole. -/
theorem stored_plan_renders (plan : Plan) (placement : Placement) (before after : FileTree)
    (paths : List Path) (hplacement : Placement.ofLayout plan.layout = .ok placement)
    (hstore : KindTable.standard.storeAll plan placement before = (after, .ok paths)) :
    List.Forall₂ placement.Targets plan.units paths ∧
      (∀ i path, paths[i]? = some path → ∃ location j unit, i ≤ j ∧
        after.fileLocation path = .ok location ∧ after.LastAt paths location j ∧
        plan.units[j]? = some unit ∧ (unit.rendering plan.vars plan.layout.style).2 = .ok () ∧
        after.read path = .ok (unit.rendering plan.vars plan.layout.style).1.bytes) ∧
      (∀ location, (∀ path ∈ paths, after.fileLocation path ≠ .ok location) → ∀ content,
        after.get? location = some (.file content) ↔ before.get? location = some (.file content)) ∧
      ∃ sink, KindTable.standard.renderAll plan .unlimited = (sink, .ok ()) ∧
        sink.bytes = UnitPlan.printed plan.vars plan.layout.style plan.units := by
  have hlayout := Placement.layout_ofLayout hplacement
  have hcheck : plan.layout.check = .ok () := hlayout ▸ placement.valid
  unfold KindTable.storeAll at hstore
  split at hstore
  next => cases hstore
  next hkinds =>
    have hall := KindTable.storeUnits_standard hstore
    have hrendered := hall.rendered
    rw [hlayout] at hrendered
    refine ⟨hall.targets, ?_, hall.others, ?_⟩
    · intro i path hpath
      obtain ⟨location, j, unit, hle, hnamed, hlast, hunit, hget⟩ := hall.holds i path hpath
      rw [hlayout] at hget
      exact ⟨location, j, unit, hle, hnamed, hlast, hunit,
        hrendered unit (List.mem_of_getElem? hunit), FileTree.read_eq hnamed hget⟩
    · have hsink : Sink.unlimited.NeverFails := ⟨rfl, rfl⟩
      obtain ⟨sink, hrender, hbytes⟩ := KindTable.renderUnits_standard hrendered hsink
      refine ⟨sink, ?_, hbytes.trans ByteArray.empty_append⟩
      rw [KindTable.renderAll, hcheck, hkinds]
      exact hrender

/-- Two resources of one file, which held a longer text before: the text of the second is left. -/
theorem stored_plan_renders_shared :
    let plan : Plan :=
      { units :=
          [{ kind := "class", name := "B", package := some "a" },
            { kind := "resource", name := "a.n", lines := ["x"] },
            { kind := "resource", name := "n", package := some "a", lines := ["y"] }] }
    let placement : Placement := ⟨{}, rfl⟩
    let before := ((FileTree.startingAt ["w"]).store ⟨"./target/generated-sources/a/n"⟩
      "longer".toByteArray).1
    let source : Path := ⟨"./target/generated-sources/a/B.java"⟩
    let shared : Path := ⟨"./target/generated-sources/a/n"⟩
    ∃ after, KindTable.standard.storeAll plan placement before =
        (after, .ok [source, shared, shared]) ∧
      List.Forall₂ placement.Targets plan.units [source, shared, shared] ∧
      after.read source = .ok "package a;\n\npublic class B \x7b\n\x7d\n".toByteArray ∧
      after.read shared = .ok "y\n".toByteArray ∧
      ∃ sink, KindTable.standard.renderAll plan .unlimited = (sink, .ok ()) ∧
        sink.bytes = ("// ---- B (class)\npackage a;\n\npublic class B \x7b\n\x7d\n" ++
          "// ---- a.n (resource)\nx\n// ---- n (resource)\ny\n").toByteArray := by
  intro plan placement before source shared
  have hplacement : Placement.ofLayout plan.layout = .ok placement := Placement.ofLayout_eq _
  have hfiles : (KindTable.standard.storeAll plan placement before).map
      (fun after => (after.read source, after.read shared)) id =
        ((.ok "package a;\n\npublic class B \x7b\n\x7d\n".toByteArray, .ok "y\n".toByteArray),
          .ok [source, shared, shared]) := by
    decide +kernel
  have hprinted : UnitPlan.printed plan.vars plan.layout.style plan.units =
      ("// ---- B (class)\npackage a;\n\npublic class B \x7b\n\x7d\n" ++
        "// ---- a.n (resource)\nx\n// ---- n (resource)\ny\n").toByteArray := by
    decide +kernel
  rcases hstore : KindTable.standard.storeAll plan placement before with ⟨after, outcome⟩
  rw [hstore] at hfiles
  obtain ⟨hread, houtcome⟩ := Prod.mk.inj hfiles
  obtain ⟨hsource, hshared⟩ := Prod.mk.inj hread
  cases houtcome
  obtain ⟨htargets, -, -, sink, hrender, hbytes⟩ :=
    stored_plan_renders plan placement before after _ hplacement hstore
  exact ⟨after, rfl, htargets, hsource, hshared, sink, hrender, hbytes.trans hprinted⟩

end SourceEmitter
