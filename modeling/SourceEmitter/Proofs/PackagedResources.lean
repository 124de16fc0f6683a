import SourceEmitter.Proofs.SourcePlace

/-!
# Resources in packages

Whether a resource is refused is decided on the path that its package and its name make together. A
package without slashes adds one name for each of its segments and nothing else, so a name that
would be accepted alone is accepted, and what it adds comes behind the package. The one difference
is a name of dots and slashes alone: by itself it names nothing, and behind a package it names the
directory of the package.
-/

namespace SourceEmitter

namespace Path

/-- A relative path that takes no step, so that it leads to the directory it is put into. -/
def StaysPut (path : Path) : Prop :=
  path.text ≠ "" ∧ path.isAbsolute = false ∧
    ∀ segment ∈ path.segments, segment = "" ∨ segment = "."

theorem root_mem_steps_iff (path : Path) : .root ∈ path.steps ↔ path.isAbsolute = true := by
  rw [← root_mem_components_iff]
  simp [steps]

/-- Dots have no part in leading a path astray. -/
theorem leadsAstray_iff (path : Path) :
    path.LeadsAstray ↔ .root ∈ path.steps ∨ .parent ∈ path.steps ∨
      ∀ name, .normal name ∉ path.steps := by
  rw [LeadsAstray, root_mem_steps_iff]
  simp [steps]

theorem steps_of_isName {name : String} (h : IsName name) : steps ⟨name⟩ = [.normal name] := by
  have hrelative := isAbsolute_of_isName h
  obtain ⟨hempty, hcurrent, hparent, hslash⟩ := h
  have hsegments : segments ⟨name⟩ = [name] := by
    simp [segments, Text.pieces, Text.stretches_of_notMem hslash]
  rw [steps_eq, hrelative, hsegments]
  simp [isStep, hempty, hcurrent, Component.ofStep, hparent]

/-- Names that are joined to any path, also to the empty one, are its last steps. -/
theorem steps_joinAll_names (base : Path) {names : List String}
    (hnames : ∀ name ∈ names, IsName name) :
    (base.joinAll names).steps = base.steps ++ names.map .normal := by
  induction names generalizing base with
  | nil => simp [joinAll]
  | cons name rest ih =>
    obtain ⟨hname, hrest⟩ := List.forall_mem_cons.1 hnames
    calc (base.joinAll (name :: rest)).steps
        = ((base.join ⟨name⟩).joinAll rest).steps := rfl
      _ = (base.join ⟨name⟩).steps ++ rest.map .normal := ih (base.join ⟨name⟩) hrest
      _ = base.steps ++ (name :: rest).map .normal := by
        rw [steps_join base (isAbsolute_of_isName hname), steps_of_isName hname]
        simp

theorem steps_empty : steps ⟨""⟩ = [] := by
  simp [steps_eq, segments_empty, isStep, isAbsolute]

theorem staysPut_iff (path : Path) :
    path.StaysPut ↔ path.text ≠ "" ∧ path.isAbsolute = false ∧ path.steps = [] := by
  refine and_congr_right fun _ => and_congr_right fun hrelative => ?_
  rw [steps_eq, hrelative]
  simp [isStep, Classical.or_iff_not_imp_left]

/-- A path without steps neither climbs nor names anything, and only such a path does not. -/
theorem steps_eq_nil_iff {path : Path} (h : path.isAbsolute = false) :
    path.steps = [] ↔ .parent ∉ path.steps ∧ ∀ name, .normal name ∉ path.steps := by
  constructor
  · intro hnil
    simp [hnil]
  · rintro ⟨hparent, hnormal⟩
    refine List.eq_nil_iff_forall_not_mem.2 fun c hc => ?_
    cases c with
    | root => exact nomatch h.symm.trans ((root_mem_steps_iff path).1 hc)
    | current => simp [steps] at hc
    | parent => exact hparent hc
    | normal name => exact hnormal name hc

/-- A path that does not lead astray takes nothing but steps to names. -/
theorem steps_eq_names {path : Path} (h : ¬path.LeadsAstray) :
    ∃ names : List String, names ≠ [] ∧ path.steps = names.map .normal := by
  obtain ⟨names, hne, hsteps⟩ := liesBelow_join ⟨""⟩ h
  have hrelative : path.isAbsolute = false := by
    simpa using fun habsolute => h (.inl habsolute)
  rw [steps_join _ hrelative, steps_empty, List.nil_append, List.nil_append] at hsteps
  exact ⟨names, hne, hsteps⟩

/-- A path is led astray behind names if it climbs, or if there are no names and it names nothing
itself. -/
theorem leadsAstray_join_iff {front path : Path} {names : List String}
    (hfront : front.steps = names.map .normal) (hpath : path.isAbsolute = false) :
    (front.join path).LeadsAstray ↔
      .parent ∈ path.steps ∨ names = [] ∧ ∀ name, .normal name ∉ path.steps := by
  have hroot : .root ∉ path.steps := by
    rw [root_mem_steps_iff, hpath]
    simp
  rw [leadsAstray_iff, steps_join front hpath, hfront]
  cases names with
  | nil => simp [hroot]
  | cons first rest =>
    have hnamed : ¬∀ name, .normal name ∉ (first :: rest).map Component.normal ++ path.steps :=
      fun hnone => hnone first (by simp)
    simp only [hnamed, or_false, List.cons_ne_nil, false_and]
    simp [hroot]

end Path

namespace ResourceRequest

open SourceEmitter.Path

theorem joined_empty (name : String) : joined "" name = ⟨name⟩ := by
  have hpieces : (Text.pieces '.' "").filter (· ≠ "") = [] := by decide
  rw [joined, hpieces]
  by_cases h : isAbsolute ⟨name⟩ = true
  · exact join_of_isAbsolute _ h
  · simp [joinAll, join, h, isEmpty]

/-- The segments of a package without slashes are names. -/
theorem isName_of_mem_package {package : String} (h : '/' ∉ package.toList) :
    ∀ segment ∈ (Text.pieces '.' package).filter (· ≠ ""), IsName segment := by
  intro segment hmem
  obtain ⟨hpiece, hne⟩ := List.mem_filter.1 hmem
  obtain ⟨chars, hchars, rfl⟩ := List.mem_map.1 hpiece
  have hplain : DottedName.IsPlain (String.ofList chars) := by
    refine ⟨by simpa using hne, ?_, ?_⟩ <;> rw [String.toList_ofList]
    · exact Text.sep_notMem_of_mem_stretches hchars
    · exact fun hslash => h (Text.mem_of_mem_stretches hchars hslash)
  exact hplain.isName

/-- The segments of a package, joined, are their names and nothing else. -/
theorem steps_package {package : String} (h : '/' ∉ package.toList) :
    (joinAll ⟨""⟩ ((Text.pieces '.' package).filter (· ≠ ""))).steps =
      ((Text.pieces '.' package).filter (· ≠ "")).map .normal := by
  rw [steps_joinAll_names ⟨""⟩ (isName_of_mem_package h), steps_empty, List.nil_append]

theorem joined_eq_join (package name : String) :
    joined package name = (joinAll ⟨""⟩ ((Text.pieces '.' package).filter (· ≠ ""))).join ⟨name⟩ :=
  joined_eq package name

/-- Behind a package without slashes the name takes the steps that it takes by itself. -/
theorem steps_joined {package name : String} (hpackage : '/' ∉ package.toList)
    (hname : isAbsolute ⟨name⟩ = false) :
    (joined package name).steps =
      ((Text.pieces '.' package).filter (· ≠ "")).map .normal ++ steps ⟨name⟩ := by
  rw [joined_eq_join, steps_join _ hname, steps_package hpackage]

/-- A package saves no name from being refused but one that stays put. -/
theorem isRefused_inPackage_iff {package : String} (hpackage : '/' ∉ package.toList)
    (name : String) :
    (inPackage package name).IsRefused ↔ (inPackage "" name).IsRefused ∧
      ¬((Text.pieces '.' package).filter (· ≠ "") ≠ [] ∧ StaysPut ⟨name⟩) := by
  change name = "" ∨ (joined package name).LeadsAstray ↔
    (name = "" ∨ (joined "" name).LeadsAstray) ∧ _
  rw [joined_empty, joined_eq_join]
  by_cases hempty : name = ""
  · have hstays : ¬StaysPut ⟨name⟩ := fun h => h.1 hempty
    exact iff_of_true (.inl hempty) ⟨.inl hempty, fun h => hstays h.2⟩
  cases habsolute : isAbsolute ⟨name⟩ with
  | true =>
    have hstays : ¬StaysPut ⟨name⟩ := fun h => nomatch habsolute.symm.trans h.2.1
    have hastray : LeadsAstray ⟨name⟩ := .inl habsolute
    rw [join_of_isAbsolute _ habsolute]
    exact iff_of_true (.inr hastray) ⟨.inr hastray, fun h => hstays h.2⟩
  | false =>
    have hstays : StaysPut ⟨name⟩ ↔
        .parent ∉ steps ⟨name⟩ ∧ ∀ other, .normal other ∉ steps ⟨name⟩ := by
      rw [staysPut_iff, ← steps_eq_nil_iff habsolute]
      simp [hempty, habsolute]
    have hroot : .root ∉ steps ⟨name⟩ := by
      rw [root_mem_steps_iff, habsolute]
      exact Bool.false_ne_true
    rw [leadsAstray_join_iff (steps_package hpackage) habsolute, leadsAstray_iff, hstays]
    simp only [hempty, hroot, false_or]
    constructor
    · rintro (hparent | ⟨hnone, hnormal⟩)
      · exact ⟨.inl hparent, fun h => h.2.1 hparent⟩
      · exact ⟨.inr hnormal, fun h => h.1 hnone⟩
    · rintro ⟨hparent | hnormal, hsaved⟩
      · exact .inl hparent
      · refine Classical.or_iff_not_imp_left.2 fun hparent => ⟨?_, hnormal⟩
        exact Classical.not_not.1 fun hsome => hsaved ⟨hsome, hparent, hnormal⟩

/-- Where a resource of a package goes does not depend on what is there. -/
theorem exists_packageResource_iff (placement : Placement) (package name : String) :
    (∃ path, placement.packageResource package name = .ok path) ↔
      ¬(inPackage package name).IsRefused := by
  let tree : FileTree := .startingAt []
  constructor
  · rintro ⟨path, hpath⟩
    exact (place_eq_ok placement tree (inPackage package name) hpath).1
  · exact fun h => ⟨_, place_of_not_isRefused placement tree h⟩

/-- What is placed in a package without slashes takes the steps of the sources, of the segments and
of the name. -/
theorem steps_packageResource {placement : Placement} {package name : String} {path : Path}
    (hpackage : '/' ∉ package.toList) (h : placement.packageResource package name = .ok path) :
    path.steps = placement.layout.sources.steps ++
      (((Text.pieces '.' package).filter (· ≠ "")).map .normal ++ steps ⟨name⟩) := by
  obtain ⟨haccepted, rfl⟩ := place_eq_ok placement (.startingAt []) (inPackage package name) h
  have hjoined : ¬(joined package name).LeadsAstray := fun hastray => haccepted (.inr hastray)
  have hrelative : (joined package name).isAbsolute = false := by
    simpa using fun habsolute => hjoined (.inl habsolute)
  have hname : isAbsolute ⟨name⟩ = false := by
    refine Bool.eq_false_iff.2 fun habsolute => ?_
    rw [joined_eq_join, join_of_isAbsolute _ habsolute, habsolute] at hrelative
    cases hrelative
  change (placement.layout.sources.join (joined package name)).steps = _
  rw [steps_join _ hrelative, steps_joined hpackage hname]

/-- In the empty package the steps of a name that is accepted are names. -/
theorem steps_of_accepted {placement : Placement} {name : String}
    (h : ∃ path, placement.packageResource "" name = .ok path) :
    ∃ names : List String, names ≠ [] ∧ steps ⟨name⟩ = names.map .normal := by
  have haccepted := (exists_packageResource_iff placement "" name).1 h
  refine steps_eq_names fun hastray => haccepted (.inr ?_)
  change (joined "" name).LeadsAstray
  rwa [joined_empty]

end ResourceRequest

/-- Behind a package without slashes a name is accepted exactly if it is accepted in the empty
package, or if it stays put and the package has a segment. In the first case the path takes the
steps of the sources, then the segments of the package, and then one or more names that are the
steps of the name by itself. In the second case it ends with the segments of the package. -/
theorem package_adds_its_segments (placement : Placement) {package : String}
    (hpackage : '/' ∉ package.toList) (name : String) :
    let segments := (Text.pieces '.' package).filter (· ≠ "")
    let accepted := fun package => ∃ path, placement.packageResource package name = .ok path
    (accepted package ↔ accepted "" ∨ segments ≠ [] ∧ Path.StaysPut ⟨name⟩) ∧
    (accepted "" → ∃ path names, placement.packageResource package name = .ok path ∧
      names ≠ [] ∧ Path.steps ⟨name⟩ = names.map .normal ∧
      path.steps = placement.layout.sources.steps ++ (segments ++ names).map .normal) ∧
    (segments ≠ [] ∧ Path.StaysPut ⟨name⟩ → ¬accepted "" ∧
      ∃ path, placement.packageResource package name = .ok path ∧
      path.steps = placement.layout.sources.steps ++ segments.map .normal) := by
  intro segments accepted
  have hrule : accepted package ↔ accepted "" ∨ segments ≠ [] ∧ Path.StaysPut ⟨name⟩ := by
    have hplaced := ResourceRequest.exists_packageResource_iff placement
    rw [show accepted package ↔ _ from hplaced package name,
      show accepted "" ↔ _ from hplaced "" name, ResourceRequest.isRefused_inPackage_iff hpackage,
      Classical.not_and_iff_not_or_not, Classical.not_not]
  refine ⟨hrule, ?_, ?_⟩
  · intro halone
    obtain ⟨path, hpath⟩ := hrule.2 (.inl halone)
    obtain ⟨names, hne, hnames⟩ := ResourceRequest.steps_of_accepted halone
    refine ⟨path, names, hpath, hne, hnames, ?_⟩
    rw [ResourceRequest.steps_packageResource hpackage hpath, hnames, List.map_append]
  · intro hsaved
    obtain ⟨path, hpath⟩ := hrule.2 (.inr hsaved)
    have hsteps := ((Path.staysPut_iff _).1 hsaved.2).2.2
    refine ⟨fun halone => ?_, path, hpath, ?_⟩
    · obtain ⟨names, hne, hnames⟩ := ResourceRequest.steps_of_accepted halone
      exact hne (List.map_eq_nil_iff.1 (hnames.symm.trans hsteps))
    · rw [ResourceRequest.steps_packageResource hpackage hpath, hsteps, List.append_nil]

/-- Empty segments of the package count for nothing, and neither do dots in the name; a name of
nothing but dots and slashes ends where the package does. -/
theorem package_adds_its_segments_idle :
    let placement : Placement := ⟨{}, rfl⟩
    let sources := placement.layout.sources.steps
    '/' ∉ ".a..b".toList ∧
      (∃ path names, placement.packageResource ".a..b" "./c//d" = .ok path ∧
        path.steps = sources ++ (["a", "b"] ++ names).map .normal) ∧
      (∀ path, placement.packageResource "" "./." ≠ .ok path) ∧
      ∃ path, placement.packageResource ".a..b" "./." = .ok path ∧
        path.steps = sources ++ ["a", "b"].map .normal := by
  intro placement sources
  have hpackage : '/' ∉ ".a..b".toList := by decide
  have hsegments : (Text.pieces '.' ".a..b").filter (· ≠ "") = ["a", "b"] := by decide
  obtain ⟨-, hnamed, -⟩ := package_adds_its_segments placement hpackage "./c//d"
  obtain ⟨-, -, hidle⟩ := package_adds_its_segments placement hpackage "./."
  obtain ⟨path, names, hpath, -, -, hsteps⟩ := hnamed ⟨_, rfl⟩
  obtain ⟨hrefused, place, hplace, hends⟩ :=
    hidle ⟨by rw [hsegments]; decide, by decide, by decide, by decide⟩
  rw [hsegments] at hsteps hends
  exact ⟨hpackage, ⟨path, names, hpath, hsteps⟩, fun path hpath => hrefused ⟨path, hpath⟩, place,
    hplace, hends⟩

/-- A dot behind a package names the directory of the package, and by itself it is refused. -/
theorem package_saves_dot :
    let placement : Placement := ⟨{}, rfl⟩
    placement.packageResource "a" "." = .ok ⟨"./target/generated-sources/a/."⟩ ∧
      placement.packageResource "" "." = .error (.badName ".") := by
  decide

end SourceEmitter
