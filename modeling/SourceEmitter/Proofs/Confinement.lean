import Mathlib.Data.List.Basic
import SourceEmitter.Proofs.FileGrowth

/-!
# Resources stay below their root

Whichever way a resource is asked for, its path consists of the components of its root and of names
behind them, or the resource is refused and the file tree stays as it is. Components are compared
without `.`, and the root counts as it stands: it may be relative and may hold `..` itself.
-/

namespace SourceEmitter

namespace Path

/-- The components of a path without `.`, which leads nowhere. -/
def steps (path : Path) : List Component := path.components.filter (· ≠ .current)

/-- A path that consists of the components of a root and of one or more names behind them. -/
def LiesBelow (path root : Path) : Prop :=
  ∃ names : List String, names ≠ [] ∧ path.steps = root.steps ++ names.map .normal

/-- Whether a path ignores the root in front of it, climbs, or names nothing. -/
def LeadsAstray (path : Path) : Prop :=
  path.isAbsolute = true ∨ .parent ∈ path.components ∨ ∀ name, .normal name ∉ path.components

theorem ofStep_ne_current (s : String) : Component.ofStep s ≠ .current := by
  unfold Component.ofStep
  split <;> simp

theorem steps_eq (path : Path) :
    path.steps = (if path.isAbsolute then [.root] else []) ++
      (path.segments.filter isStep).map Component.ofStep := by
  have hkept : ∀ names : List String, (names.map Component.ofStep).filter (· ≠ .current) =
      names.map Component.ofStep := by
    intro names
    rw [List.filter_eq_self]
    intro c hc
    obtain ⟨s, _, rfl⟩ := List.mem_map.1 hc
    simpa using ofStep_ne_current s
  rw [steps, components, List.filter_append, hkept]
  congr 1
  unfold anchor
  split
  · rfl
  · split <;> rfl

theorem segments_of_cut {path first second : Path}
    (h : path.text.toList = first.text.toList ++ '/' :: second.text.toList) :
    path.segments = first.segments ++ second.segments := by
  simp [segments, Text.pieces, h, Text.stretches_append_sep]

theorem segments_empty : segments ⟨""⟩ = [""] := by
  simp [segments, Text.pieces, Text.stretches]

theorem isAbsolute_append {base : Path} (h : base.isEmpty = false) (text : String) :
    isAbsolute ⟨base.text ++ text⟩ = base.isAbsolute := by
  have hne : base.text.toList ≠ [] := by
    simpa [isEmpty] using h
  obtain ⟨c, rest, hcons⟩ := List.exists_cons_of_ne_nil hne
  simp [isAbsolute, hcons]

/-- The segments of a root that is not empty stay in front of those of a relative path, except that
a slash at its end has an empty segment behind it. -/
theorem segments_join {base path : Path} (hbase : base.isEmpty = false)
    (hpath : path.isAbsolute = false) :
    ∃ front, front ≠ [] ∧ (base.join path).segments = front ++ path.segments ∧
      (base.segments = front ∨ base.segments = front ++ [""]) := by
  have hne : ∀ path : Path, path.segments ≠ [] := by
    intro path
    simp [segments, Text.pieces, Text.stretches_ne_nil]
  by_cases hslash : base.text.toList.getLast? = some '/'
  · obtain ⟨front, hfront⟩ := List.getLast?_eq_some_iff.1 hslash
    refine ⟨segments ⟨String.ofList front⟩, hne _, ?_, .inr ?_⟩
    · exact segments_of_cut (by simp [join, hpath, hfront])
    · rw [← segments_empty]
      exact segments_of_cut (by simp [hfront])
  · have hcut : (base.join path).segments = base.segments ++ path.segments :=
      segments_of_cut (by simp [join, hpath, hbase, hslash])
    exact ⟨base.segments, hne base, hcut, .inl rfl⟩

theorem filter_segments_join {base path : Path} (hbase : base.isEmpty = false)
    (hpath : path.isAbsolute = false) :
    (base.join path).segments.filter isStep =
      base.segments.filter isStep ++ path.segments.filter isStep := by
  obtain ⟨front, _, hjoin, hfront | hfront⟩ := segments_join hbase hpath
  · rw [hjoin, hfront, List.filter_append]
  · simp [hjoin, hfront, isStep]

theorem join_eq_append {base path : Path} (hbase : base.isEmpty = false)
    (hpath : path.isAbsolute = false) : ∃ text, base.join path = ⟨base.text ++ text⟩ := by
  by_cases hslash : base.text.toList.getLast? = some '/'
  · exact ⟨path.text, by simp [join, hpath, hslash]⟩
  · exact ⟨"/" ++ path.text, by simp [join, hpath, hslash, hbase, String.append_assoc]⟩

theorem isAbsolute_join {base path : Path} (hbase : base.isEmpty = false)
    (hpath : path.isAbsolute = false) : (base.join path).isAbsolute = base.isAbsolute := by
  obtain ⟨text, hjoin⟩ := join_eq_append hbase hpath
  rw [hjoin, isAbsolute_append hbase]

/-- Behind a root, the components of a relative path follow those of the root. -/
theorem steps_join (base : Path) {path : Path} (h : path.isAbsolute = false) :
    (base.join path).steps = base.steps ++ path.steps := by
  have hpath : path.steps = (path.segments.filter isStep).map Component.ofStep := by
    simp [steps_eq, h]
  by_cases hempty : base.isEmpty = true
  · have hbase : base = ⟨""⟩ := by
      cases base
      simpa [isEmpty] using hempty
    have hjoin : base.join path = path := by
      simp [join, h, hbase, isEmpty]
    have hsteps : base.steps = [] := by
      simp [steps_eq, hbase, segments_empty, isStep, isAbsolute]
    rw [hjoin, hsteps, List.nil_append]
  · have hne : base.isEmpty = false := by simpa using hempty
    rw [steps_eq, steps_eq base, hpath, isAbsolute_join hne h, filter_segments_join hne h,
      List.map_append, List.append_assoc]

theorem staysBelow_iff (path : Path) : path.staysBelow = true ↔ ¬path.LeadsAstray := by
  rw [LeadsAstray, ← root_mem_components_iff, staysBelow, Bool.and_eq_true, List.all_eq_true,
    List.any_eq_true]
  constructor
  · rintro ⟨hall, c, hc, hnormal⟩ (hroot | hparent | hnone)
    · exact absurd (hall _ hroot) (by simp)
    · exact absurd (hall _ hparent) (by simp)
    · cases c with
      | normal name => exact hnone name hc
      | _ => cases hnormal
  · intro h
    refine ⟨?_, ?_⟩
    · intro c hc
      cases c with
      | root => exact absurd (.inl hc) h
      | parent => exact absurd (.inr (.inl hc)) h
      | _ => rfl
    · refine Classical.byContradiction fun hnone => h (.inr (.inr ?_))
      exact fun name hname => hnone ⟨.normal name, hname, rfl⟩

theorem exists_names {components : List Component}
    (h : ∀ c ∈ components, ∃ name, c = .normal name) :
    ∃ names : List String, components = names.map .normal := by
  induction components with
  | nil => exact ⟨[], rfl⟩
  | cons c rest ih =>
    obtain ⟨name, rfl⟩ := h c List.mem_cons_self
    obtain ⟨names, rfl⟩ := ih fun other hother => h other (List.mem_cons_of_mem _ hother)
    exact ⟨name :: names, rfl⟩

/-- A path that does not lead astray adds nothing but names to any root. -/
theorem liesBelow_join (root : Path) {path : Path} (h : ¬path.LeadsAstray) :
    (root.join path).LiesBelow root := by
  have hrelative : path.isAbsolute = false := by
    simpa using fun habsolute => h (.inl habsolute)
  have hnormal : ∀ c ∈ path.steps, ∃ name, c = .normal name := by
    intro c hc
    obtain ⟨hc, hcurrent⟩ := List.mem_filter.1 hc
    cases c with
    | root => exact absurd (.inl ((root_mem_components_iff path).1 hc)) h
    | current => simp at hcurrent
    | parent => exact absurd (.inr (.inl hc)) h
    | normal name => exact ⟨name, rfl⟩
  obtain ⟨names, hnames⟩ := exists_names hnormal
  refine ⟨names, ?_, by rw [steps_join root hrelative, hnames]⟩
  rintro rfl
  refine h (.inr (.inr fun name hname => ?_))
  have hmem : .normal name ∈ path.steps := List.mem_filter.2 ⟨hname, by simp⟩
  rw [hnames] at hmem
  cases hmem

end Path

/-- The ways to ask for the place of a resource. -/
inductive ResourceRequest where
  | inPackage (package name : String)
  | dotted (name : String)
  | belowResources (path : String)
  | belowBase (path : String)
  | belowBest (path : String) (candidates : List Path)

namespace ResourceRequest

def place (placement : Placement) (tree : FileTree) : ResourceRequest → Except OutputError Path
  | inPackage package name => placement.packageResource package name
  | dotted name => placement.dottedResource name
  | belowResources path => placement.namedResource path
  | belowBase path => placement.baseResource path
  | belowBest path candidates => placement.findResource tree path candidates

def root (placement : Placement) (tree : FileTree) : ResourceRequest → Path
  | inPackage _ _ | dotted _ => placement.layout.sources
  | belowResources _ => placement.layout.resources
  | belowBase _ => placement.layout.base
  | belowBest _ candidates => placement.bestRoot tree candidates

/-- The name that a refusal of the request tells. -/
def name : ResourceRequest → String
  | inPackage _ name => name
  | dotted name => (DottedName.split name).2
  | belowResources path | belowBase path | belowBest path _ => path

/-- The segments of a package that are not empty, and a name, each joined to what is before it. -/
def joined (package name : String) : Path :=
  Path.joinAll ⟨""⟩ ((Text.pieces '.' package).filter (· ≠ "") ++ [name])

/-- The relative path that a request stands for. -/
def relative : ResourceRequest → Path
  | inPackage package name => joined package name
  | dotted name => joined (DottedName.split name).1 (DottedName.split name).2
  | belowResources path | belowBest path _ => Placement.withoutLeadingSlashes path
  | belowBase path => Placement.withoutLeadingSlashes (Text.trimBoth Text.isBlank path)

def IsRefused (request : ResourceRequest) : Prop :=
  request.name = "" ∨ request.relative.LeadsAstray

theorem joined_eq (package name : String) :
    joined package name = Placement.relativeResource package name := by
  simp [joined, Placement.relativeResource, Path.joinAll]

theorem leadsAstray_empty : Path.LeadsAstray ⟨""⟩ := by
  have hbelow : ¬Path.staysBelow ⟨""⟩ = true := by decide
  rw [Path.staysBelow_iff] at hbelow
  exact Classical.not_not.1 hbelow

theorem map_requireBelow_of_leadsAstray {path : Path} (h : path.LeadsAstray) (name : String)
    (below : Path → Path) :
    (Placement.requireBelow path name).map below = .error (.badName name) := by
  rw [Placement.requireBelow, if_neg fun hbelow => (path.staysBelow_iff.1 hbelow) h]
  rfl

theorem map_requireBelow {path : Path} (h : ¬path.LeadsAstray) (name : String)
    (below : Path → Path) :
    (Placement.requireBelow path name).map below = .ok (below path) := by
  rw [Placement.requireBelow, if_pos (path.staysBelow_iff.2 h)]
  rfl

theorem packageResource_eq (placement : Placement) (package name : String) :
    placement.packageResource package name =
      if name = "" then .error (.badName name)
      else (Placement.requireBelow (joined package name) name).map
        placement.layout.sources.join := by
  rw [joined_eq, Placement.packageResource]
  simp only [String.isEmpty_iff]

/-- The empty path leads astray, so a form that takes a path needs no check of its own. -/
theorem guarded_eq {relative : Path} {path : String} (h : path = "" → relative = ⟨""⟩)
    (below : Path → Path) :
    (Placement.requireBelow relative path).map below =
      if path = "" then .error (.badName path)
      else (Placement.requireBelow relative path).map below := by
  split
  next hpath => rw [h hpath, map_requireBelow_of_leadsAstray leadsAstray_empty]
  next => rfl

/-- All requests are placed by one rule. -/
theorem place_eq (placement : Placement) (tree : FileTree) (request : ResourceRequest) :
    request.place placement tree =
      if request.name = "" then .error (.badName request.name)
      else (Placement.requireBelow request.relative request.name).map
        (request.root placement tree).join := by
  cases request with
  | inPackage package name => exact packageResource_eq placement package name
  | dotted name => exact packageResource_eq placement _ _
  | belowResources path | belowBest path candidates =>
    refine guarded_eq (fun hpath => ?_) _
    rw [hpath]
    rfl
  | belowBase path =>
    change (Placement.requireBelow (relative (.belowBase path)) path).map
      placement.layout.base.join = _
    refine guarded_eq (fun hpath => ?_) _
    rw [hpath]
    rfl

theorem place_of_isRefused (placement : Placement) (tree : FileTree) {request : ResourceRequest}
    (h : request.IsRefused) :
    request.place placement tree = .error (.badName request.name) := by
  rw [place_eq]
  split
  · rfl
  next hname => exact map_requireBelow_of_leadsAstray (h.resolve_left hname) _ _

theorem place_of_not_isRefused (placement : Placement) (tree : FileTree)
    {request : ResourceRequest} (h : ¬request.IsRefused) :
    request.place placement tree =
      .ok ((request.root placement tree).join request.relative) := by
  obtain ⟨hname, hbelow⟩ := not_or.1 h
  rw [place_eq, if_neg hname]
  exact map_requireBelow hbelow _ _

theorem place_eq_ok (placement : Placement) (tree : FileTree) (request : ResourceRequest)
    {path : Path} (h : request.place placement tree = .ok path) :
    ¬request.IsRefused ∧ path = (request.root placement tree).join request.relative := by
  have haccepted : ¬request.IsRefused := fun hrefused =>
    nomatch h.symm.trans (place_of_isRefused placement tree hrefused)
  rw [place_of_not_isRefused placement tree haccepted] at h
  exact ⟨haccepted, (Except.ok.inj h).symm⟩

end ResourceRequest

/-- A resource is refused, and the tree left as it is, if its name is empty or its relative path
leads astray. Every other resource is placed strictly below its root. What is written to it is in
the file that its path names and changes no other file, and what cannot be written changes none. -/
theorem resources_stay_below (placement : Placement) (tree : FileTree) (request : ResourceRequest)
    (text : String) :
    (request.IsRefused → request.place placement tree = .error (.badName request.name) ∧
      tree.replaceTextAt text (request.place placement tree) =
        (tree, .error (.badName request.name))) ∧
    (¬request.IsRefused → ∃ path, request.place placement tree = .ok path ∧
      path.LiesBelow (request.root placement tree) ∧
      (∀ name, (tree.replaceTextAt text (request.place placement tree)).2 ≠
        .error (.badName name)) ∧
      (∀ after, tree.replaceTextAt text (request.place placement tree) = (after, .ok ()) →
        ∃ location, FileTree.Stores path location text.toByteArray tree after) ∧
      ∀ after error,
        tree.replaceTextAt text (request.place placement tree) = (after, .error error) →
        FileTree.Grows tree after ∧ FileTree.SameFilesBut [] tree after) := by
  constructor
  · intro h
    rw [ResourceRequest.place_of_isRefused placement tree h]
    exact ⟨rfl, rfl⟩
  · intro h
    rw [ResourceRequest.place_of_not_isRefused placement tree h]
    simp only [FileTree.replaceTextAt]
    refine ⟨_, rfl, Path.liesBelow_join _ fun hastray => h (.inr hastray), ?_, ?_, ?_⟩
    · intro name hname
      obtain ⟨⟨fault, hfault⟩, _⟩ := FileTree.replaceText_error (Prod.ext rfl hname)
      cases hfault
    · exact fun after hwritten => FileTree.replaceText_stores hwritten
    · exact fun after error herror => (FileTree.replaceText_error herror).2

/-- A dot in front of a slash makes a package absolute; a candidate root that is absolute itself is
taken as it stands, and `.` and repeated slashes in the path count for nothing. -/
theorem resources_stay_below_absolute :
    let placement : Placement := ⟨{}, rfl⟩
    let tree := (FileTree.startingAt ["r"])
    let outside := ResourceRequest.inPackage "a./etc" "x"
    let inside := ResourceRequest.belowBest "/./c//d" [⟨"/none"⟩, ⟨"/r"⟩]
    outside.IsRefused ∧ outside.place placement tree = .error (.badName "x") ∧
      tree.replaceTextAt "t" (outside.place placement tree) = (tree, .error (.badName "x")) ∧
      ¬inside.IsRefused ∧ inside.root placement tree = ⟨"/r"⟩ ∧
      inside.place placement tree = .ok ⟨"/r/./c//d"⟩ ∧ Path.LiesBelow ⟨"/r/./c//d"⟩ ⟨"/r"⟩ ∧
      ∃ after, tree.replaceTextAt "t" (inside.place placement tree) = (after, .ok ()) ∧
        FileTree.Stores ⟨"/r/./c//d"⟩ ["r", "c", "d"] "t".toByteArray tree after := by
  intro placement tree outside inside
  have houtside : outside.IsRefused := by
    refine .inr (.inl ?_)
    decide
  have hinside : ¬inside.IsRefused := by
    rintro (hname | hastray)
    · exact absurd hname (by decide)
    · exact (Path.staysBelow_iff _).1 (by decide) hastray
  have hroot : inside.root placement tree = ⟨"/r"⟩ := by decide
  have hplace : inside.place placement tree = .ok ⟨"/r/./c//d"⟩ := by decide
  have hwritten : (tree.replaceText ⟨"/r/./c//d"⟩ "t").2 = .ok () := by decide +kernel
  have hnamed : (tree.replaceText ⟨"/r/./c//d"⟩ "t").1.fileLocation ⟨"/r/./c//d"⟩ =
      .ok ["r", "c", "d"] := by
    decide +kernel
  obtain ⟨hrefused, hkept⟩ := (resources_stay_below placement tree outside "t").1 houtside
  obtain ⟨path, hpath, hbelow, _, hstores, _⟩ :=
    (resources_stay_below placement tree inside "t").2 hinside
  rw [hplace] at hpath
  cases hpath
  rw [hroot] at hbelow
  simp only [hplace, FileTree.replaceTextAt] at hstores
  rcases hwrite : tree.replaceText ⟨"/r/./c//d"⟩ "t" with ⟨after, outcome⟩
  rw [hwrite] at hwritten hnamed hstores
  cases hwritten
  obtain ⟨location, hstored⟩ := hstores after rfl
  cases hstored.named.symm.trans hnamed
  refine ⟨houtside, hrefused, hkept, hinside, hroot, hplace, hbelow, after, ?_, hstored⟩
  rw [hplace, FileTree.replaceTextAt, hwrite]

end SourceEmitter
