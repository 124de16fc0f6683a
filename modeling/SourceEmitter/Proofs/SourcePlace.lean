import SourceEmitter.Proofs.ClassLayout
import SourceEmitter.Proofs.Confinement
import SourceEmitter.Proofs.FailedPlan

/-!
# Classes at their place

A class is stored where its package says, and its file names the same package and the same class.
The path comes from cutting the qualified name at every dot and the package line from cutting it at
the last one, so the two agree because every segment is checked.
-/

namespace SourceEmitter

namespace Path

/-- A text that adds one name to any path. -/
def IsName (text : String) : Prop := text ≠ "" ∧ text ≠ "." ∧ text ≠ ".." ∧ '/' ∉ text.toList

theorem isAbsolute_of_isName {name : String} (h : IsName name) : isAbsolute ⟨name⟩ = false := by
  cases hname : name.toList with
  | nil => simp [isAbsolute, hname]
  | cons c rest =>
    have hc : c ≠ '/' := by
      rintro rfl
      exact h.2.2.2 (hname ▸ List.mem_cons_self)
    simp [isAbsolute, hname, hc]

theorem isEmpty_join {base path : Path} (hbase : base.isEmpty = false)
    (hpath : path.isAbsolute = false) : (base.join path).isEmpty = false := by
  obtain ⟨text, hjoin⟩ := join_eq_append hbase hpath
  have hne : base.text ≠ "" := by simpa [isEmpty] using hbase
  simp [hjoin, isEmpty, hne]

/-- A relative path moves nothing to the front of a root that is not empty. -/
theorem anchor_join {base path : Path} (hbase : base.isEmpty = false)
    (hpath : path.isAbsolute = false) : (base.join path).anchor = base.anchor := by
  obtain ⟨front, hne, hjoin, hfront⟩ := segments_join hbase hpath
  have hhead : (base.join path).segments.head? = base.segments.head? := by
    obtain ⟨first, rest, rfl⟩ := List.exists_cons_of_ne_nil hne
    rcases hfront with hfront | hfront <;> simp [hjoin, hfront]
  rw [anchor, anchor, isAbsolute_join hbase hpath, hhead]

theorem components_join {base : Path} (hbase : base.isEmpty = false) {name : String}
    (hname : IsName name) :
    (base.join ⟨name⟩).components = base.components ++ [.normal name] := by
  have hrelative := isAbsolute_of_isName hname
  obtain ⟨hempty, hcurrent, hparent, hslash⟩ := hname
  have hsegments : segments ⟨name⟩ = [name] := by
    simp [segments, Text.pieces, Text.stretches_of_notMem hslash]
  rw [components, components, anchor_join hbase hrelative, filter_segments_join hbase hrelative,
    hsegments]
  simp [isStep, hempty, hcurrent, Component.ofStep, hparent]

theorem components_joinAll {base : Path} (hbase : base.isEmpty = false) {names : List String}
    (hnames : ∀ name ∈ names, IsName name) :
    (base.joinAll names).components = base.components ++ names.map .normal := by
  induction names generalizing base with
  | nil => simp [joinAll]
  | cons name rest ih =>
    have hname : IsName name := hnames name List.mem_cons_self
    have hjoin := isEmpty_join hbase (isAbsolute_of_isName hname)
    have hrest := ih hjoin fun other hother => hnames other (List.mem_cons_of_mem name hother)
    rw [List.map_cons, List.append_cons, ← components_join hbase hname]
    exact hrest

end Path

namespace DottedName

/-- A text that is one segment of a dotted name, and one name on a path. -/
def IsPlain (segment : String) : Prop :=
  segment ≠ "" ∧ '.' ∉ segment.toList ∧ '/' ∉ segment.toList

theorem isPlain_of_isIdentifier {segment : String} (h : isIdentifier segment = true) :
    IsPlain segment := by
  have hnotMem : ∀ c, isIdentifierPart c = false → c ∉ segment.toList := by
    intro c hc hmem
    rw [isIdentifierPart_of_mem h c hmem] at hc
    cases hc
  refine ⟨?_, hnotMem '.' (by decide), hnotMem '/' (by decide)⟩
  rintro rfl
  rw [isIdentifier_empty] at h
  cases h

theorem IsPlain.isName {segment : String} (h : IsPlain segment) : Path.IsName segment := by
  refine ⟨h.1, ?_, ?_, h.2.2⟩ <;> rintro rfl <;> exact absurd h.2.1 (by decide)

theorem IsPlain.isName_java {segment : String} (h : IsPlain segment) :
    Path.IsName (segment ++ ".java") := by
  have hjava : ".java".length = 5 := rfl
  have hlong : ∀ short : String, short.length < 5 → segment ++ ".java" ≠ short := by
    rintro short hshort rfl
    rw [String.length_append] at hshort
    omega
  refine ⟨hlong _ (by decide), hlong _ (by decide), hlong _ (by decide), ?_⟩
  rw [String.toList_append, List.mem_append, not_or]
  exact ⟨h.2.2, by decide⟩

end DottedName

namespace Placement

theorem isEmpty_sources (placement : Placement) : placement.layout.sources.isEmpty = false := by
  have hdir : ¬placement.layout.sourceDir.isEmpty = true := by
    intro h
    have hvalid := placement.valid
    rw [Layout.check, if_pos h] at hvalid
    cases hvalid
  have hne : placement.layout.sourceDir.text ≠ "" := by simpa [Path.isEmpty] using hdir
  unfold Layout.sources Path.join
  split
  · simpa using hdir
  · split <;> simp [Path.isEmpty, hne]

/-- The path of a class follows the package and the name that its qualified name is split into. -/
theorem sourcePath_eq_ok {placement : Placement} {name : String} {path : Path}
    (h : placement.sourcePath name = .ok path) :
    ∃ packages, DottedName.segments? name = some (packages ++ [(DottedName.split name).2]) ∧
      (DottedName.split name).1 = ".".intercalate packages ∧
      path = placement.layout.sources.joinAll
        (packages ++ [(DottedName.split name).2 ++ ".java"]) := by
  unfold sourcePath at h
  split at h
  next => cases h
  next segments hsegments =>
    obtain ⟨packages, rfl, hpackage⟩ := DottedName.split_of_segments? hsegments
    refine ⟨packages, hsegments, hpackage, ?_⟩
    simp only [List.getLast?_concat, List.dropLast_concat] at h
    rw [← Except.ok.inj h, Path.joinAll, Path.joinAll, List.foldl_append]
    rfl

theorem sourcePath_error {placement : Placement} {name : String} {fault : OutputError}
    (h : placement.sourcePath name = .error fault) : fault = .badName name := by
  unfold sourcePath at h
  split at h
  next => exact (Except.error.inj h).symm
  next =>
    split at h
    next => exact (Except.error.inj h).symm
    next => cases h

end Placement

/-- A table stores a unit as the kind that it finds for it. -/
theorem KindTable.store_of_find {table : KindTable} {unit : UnitPlan} {kind : UnitKind}
    (h : table.find unit.kind = .ok kind) (vars : Variables) (placement : Placement)
    (tree : FileTree) :
    table.store unit vars placement tree = kind.store unit vars placement tree := by
  rw [store, h]

namespace ClassFile

variable {unit : UnitPlan} {vars : Variables} {placement : Placement} {before after : FileTree}
  {path : Path}

/-- A class that has a place has a name, so its file fails for the file tree alone. -/
theorem store_error {error : PlanError}
    (h : classKind.store unit vars placement before = (after, .error error)) :
    error = .output (.badName unit.fullName) ∧ after = before ∨
      ∃ fault, error = .output (.io (.file fault)) := by
  simp only [classKind, store] at h
  rcases FileTree.storeEmission_refused (fun _ hplace => emits_of_place hplace vars _) h with
    ⟨hplace, hafter⟩ | ⟨hfile, _⟩
  · refine .inl ⟨?_, hafter⟩
    obtain ⟨fault, hfault, rfl⟩ := Except.mapError_eq_error.1 hplace
    rw [Placement.sourcePath_error hfault]
  · exact .inr hfile

/-- The file of a class that is stored has its layout. -/
theorem store_ok (h : classKind.store unit vars placement before = (after, .ok path)) :
    placement.sourcePath unit.fullName = .ok path ∧
      after.read path = .ok (FileLine.printAll placement.layout.style
        (layout placement.layout.style.separator vars unit (DottedName.split unit.fullName).1
          (DottedName.split unit.fullName).2)).toByteArray := by
  simp only [classKind, store] at h
  obtain ⟨hplace, _, location, hstores⟩ := FileTree.storeEmission_stores h
  have hpath := Except.mapError_eq_ok.1 hplace
  have hsink : Sink.unlimited.NeverFails := ⟨rfl, rfl⟩
  have hrender := render_eq unit vars placement.layout.style hsink
    (Placement.className_ne_empty hpath)
  refine ⟨hpath, ?_⟩
  rw [FileTree.read_eq hstores.named hstores.holds, ← render, hrender, text_eq_printAll]
  exact congrArg Except.ok ByteArray.empty_append

end ClassFile

theorem ClassFile.packageLines_intercalate {packages : List String}
    (h : ∀ segment ∈ packages, segment ≠ "") :
    packageLines (".".intercalate packages) =
      if packages = [] then [] else ["package " ++ ".".intercalate packages ++ ";", ""] := by
  cases packages with
  | nil => rfl
  | cons first rest =>
    have hfirst := h first List.mem_cons_self
    have hne : ".".intercalate (first :: rest) ≠ "" := by
      cases rest <;> simp [hfirst]
    rw [packageLines, if_neg (by simpa using hne), if_neg (List.cons_ne_nil first rest)]

/-- A class that is stored has a qualified name of plain segments, its path is that of the sources
with these segments behind it, and its file names them in its package line and its header line. It
is never refused for want of a name behind its package: a refused name touches no file, and all
other failures are faults of the file tree. -/
theorem source_matches_place (unit : UnitPlan) (vars : Variables) (placement : Placement)
    (before : FileTree) :
    (∀ name fault, (classKind.store unit vars placement before).2 ≠
      .error (.badUnit name fault)) ∧
    (∀ after error, classKind.store unit vars placement before = (after, .error error) →
      error = .output (.badName unit.fullName) ∧ after = before ∨
        ∃ fault, error = .output (.io (.file fault))) ∧
    ∀ after path, classKind.store unit vars placement before = (after, .ok path) →
      ∃ packages name, unit.fullName = ".".intercalate (packages ++ [name]) ∧
        (∀ segment ∈ packages ++ [name], DottedName.IsPlain segment) ∧
        path.components = placement.layout.sources.components ++
          (packages ++ [name ++ ".java"]).map .normal ∧
        after.read path = .ok (FileLine.printAll placement.layout.style
          (FileLine.block 0
              (ClassFile.headerLines unit.header ++
                (if packages = [] then []
                  else ["package " ++ ".".intercalate packages ++ ";", ""]) ++
                ClassFile.importLines unit.imports ++ ClassFile.docLines unit.doc ++
                [ClassFile.declaration placement.layout.style.separator unit name]) ++
            ClassFile.bodyLines placement.layout.style.separator vars unit)).toByteArray := by
  refine ⟨?_, fun after error herror => ClassFile.store_error herror, ?_⟩
  · intro name fault herror
    rcases ClassFile.store_error (Prod.ext rfl herror) with ⟨hname, _⟩ | ⟨_, hfile⟩
    · cases hname
    · cases hfile
  · intro after path hstore
    obtain ⟨hpath, hread⟩ := ClassFile.store_ok hstore
    obtain ⟨packages, hsegments, hpackage, rfl⟩ := Placement.sourcePath_eq_ok hpath
    obtain ⟨hpieces, hidentifiers⟩ := DottedName.segments?_eq_some_iff.1 hsegments
    have hplain : ∀ segment ∈ packages ++ [(DottedName.split unit.fullName).2],
        DottedName.IsPlain segment := fun segment hmem =>
      DottedName.isPlain_of_isIdentifier (hidentifiers segment hmem)
    obtain ⟨hpackages, hname⟩ := List.forall_mem_append.1 hplain
    refine ⟨packages, (DottedName.split unit.fullName).2, ?_, hplain, ?_, ?_⟩
    · rw [hpieces]
      exact (Text.intercalate_pieces '.' unit.fullName).symm
    · refine Path.components_joinAll placement.isEmpty_sources (List.forall_mem_append.2 ⟨?_, ?_⟩)
      · exact fun segment hmem => (hpackages segment hmem).isName
      · exact List.forall_mem_singleton.2 (hname _ (List.mem_singleton_self _)).isName_java
    · rw [hread, ClassFile.layout, hpackage,
        ClassFile.packageLines_intercalate fun segment hmem => (hpackages segment hmem).1]

/-- A package that is given in front of a dotted name, and a class without a package, both through
the standard table; behind two dots there is an empty segment. -/
theorem source_matches_place_glued :
    let glued : UnitPlan := { kind := "class", name := "b.C", package := some "a" }
    let alone : UnitPlan := { kind := "class", name := "É", package := some "" }
    let gap : UnitPlan := { kind := "class", name := ".C", package := some "a" }
    let placement : Placement := ⟨{}, rfl⟩
    let before := FileTree.startingAt ["w"]
    (∃ after error, classKind.store gap .empty placement before = (after, .error error) ∧
      (error = .output (.badName "a..C") ∧ after = before ∨
        ∃ fault, error = .output (.io (.file fault)))) ∧
    ∀ unit ∈ [glued, alone], ∃ after path packages name,
      KindTable.standard.store unit .empty placement before = (after, .ok path) ∧
        unit.fullName = ".".intercalate (packages ++ [name]) ∧
        path.components = placement.layout.sources.components ++
          (packages ++ [name ++ ".java"]).map .normal := by
  intro glued alone gap placement before
  refine ⟨?_, fun unit hunit => ?_⟩
  · have hrefused : (classKind.store gap .empty placement before).2.toOption = none := by
      decide +kernel
    rcases hstore : classKind.store gap .empty placement before with ⟨after, error | path⟩
    · exact ⟨after, error, rfl,
        (source_matches_place gap .empty placement before).2.1 after error hstore⟩
    · rw [hstore] at hrefused
      cases hrefused
  · have hkind : ∀ unit ∈ [glued, alone], unit.kind = "class" := by decide
    have hfind : KindTable.standard.find unit.kind = .ok classKind := by rw [hkind unit hunit]; rfl
    have hstored : ∀ unit ∈ [glued, alone],
        (classKind.store unit .empty placement before).2.toOption.isSome = true := by
      decide +kernel
    rcases hstore : classKind.store unit .empty placement before with ⟨after, error | path⟩
    · exact absurd (hstored unit hunit) (by simp [hstore, Except.toOption])
    · obtain ⟨packages, name, hname, _, hpath, _⟩ :=
        (source_matches_place unit .empty placement before).2.2 after path hstore
      rw [KindTable.store_of_find hfind, hstore]
      exact ⟨after, path, packages, name, rfl, hname, hpath⟩

end SourceEmitter
