import Mathlib.Data.List.Nodup
import SourceEmitter.Proofs.SeparateFiles
import SourceEmitter.Proofs.SourcePlace

/-!
# Classes that do not collide

The path of a class takes one name for each segment of its qualified name, and only the last of
them, the name of the file, holds a dot. So no path of a class begins with the path of another, and
classes below one root need no directory where the file of another class goes: whatever can be
written for each class alone can be written for all of them.
-/

namespace SourceEmitter

namespace Path

/-- Names below a root are its last steps. -/
theorem steps_joinAll {base : Path} (hbase : base.isEmpty = false) {names : List String}
    (hnames : ∀ name ∈ names, IsName name) :
    (base.joinAll names).isAbsolute = base.isAbsolute ∧
      (base.joinAll names).segments.filter isStep = base.segments.filter isStep ++ names := by
  induction names generalizing base with
  | nil => exact ⟨rfl, (List.append_nil _).symm⟩
  | cons name rest ih =>
    obtain ⟨hname, hrest⟩ := List.forall_mem_cons.1 hnames
    have hrelative := isAbsolute_of_isName hname
    have hsegments : (segments ⟨name⟩).filter isStep = [name] := by
      simp [segments, Text.pieces, Text.stretches_of_notMem hname.2.2.2, isStep, hname.1, hname.2.1]
    obtain ⟨habsolute, hsteps⟩ := ih (isEmpty_join hbase hrelative) hrest
    rw [isAbsolute_join hbase hrelative] at habsolute
    rw [filter_segments_join hbase hrelative, hsegments, List.append_assoc] at hsteps
    exact ⟨habsolute, hsteps⟩

end Path

namespace FileTree

theorem follow_names {location target : Location} {names : List String}
    (hnames : ∀ name ∈ names, Path.IsName name) (h : follow location names = .ok target) :
    target = location ++ names := by
  induction names generalizing location with
  | nil => rw [← Except.ok.inj h, List.append_nil]
  | cons name rest ih =>
    obtain ⟨⟨hempty, hcurrent, hparent, -⟩, hrest⟩ := List.forall_mem_cons.1 hnames
    obtain ⟨next, hnext, hfollow⟩ := follow_cons_iff.1 h
    have hchild : next = location ++ [name] := by
      rw [child, if_neg (by simp [hempty, hcurrent]), if_neg hparent] at hnext
      split at hnext
      · cases hnext
      · exact (Except.ok.inj hnext).symm
    rw [ih hrest hfollow, hchild, List.append_assoc, List.singleton_append]

/-- A file below a root stands where its names lead from the location of the root, and its route is
what becomes a directory. -/
theorem openNew_joinAll {tree : FileTree} {root : Path} (hroot : root.isEmpty = false)
    {names : List String} (hnames : ∀ name ∈ names, Path.IsName name) {location : Location}
    (h : (tree.openNew (root.joinAll names)).2 = .ok location) :
    ∃ top, follow (tree.start root) (root.segments.filter Path.isStep) = .ok top ∧
      location = top ++ names ∧
      ∀ x, (tree.makeParent (root.joinAll names)).1.isDirectory x = true ↔
        tree.isDirectory x = true ∨
          Passes (tree.start root) (root.segments.filter Path.isStep ++ names).dropLast x := by
  obtain ⟨hparent, hnamed, -, -⟩ := openNew_inversion (Prod.ext rfl h)
  obtain ⟨habsolute, hsteps⟩ := Path.steps_joinAll hroot hnames
  obtain ⟨hgrows, -⟩ := makeParent_grows tree (root.joinAll names)
  have hstart : tree.start (root.joinAll names) = tree.start root := by
    rw [start, start, habsolute]
  have hstart' : (tree.makeParent (root.joinAll names)).1.start (root.joinAll names) =
      tree.start root := by
    rw [start, start, hgrows.workingDirectory, habsolute]
  obtain ⟨hfollow, hroute⟩ := fileLocation_leads hnamed
  rw [hstart', hsteps] at hfollow hroute
  obtain ⟨top, htop, hlocation⟩ := follow_append_iff.1 hfollow
  refine ⟨top, htop, follow_names hnames hlocation, fun x => ⟨fun hx => ?_, ?_⟩⟩
  · have hnew := makeParent_route (Prod.ext rfl hparent) hx
    rwa [hstart, hsteps] at hnew
  · rintro (hx | hx)
    · exact hgrows.isDirectory hx
    · exact hroute x hx

/-- Of two files below one root, the first one spares the second one if its names are no first part
of the names of that one. -/
theorem spares_joinAll (tree : FileTree) {root : Path} (hroot : root.isEmpty = false)
    {first second : List String} (hfirst : ∀ name ∈ first, Path.IsName name)
    (hsecond : ∀ name ∈ second, Path.IsName name) (h : ¬first <+: second) :
    tree.Spares (root.joinAll first) (root.joinAll second) := by
  intro location place hlocation hplace
  have hfile := (openNew_inversion (Prod.ext rfl hlocation)).2.2.1
  obtain ⟨top, htop, rfl, hroute⟩ := openNew_joinAll hroot hfirst hlocation
  obtain ⟨top', htop', rfl, hroute'⟩ := openNew_joinAll hroot hsecond hplace
  obtain rfl := Except.ok.inj (htop.symm.trans htop')
  constructor
  · intro heq
    exact h (List.append_cancel_left heq ▸ List.prefix_refl second)
  refine Bool.eq_false_iff.2 fun hd => Bool.eq_false_iff.1 hfile ((hroute _).2 ?_)
  rcases (hroute' _).1 hd with hold | ⟨front, hfront, hlead⟩
  · exact .inl hold
  · have hwhole := hfront.trans (List.dropLast_prefix _)
    rcases List.prefix_or_prefix_of_prefix hwhole (List.prefix_append _ second) with hup | hdown
    · have hne : first ≠ [] := by
        rintro rfl
        exact h List.nil_prefix
      rw [List.dropLast_append_of_ne_nil hne]
      exact .inr ⟨front, hup.trans (List.prefix_append _ _), hlead⟩
    · obtain ⟨part, rfl⟩ := hdown
      have hpart : part <+: second := (List.prefix_append_right_inj _).1 hwhole
      obtain ⟨top', htop', hlead⟩ := follow_append_iff.1 hlead
      obtain rfl := Except.ok.inj (htop.symm.trans htop')
      have hsame := follow_names (fun name hname => hsecond name (hpart.subset hname)) hlead
      exact absurd (List.append_cancel_left hsame ▸ hpart) h

end FileTree

namespace DottedName

/-- The names of the file of a class begin with those of no other: the name of the file has a dot,
and the name of a package has none. -/
theorem eq_of_prefix {packages others : List String} {name other : String}
    (hothers : ∀ segment ∈ others, IsPlain segment)
    (h : packages ++ [name ++ ".java"] <+: others ++ [other ++ ".java"]) :
    packages = others ∧ name = other := by
  rcases List.prefix_concat_iff.1 h with heq | hprefix
  · obtain ⟨hpackages, hname⟩ := List.append_inj' heq rfl
    exact ⟨hpackages, (String.append_left_inj _).1 (List.singleton_inj.1 hname)⟩
  · have hmem : name ++ ".java" ∈ others := hprefix.subset (by simp)
    exact absurd (hothers _ hmem).2.1 (by simp)

end DottedName

namespace Placement

/-- Writes the files of classes, given by their qualified names, one after the other, up to the
first that cannot be written. -/
def writeClasses (placement : Placement) (tree : FileTree) :
    List (String × String) → FileTree × Except OutputError Unit
  | [] => (tree, .ok ())
  | (name, text) :: rest =>
    match tree.replaceTextAt text (placement.sourcePath name) with
    | (tree, .ok ()) => placement.writeClasses tree rest
    | (tree, .error error) => (tree, .error error)

variable {placement : Placement} {tree : FileTree} {first second : String} {a b : Path}

/-- The path of a class adds its packages and the name of its file to the sources. -/
theorem sourcePath_names (h : placement.sourcePath first = .ok a) :
    ∃ packages name, first = ".".intercalate (packages ++ [name]) ∧
      (∀ segment ∈ packages, DottedName.IsPlain segment) ∧
      (∀ segment ∈ packages ++ [name ++ ".java"], Path.IsName segment) ∧
      a = placement.layout.sources.joinAll (packages ++ [name ++ ".java"]) := by
  obtain ⟨packages, hsegments, -, hpath⟩ := sourcePath_eq_ok h
  obtain ⟨hpieces, hidentifiers⟩ := DottedName.segments?_eq_some_iff.1 hsegments
  obtain ⟨hpackages, hname⟩ := List.forall_mem_append.1 fun segment hmem =>
    DottedName.isPlain_of_isIdentifier (hidentifiers segment hmem)
  refine ⟨packages, (DottedName.split first).2, ?_, hpackages, ?_, hpath⟩
  · rw [hpieces]
    exact (Text.intercalate_pieces '.' first).symm
  · refine List.forall_mem_append.2 ⟨fun segment hmem => (hpackages segment hmem).isName, ?_⟩
    exact List.forall_mem_singleton.2 (hname _ (List.mem_singleton_self _)).isName_java

theorem components_sourcePath (h : placement.sourcePath first = .ok a) :
    ∃ names : List String, names ≠ [] ∧
      a.components = placement.layout.sources.components ++ names.map .normal := by
  obtain ⟨packages, name, -, -, hnames, rfl⟩ := sourcePath_names h
  exact ⟨_, by simp, Path.components_joinAll placement.isEmpty_sources hnames⟩

/-- The names that the path of a class adds to the sources are no first part of those of another
class. -/
theorem sourcePath_names_not_prefix (hne : first ≠ second) (ha : placement.sourcePath first = .ok a)
    (hb : placement.sourcePath second = .ok b) :
    ∃ names others, (∀ name ∈ names, Path.IsName name) ∧ (∀ name ∈ others, Path.IsName name) ∧
      a = placement.layout.sources.joinAll names ∧ b = placement.layout.sources.joinAll others ∧
      ¬names <+: others := by
  obtain ⟨packages, name, hfirst, -, hnames, hpath⟩ := sourcePath_names ha
  obtain ⟨others, other, hsecond, hothers, hnames', hpath'⟩ := sourcePath_names hb
  refine ⟨_, _, hnames, hnames', hpath, hpath', fun hprefix => hne ?_⟩
  obtain ⟨rfl, rfl⟩ := DottedName.eq_of_prefix hothers hprefix
  rw [hfirst, hsecond]

/-- The path of a class begins with that of no other. -/
theorem components_not_prefix (hne : first ≠ second) (ha : placement.sourcePath first = .ok a)
    (hb : placement.sourcePath second = .ok b) : ¬a.components <+: b.components := by
  obtain ⟨names, others, hnames, hothers, rfl, rfl, hnot⟩ := sourcePath_names_not_prefix hne ha hb
  rw [Path.components_joinAll placement.isEmpty_sources hnames,
    Path.components_joinAll placement.isEmpty_sources hothers, List.prefix_append_right_inj]
  intro hprefix
  obtain ⟨part, hpart, hmap⟩ := List.prefix_map_iff.1 hprefix
  have hinjective : Function.Injective Component.normal := fun _ _ h => Component.normal.inj h
  exact hnot (List.map_injective_iff.2 hinjective hmap ▸ hpart)

theorem spares_sourcePath (hne : first ≠ second) (ha : placement.sourcePath first = .ok a)
    (hb : placement.sourcePath second = .ok b) : tree.Spares a b := by
  obtain ⟨names, others, hnames, hothers, rfl, rfl, hnot⟩ := sourcePath_names_not_prefix hne ha hb
  exact tree.spares_joinAll placement.isEmpty_sources hnames hothers hnot

theorem writeClasses_eq_replaceTexts {files : List (String × String)} {pathOf : String → Path}
    (h : ∀ file ∈ files, placement.sourcePath file.1 = .ok (pathOf file.1)) :
    placement.writeClasses tree files =
      tree.replaceTexts (files.map fun file => (pathOf file.1, file.2)) := by
  induction files generalizing tree with
  | nil => rfl
  | cons file rest ih =>
    obtain ⟨name, text⟩ := file
    obtain ⟨hname, hrest⟩ := List.forall_mem_cons.1 h
    rw [writeClasses, hname, FileTree.replaceTextAt, List.map_cons, FileTree.replaceTexts]
    rcases tree.replaceText (pathOf name) text with ⟨next, fault | ⟨⟩⟩
    · rfl
    · exact ih hrest

/-- Classes of different names that could each be written alone are written one after the other. -/
theorem writeClasses_ok {files : List (String × String)} (hnames : (files.map Prod.fst).Nodup)
    (halone : ∀ file ∈ files,
      (tree.replaceTextAt file.2 (placement.sourcePath file.1)).2 = .ok ()) :
    (placement.writeClasses tree files).2 = .ok () ∧
      ∀ file ∈ files, ∃ path, placement.sourcePath file.1 = .ok path ∧
        (placement.writeClasses tree files).1.read path = .ok file.2.toByteArray := by
  obtain ⟨pathOf, hpaths⟩ : ∃ pathOf : String → Path, ∀ file ∈ files,
      placement.sourcePath file.1 = .ok (pathOf file.1) := by
    refine ⟨fun name => (placement.sourcePath name).toOption.getD ⟨""⟩, fun file hfile => ?_⟩
    have hok := halone file hfile
    cases hpath : placement.sourcePath file.1 with
    | error fault =>
      rw [hpath] at hok
      cases hok
    | ok path => simp [hpath, Except.toOption]
  have hpairs : files.Pairwise fun file other => file.1 ≠ other.1 := List.pairwise_map.1 hnames
  have hwritable : ∀ file ∈ files.map fun file => (pathOf file.1, file.2),
      (tree.replaceText file.1 file.2).2 = .ok () := by
    refine List.forall_mem_map.2 fun file hfile => ?_
    have hok := halone file hfile
    rwa [hpaths file hfile] at hok
  have hapart : (files.map fun file => (pathOf file.1, file.2)).Pairwise
      fun file other => tree.Apart file.1 other.1 :=
    List.pairwise_map.2 <| hpairs.imp_of_mem fun hfile hother hne =>
      ⟨spares_sourcePath hne (hpaths _ hfile) (hpaths _ hother),
        spares_sourcePath hne.symm (hpaths _ hother) (hpaths _ hfile)⟩
  obtain ⟨hwritten, hread⟩ := FileTree.replaceTexts_of_apart hwritable hapart
  rw [writeClasses_eq_replaceTexts hpaths]
  exact ⟨hwritten, fun file hfile =>
    ⟨_, hpaths file hfile, hread _ (List.mem_map_of_mem hfile)⟩⟩

end Placement

/-- The path of every class adds names to the sources. The paths of two classes of different names
differ, and neither is above the other. So whatever classes of different names could each be written
to a tree alone, they can be written to it one after the other, in any order, and each file holds
its own text then. -/
theorem classes_never_collide (placement : Placement) :
    (∀ name path, placement.sourcePath name = .ok path → ∃ names : List String, names ≠ [] ∧
      path.components = placement.layout.sources.components ++ names.map .normal) ∧
    (∀ first second a b, first ≠ second → placement.sourcePath first = .ok a →
      placement.sourcePath second = .ok b →
        a ≠ b ∧ ¬a.components <+: b.components ∧ ¬b.components <+: a.components) ∧
    ∀ (tree : FileTree) (files : List (String × String)), (files.map Prod.fst).Nodup →
      (∀ file ∈ files, (tree.replaceTextAt file.2 (placement.sourcePath file.1)).2 = .ok ()) →
        (placement.writeClasses tree files).2 = .ok () ∧
        ∀ file ∈ files, ∃ path, placement.sourcePath file.1 = .ok path ∧
          (placement.writeClasses tree files).1.read path = .ok file.2.toByteArray := by
  refine ⟨fun _ _ h => Placement.components_sourcePath h, ?_, ?_⟩
  · intro first second a b hne ha hb
    have hnot := Placement.components_not_prefix hne ha hb
    refine ⟨?_, hnot, Placement.components_not_prefix hne.symm hb ha⟩
    rintro rfl
    exact hnot (List.prefix_refl _)
  · exact fun tree files hnames halone => Placement.writeClasses_ok hnames halone

/-- A package and classes of its name and of its first part, below sources that are reached through
a directory and back. -/
theorem classes_never_collide_nested :
    let placement : Placement := ⟨{ sourceDir := ⟨"x/../src/"⟩ }, rfl⟩
    let tree := FileTree.startingAt ["w"]
    let files := [("a.b.C", "x"), ("a.b", "é"), ("a", ""), ("É.a", "y")]
    (files.map Prod.fst).Nodup ∧
      (∀ file ∈ files, (tree.replaceTextAt file.2 (placement.sourcePath file.1)).2 = .ok ()) ∧
      (placement.writeClasses tree files).2 = .ok () ∧
      ∀ file ∈ files, ∃ path, placement.sourcePath file.1 = .ok path ∧
        (placement.writeClasses tree files).1.read path = .ok file.2.toByteArray := by
  intro placement tree files
  have hnames : (files.map Prod.fst).Nodup := by decide
  have halone : ∀ file ∈ files,
      (tree.replaceTextAt file.2 (placement.sourcePath file.1)).2 = .ok () := by
    decide +kernel
  exact ⟨hnames, halone, (classes_never_collide placement).2.2 tree files hnames halone⟩

end SourceEmitter
