import SourceEmitter.Proofs.ClassLayout
import SourceEmitter.Proofs.RenderedPlan

/-!
# Classes in a given package

A package that is given stands in front of the name with a dot between, and the class file cuts the
whole at its last dot again. The cut gives the package and the name back exactly if the name has no
dot; else what stands in front of the last dot of the name goes to the package line.
-/

namespace SourceEmitter

namespace Text

theorem cutListAtLast_of_notMem {sep : Char} {cs : List Char} (h : sep ∉ cs) :
    cutListAtLast sep cs = none := by
  cases hcut : cutListAtLast sep cs with
  | none => rfl
  | some parts =>
    have hparts := (cutListAtLast_eq_some hcut).1
    exact absurd (hparts ▸ List.mem_append_right _ List.mem_cons_self) h

/-- Behind a separator only the last part matters, and in front of it nothing does. -/
theorem cutListAtLast_append_sep (sep : Char) (first second : List Char) :
    cutListAtLast sep (first ++ sep :: second) =
      match cutListAtLast sep second with
      | none => some (first, second)
      | some (front, last) => some (first ++ sep :: front, last) := by
  induction first with
  | nil =>
    rw [List.nil_append, cutListAtLast]
    cases cutListAtLast sep second <;> simp
  | cons c rest ih =>
    rw [List.cons_append, cutListAtLast, ih]
    cases cutListAtLast sep second <;> simp

theorem cutAtLast_eq_none_iff {sep : Char} {s : String} :
    cutAtLast sep s = none ↔ sep ∉ s.toList := by
  rw [cutAtLast, Option.map_eq_none_iff]
  exact ⟨cutListAtLast_eq_none, cutListAtLast_of_notMem⟩

/-- The last part of a text that is cut holds no separator. -/
theorem cutAtLast_eq_some {sep : Char} {s front last : String}
    (h : cutAtLast sep s = some (front, last)) :
    s = front ++ String.singleton sep ++ last ∧ sep ∉ last.toList := by
  obtain ⟨⟨before, after⟩, hcut, hparts⟩ := Option.map_eq_some_iff.1 h
  obtain ⟨rfl, rfl⟩ := Prod.mk.inj hparts
  obtain ⟨hs, hlast⟩ := cutListAtLast_eq_some hcut
  rw [String.toList_ofList]
  refine ⟨?_, hlast⟩
  rw [← String.toList_inj]
  simp [hs]

theorem cutAtLast_append_sep (sep : Char) (first second : String) :
    cutAtLast sep (first ++ String.singleton sep ++ second) =
      match cutAtLast sep second with
      | none => some (first, second)
      | some (front, last) => some (first ++ String.singleton sep ++ front, last) := by
  have hlist : (first ++ String.singleton sep ++ second).toList =
      first.toList ++ sep :: second.toList := by simp
  rw [cutAtLast, cutAtLast, hlist, cutListAtLast_append_sep]
  cases cutListAtLast sep second.toList with
  | none => simp
  | some parts =>
    simp only [Option.map_some, Option.some.injEq, Prod.mk.injEq, and_true]
    rw [← String.toList_inj]
    simp

end Text

/-- Splitting a name that was glued to a package gives parts that glue to the same text, the last of
them without a dot. They are the same parts exactly if the name has no dot. -/
theorem DottedName.split_ofParts {package : String} (hpackage : package ≠ "") (name : String) :
    ∃ shown last, split (ofParts package name) = (shown, last) ∧ shown ≠ "" ∧
      shown ++ "." ++ last = package ++ "." ++ name ∧ '.' ∉ last.toList ∧
      ((shown, last) = (package, name) ↔ '.' ∉ name.toList) := by
  have hglued : ofParts package name = package ++ String.singleton '.' ++ name := by
    rw [ofParts, if_neg (by simpa using hpackage)]
    rfl
  have hcut := Text.cutAtLast_append_sep '.' package name
  rw [hglued, split, hcut]
  cases hname : Text.cutAtLast '.' name with
  | none =>
    have hdot := Text.cutAtLast_eq_none_iff.1 hname
    refine ⟨package, name, ?_, hpackage, rfl, hdot, iff_of_true rfl hdot⟩
    simp [hpackage]
  | some parts =>
    obtain ⟨front, last⟩ := parts
    obtain ⟨rfl, hlast⟩ := Text.cutAtLast_eq_some hname
    have hdot : '.' ∈ (front ++ String.singleton '.' ++ last).toList := by simp
    have hshown : package ++ String.singleton '.' ++ front ≠ "" := by simp [hpackage]
    refine ⟨package ++ String.singleton '.' ++ front, last, ?_, hshown, ?_, hlast, ?_⟩
    · simp [hpackage]
    · have hdotted : String.singleton '.' = "." := rfl
      simp [hdotted, String.append_assoc]
    · refine iff_of_false (fun hsame => hlast ?_) (not_not_intro hdot)
      rw [(Prod.mk.inj hsame).2]
      exact hdot

/-- A sink that has taken some bytes holds them behind the others. -/
theorem Sink.bytes_of_taken {sink : Sink} {data : ByteArray} (h : (sink.accept data).2 = none) :
    (sink.accept data).1.bytes = sink.bytes ++ data := by
  cases hroom : sink.room with
  | none => simp [accept, hroom]
  | some room =>
    by_cases hfits : data.size ≤ room
    · simp [accept, hroom, hfits]
    · simp [accept, hroom, hfits] at h

/-- What is delivered without a refusal is all there. -/
theorem Delivers.bytes_of_ok {sink : Sink} {data : ByteArray} {verdict : Except PlanError Unit}
    {result : Rendering} (h : Delivers sink data verdict result) (hok : result.2 = .ok ()) :
    result.1.bytes = sink.bytes ++ data := by
  have htaken : (sink.accept data).2 = none := by
    cases hfault : (sink.accept data).2 with
    | none => rfl
    | some fault =>
      obtain ⟨error, herror, -⟩ := h.cut fault hfault
      cases hok.symm.trans herror
  obtain ⟨count, hcount⟩ := h.taken
  rw [hcount, ← Sink.bytes_of_taken htaken]
  rfl

/-- An outlet that can be closed has a sink that can be flushed. -/
theorem Outlet.refusesFlush_of_close {sink : Sink} {data : ByteArray}
    (h : (handed sink data).close.2 = .ok ()) : sink.refusesFlush = false := by
  rw [← sink.refusesFlush_accept data]
  cases hfault : (sink.accept data).2 with
  | some fault => simp [close, handed, hfault] at h
  | none =>
    cases hrefuses : (sink.accept data).1.refusesFlush with
    | false => rfl
    | true => simp [close, handed, hfault, Sink.flush, hrefuses] at h

namespace ClassFile

variable {unit : UnitPlan} {vars : Variables} {style : Style} {sink : Sink}

/-- A class that renders has a name, and the sink that it renders to can be flushed. -/
theorem render_ok (h : (render unit vars style sink).2 = .ok ()) :
    (DottedName.split unit.fullName).2.isEmpty = false ∧ sink.refusesFlush = false := by
  obtain ⟨state, text, hrun⟩ := JavaOp.exists_text style (leavesOutlet_history unit vars
    (DottedName.split unit.fullName).1 (DottedName.split unit.fullName).2)
  simp only [Writer.applyAll_classHistory] at hrun
  obtain ⟨-, houtlet⟩ := hrun sink
  cases hname : (DottedName.split unit.fullName).2.isEmpty with
  | true => simp [render_of_isEmpty hname] at h
  | false =>
    rw [render_of_named hname] at h
    dsimp only at h
    generalize (Writer.start sink style).classFile unit vars (DottedName.split unit.fullName).1
      (DottedName.split unit.fullName).2 = w at h houtlet
    split at h
    · cases h
    have hfinish : w.finish.2 = .ok () := by
      unfold Writer.toRendering at h
      split at h
      next hdone => rw [hdone]
      next => cases h
    rw [Writer.finish_eq, houtlet, Outlet.handed_putAll] at hfinish
    exact ⟨rfl, Outlet.refusesFlush_of_close hfinish⟩

/-- A rendering that succeeds has put the whole layout into the sink. -/
theorem bytes_of_render_ok (h : (render unit vars style sink).2 = .ok ()) :
    (render unit vars style sink).1.bytes = sink.bytes ++
      (FileLine.printAll style (layout style.separator vars unit
        (DottedName.split unit.fullName).1 (DottedName.split unit.fullName).2)).toByteArray := by
  obtain ⟨hname, hsink⟩ := render_ok h
  obtain ⟨data, hdata⟩ := render_delivers unit vars style hname
  have hall : (render unit vars style .unlimited).1.bytes = data :=
    (hdata .unlimited rfl).unlimited.1
  rw [render_eq unit vars style ⟨rfl, rfl⟩ hname, text_eq_printAll] at hall
  rw [(hdata sink hsink).bytes_of_ok h, ← hall]
  exact congrArg (sink.bytes ++ ·) ByteArray.empty_append.symm

end ClassFile

/-- A class that renders in a given package names in its package line and in its header line the two
parts of package and name together that the last dot divides. They are the package and the name
that were given exactly if the name has no dot. -/
theorem given_package_takes_dotted_front {unit : UnitPlan} {package : String}
    (hunit : unit.package = some package) (hpackage : package ≠ "") (vars : Variables)
    (style : Style) {sink : Sink} (h : (ClassFile.render unit vars style sink).2 = .ok ()) :
    ∃ shown name, DottedName.split unit.fullName = (shown, name) ∧
      (ClassFile.render unit vars style sink).1.bytes = sink.bytes ++ (FileLine.printAll style
        (FileLine.block 0 (ClassFile.headerLines unit.header ++ ["package " ++ shown ++ ";", ""] ++
            ClassFile.importLines unit.imports ++ ClassFile.docLines unit.doc ++
            [ClassFile.declaration style.separator unit name]) ++
          ClassFile.bodyLines style.separator vars unit)).toByteArray ∧
      shown ++ "." ++ name = package ++ "." ++ unit.name ∧ '.' ∉ name.toList ∧
      ((shown, name) = (package, unit.name) ↔ '.' ∉ unit.name.toList) := by
  obtain ⟨shown, name, hsplit, hshown, hglued, hname, hsame⟩ :=
    DottedName.split_ofParts hpackage unit.name
  have hfull : unit.fullName = DottedName.ofParts package unit.name := by
    rw [UnitPlan.fullName, hunit, Option.getD_some]
  rw [← hfull] at hsplit
  refine ⟨shown, name, hsplit, ?_, hglued, hname, hsame⟩
  have hbytes := ClassFile.bytes_of_render_ok h
  rw [hsplit, ClassFile.layout, ClassFile.packageLines, if_neg (by simpa using hshown)] at hbytes
  exact hbytes

/-- Two ways to write one full name, on a sink that holds something and has room for little more. -/
theorem given_package_takes_dotted_front_twice :
    let plain : UnitPlan := { kind := "class", name := "C", package := some "a.b" }
    let dotted : UnitPlan := { kind := "class", name := "b.C", package := some "a" }
    let sink : Sink := ⟨"x".toByteArray, some 40, false, 0⟩
    ∀ unit ∈ [plain, dotted], ∃ package, unit.package = some package ∧ package ≠ "" ∧
      (ClassFile.render unit .empty {} sink).2 = .ok () ∧
      ∃ shown name, DottedName.split unit.fullName = (shown, name) ∧
        ((shown, name) = (package, unit.name) ↔ '.' ∉ unit.name.toList) := by
  intro plain dotted sink unit hunit
  have hgiven : ∀ unit ∈ [plain, dotted], ∃ package, unit.package = some package ∧ package ≠ "" :=
    List.forall_mem_cons.2
      ⟨⟨"a.b", rfl, by decide⟩, List.forall_mem_singleton.2 ⟨"a", rfl, by decide⟩⟩
  have hrenders : ∀ unit ∈ [plain, dotted], (ClassFile.render unit .empty {} sink).2 = .ok () := by
    decide +kernel
  obtain ⟨package, hpackage, hne⟩ := hgiven unit hunit
  obtain ⟨shown, name, hsplit, -, -, -, hsame⟩ :=
    given_package_takes_dotted_front hpackage hne .empty {} (hrenders unit hunit)
  exact ⟨package, hpackage, hne, hrenders unit hunit, shown, name, hsplit, hsame⟩

/-- A name with a dot gives its front to the package. -/
theorem class_name_moves_into_package :
    let unit : UnitPlan := { kind := "class", name := "b.C", package := some "a" }
    DottedName.split unit.fullName = ("a.b", "C") ∧
      (ClassFile.render unit .empty {} .unlimited).2 = .ok () ∧
      (ClassFile.render unit .empty {} .unlimited).1.bytes =
        "package a.b;\n\npublic class C \x7b\n\x7d\n".toByteArray := by
  decide +kernel

end SourceEmitter
