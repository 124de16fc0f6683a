import SourceEmitter.Proofs.FileRoutes

/-!
# Files apart from each other

Files that could each be written alone can be written one after the other, in any order, if no two
of them go to one location and none needs a directory where another goes. Afterwards each holds its
own text.
-/

namespace SourceEmitter.FileTree

/-- Writes texts to files one after the other, up to the first that cannot be written. -/
def replaceTexts (tree : FileTree) : List (Path × String) → FileTree × Except OutputError Unit
  | [] => (tree, .ok ())
  | (path, text) :: rest =>
    match tree.replaceText path text with
    | (tree, .ok ()) => replaceTexts tree rest
    | (tree, .error error) => (tree, .error error)

/-- If the files of two paths can each be created, the first one stands neither where the second
one does nor where a directory above that one is needed. -/
def Spares (tree : FileTree) (first second : Path) : Prop :=
  ∀ location place, (tree.openNew first).2 = .ok location → (tree.openNew second).2 = .ok place →
    location ≠ place ∧ (tree.makeParent second).1.isDirectory location = false

def Apart (tree : FileTree) (first second : Path) : Prop :=
  tree.Spares first second ∧ tree.Spares second first

/-- What a tree has become once some files were written: what it was, with these files and the
directories above them. -/
structure Written (tree : FileTree) (files : List (Path × String)) (now : FileTree) : Prop where
  grows : Grows tree now
  directory : ∀ x, now.isDirectory x = true → tree.isDirectory x = true ∨
    ∃ file ∈ files, (tree.makeParent file.1).1.isDirectory x = true
  file : ∀ x content, now.get? x = some (.file content) →
    (∃ old, tree.get? x = some (.file old)) ∨ ∃ file ∈ files, (tree.openNew file.1).2 = .ok x
  holds : ∀ file ∈ files, ∃ location, (tree.openNew file.1).2 = .ok location ∧
    now.fileLocation file.1 = .ok location ∧
    now.get? location = some (.file file.2.toByteArray)

variable {tree now : FileTree} {files : List (Path × String)} {path : Path} {location : Location}

theorem Written.nothing (tree : FileTree) : Written tree [] tree where
  grows := Grows.refl tree
  directory := fun _ hx => .inl hx
  file := fun _ content hx => .inl ⟨content, hx⟩
  holds := nofun

theorem isDirectory_of_put_file {content : ByteArray} (h : location ≠ []) {x : Location}
    (hx : (tree.put location (.file content)).isDirectory x = true) :
    tree.isDirectory x = true := by
  rw [isDirectory_iff, get?_put tree location x _ h] at hx
  split at hx
  · cases hx
  · exact (isDirectory_iff tree x).2 hx

/-- No file that was written stands where a directory above a file apart from all is needed. -/
theorem Written.free (h : Written tree files now)
    (hspares : ∀ file ∈ files, tree.Spares file.1 path)
    (hopen : (tree.openNew path).2 = .ok location) :
    ∀ x, (tree.makeParent path).1.isDirectory x = true →
      ∀ content, now.get? x ≠ some (.file content) := by
  intro x hx content hget
  rcases h.file x content hget with ⟨old, hold⟩ | ⟨file, hfile, hplace⟩
  · obtain ⟨content', hcontent⟩ := (makeParent_grows tree path).1.file x old hold
    rw [(isDirectory_iff _ x).1 hx] at hcontent
    cases hcontent
  · rw [(hspares file hfile x location hplace hopen).2] at hx
    cases hx

/-- No directory above a file that was written stands where a file apart from all goes. -/
theorem Written.vacant (h : Written tree files now)
    (hspares : ∀ file ∈ files, tree.Spares path file.1)
    (hopen : (tree.openNew path).2 = .ok location) : now.isDirectory location = false := by
  refine Bool.eq_false_iff.2 fun hd => ?_
  rcases h.directory location hd with hold | ⟨file, hfile, hnew⟩
  · have halone := (openNew_inversion (Prod.ext rfl hopen)).2.2.1
    rw [(makeParent_grows tree path).1.isDirectory hold] at halone
    cases halone
  · obtain ⟨place, hplace, -⟩ := h.holds file hfile
    rw [(hspares file hfile location place hopen hplace).2] at hnew
    cases hnew

/-- One more file can be written, if it is apart from those that were. -/
theorem Written.step (h : Written tree files now) (text : String)
    (hopen : (tree.openNew path).2 = .ok location)
    (hapart : ∀ file ∈ files, tree.Apart path file.1) :
    ∃ after, now.replaceText path text = (after, .ok ()) ∧
      Written tree ((path, text) :: files) after := by
  have hfree := h.free (fun file hfile => (hapart file hfile).2) hopen
  have hvacant := h.vacant (fun file hfile => (hapart file hfile).1) hopen
  have hnew : now.openNew path = ((now.openNew path).1, .ok location) :=
    Prod.ext rfl (openNew_carries hopen h.grows hfree hvacant)
  obtain ⟨-, -, hfile, hopened⟩ := openNew_inversion hnew
  have hne := ne_nil_of_not_isDirectory hfile
  have hstores := (openNew_stores hnew).put text.toByteArray
  refine ⟨_, by rw [replaceText, openOutput, hnew], h.grows.trans hstores.grows, ?_, ?_, ?_⟩
  · intro x hx
    have hparent := (openNew_inversion (Prod.ext rfl hopen)).1
    have hx := isDirectory_of_put_file hne hx
    rw [hopened] at hx
    rcases ((makeParent_carries hparent h.grows hfree).2 x).1
      (isDirectory_of_put_file hne hx) with hx | hx
    · exact (h.directory x hx).imp_right fun ⟨file, hmem, hfile⟩ =>
        ⟨file, List.mem_cons_of_mem _ hmem, hfile⟩
    · exact .inr ⟨(path, text), List.mem_cons_self, hx⟩
  · intro x content hx
    by_cases hlocation : x = location
    · exact .inr ⟨(path, text), List.mem_cons_self, hlocation ▸ hopen⟩
    · have hbefore := (hstores.others x (by simpa using hlocation) content).1 hx
      exact (h.file x content hbefore).imp_right fun ⟨file, hmem, hfile⟩ =>
        ⟨file, List.mem_cons_of_mem _ hmem, hfile⟩
  · refine List.forall_mem_cons.2 ⟨⟨location, hopen, hstores.named, hstores.holds⟩, ?_⟩
    intro file hmem
    obtain ⟨place, hplace, hnamed, hcontent⟩ := h.holds file hmem
    have hother : place ≠ location := ((hapart file hmem).2 place location hplace hopen).1
    exact ⟨place, hplace, hstores.grows.fileLocation hnamed,
      (hstores.others place (by simpa using hother) _).2 hcontent⟩

theorem Written.run (h : Written tree files now) (rest : List (Path × String))
    (hopen : ∀ file ∈ rest, ∃ location, (tree.openNew file.1).2 = .ok location)
    (hapart : (rest.reverse ++ files).Pairwise fun file other => tree.Apart file.1 other.1) :
    ∃ after, now.replaceTexts rest = (after, .ok ()) ∧
      Written tree (rest.reverse ++ files) after := by
  induction rest generalizing now files with
  | nil => exact ⟨now, rfl, h⟩
  | cons file rest ih =>
    obtain ⟨path, text⟩ := file
    obtain ⟨⟨location, hlocation⟩, hrest⟩ := List.forall_mem_cons.1 hopen
    rw [List.reverse_cons, List.append_assoc, List.singleton_append] at hapart ⊢
    have hfile := (List.pairwise_append.1 hapart).2.1
    obtain ⟨next, hnext, hwritten⟩ := h.step text hlocation (List.pairwise_cons.1 hfile).1
    obtain ⟨after, hafter, hall⟩ := ih hwritten hrest hapart
    exact ⟨after, by rw [replaceTexts, hnext]; exact hafter, hall⟩

theorem openNew_of_replaceText {text : String} (h : (tree.replaceText path text).2 = .ok ()) :
    ∃ location, (tree.openNew path).2 = .ok location := by
  obtain ⟨opened, location, hopen, -⟩ := replaceText_inversion (Prod.ext rfl h)
  exact ⟨location, congrArg Prod.snd hopen⟩

/-- Files that could each be written alone and are apart from each other can be written one after
the other, and each holds its text then. -/
theorem replaceTexts_of_apart
    (halone : ∀ file ∈ files, (tree.replaceText file.1 file.2).2 = .ok ())
    (hapart : files.Pairwise fun file other => tree.Apart file.1 other.1) :
    (tree.replaceTexts files).2 = .ok () ∧
      ∀ file ∈ files, (tree.replaceTexts files).1.read file.1 = .ok file.2.toByteArray := by
  have hreverse : (files.reverse ++ []).Pairwise
      fun file other : Path × String => tree.Apart file.1 other.1 := by
    rw [List.append_nil, List.pairwise_reverse]
    exact hapart.imp fun h => ⟨h.2, h.1⟩
  obtain ⟨after, hafter, hwritten⟩ := (Written.nothing tree).run files
    (fun file hfile => openNew_of_replaceText (halone file hfile)) hreverse
  rw [hafter]
  refine ⟨rfl, fun file hfile => ?_⟩
  obtain ⟨location, -, hnamed, hcontent⟩ := hwritten.holds file (by simpa using hfile)
  exact read_eq hnamed hcontent

end SourceEmitter.FileTree
