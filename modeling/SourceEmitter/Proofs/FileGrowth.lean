import SourceEmitter.Placement

/-!
# Trees that grow

Creating directories and files never removes anything: directories stay directories and files stay
files, though their content may change. A path that names the location of a file therefore names it
ever after, which is what compares files stored one after the other.
-/

namespace SourceEmitter.FileTree

/-- What was a directory or a file is one still. -/
structure Grows (before after : FileTree) : Prop where
  workingDirectory : after.workingDirectory = before.workingDirectory
  directory : ∀ location, before.get? location = some .directory →
    after.get? location = some .directory
  file : ∀ location content, before.get? location = some (.file content) →
    ∃ content', after.get? location = some (.file content')

/-- The files are the same, with the same content, at all locations but some. -/
def SameFilesBut (targets : List Location) (before after : FileTree) : Prop :=
  ∀ location, location ∉ targets → ∀ content,
    after.get? location = some (.file content) ↔ before.get? location = some (.file content)

variable {tree before middle after : FileTree}

theorem Grows.refl (tree : FileTree) : Grows tree tree :=
  ⟨rfl, fun _ h => h, fun _ content h => ⟨content, h⟩⟩

theorem Grows.trans (first : Grows before middle) (second : Grows middle after) :
    Grows before after := by
  refine ⟨second.workingDirectory.trans first.workingDirectory, ?_, ?_⟩
  · intro location h
    exact second.directory location (first.directory location h)
  · intro location content h
    obtain ⟨content', h'⟩ := first.file location content h
    exact second.file location content' h'

theorem SameFilesBut.refl (tree : FileTree) : SameFilesBut [] tree tree :=
  fun _ _ _ => Iff.rfl

theorem SameFilesBut.trans {first second : List Location}
    (hfirst : SameFilesBut first before middle) (hsecond : SameFilesBut second middle after) :
    SameFilesBut (first ++ second) before after := by
  intro location hnot content
  have hnotFirst : location ∉ first := fun h => hnot (List.mem_append_left second h)
  have hnotSecond : location ∉ second := fun h => hnot (List.mem_append_right first h)
  exact (hsecond location hnotSecond content).trans (hfirst location hnotFirst content)

theorem isDirectory_iff (tree : FileTree) (location : Location) :
    tree.isDirectory location = true ↔ tree.get? location = some .directory := by
  unfold isDirectory
  split
  next h => simp [h]
  next h => simpa using h

theorem get?_nil (tree : FileTree) : tree.get? [] = some .directory := if_pos rfl

theorem ne_nil_of_not_isDirectory {location : Location} (h : tree.isDirectory location = false) :
    location ≠ [] := by
  rintro rfl
  rw [(isDirectory_iff tree []).2 tree.get?_nil] at h
  cases h

theorem ne_nil_of_get?_none {location : Location} (h : tree.get? location = none) :
    location ≠ [] := by
  rintro rfl
  rw [tree.get?_nil] at h
  cases h

theorem guarded_iff {α : Type} {c : Prop} [Decidable c] {result : Except FileFault α}
    {fault : FileFault} {value : α} :
    (if c then result else .error fault) = .ok value ↔ c ∧ result = .ok value := by
  by_cases h : c <;> simp [h]

theorem walk_cons_iff (tree : FileTree) (location target : Location) (name : String)
    (rest : List String) :
    tree.walk location (name :: rest) = .ok target ↔
      tree.isDirectory location = true ∧ ∃ next, child location name = .ok next ∧
        (tree.get? next).isSome = true ∧ tree.walk next rest = .ok target := by
  rw [FileTree.walk]
  cases child location name <;> simp [guarded_iff]

theorem fileLocation_iff (tree : FileTree) (path : Path) (location : Location) :
    tree.fileLocation path = .ok location ↔
      textFault path = none ∧ ∃ directory name,
        tree.walk (tree.start path) path.segments.dropLast = .ok directory ∧
        tree.isDirectory directory = true ∧ path.segments.getLast? = some name ∧
        (Path.isStep name && name ≠ "..") = true ∧ child directory name = .ok location := by
  unfold FileTree.fileLocation
  cases textFault path with
  | some fault => simp
  | none =>
    cases tree.walk (tree.start path) path.segments.dropLast with
    | error fault => simp
    | ok directory =>
      cases path.segments.getLast? with
      | none => simp [guarded_iff]
      | some name => simp [guarded_iff]

/-- Steps behind a walk go on from where it led. -/
theorem walk_snoc {location directory : Location} {names : List String} (name : String)
    (hwalk : tree.walk location names = .ok directory) :
    tree.walk location (names ++ [name]) = tree.walk directory [name] := by
  induction names generalizing location with
  | nil => exact Except.ok.inj hwalk ▸ rfl
  | cons first rest ih =>
    obtain ⟨hd, next, hchild, hs, hrest⟩ := (walk_cons_iff _ _ _ _ _).1 hwalk
    rw [List.cons_append, FileTree.walk, if_pos hd, hchild]
    simp only [hs, if_true]
    exact ih hrest

/-- Reading the path of a file yields its content. -/
theorem read_eq {path : Path} {location : Location} {content : ByteArray}
    (hloc : tree.fileLocation path = .ok location)
    (hfile : tree.get? location = some (.file content)) : tree.read path = .ok content := by
  obtain ⟨htext, directory, name, hwalk, hd, hlast, _, hchild⟩ := (fileLocation_iff _ _ _).1 hloc
  obtain ⟨front, hfront⟩ := List.getLast?_eq_some_iff.1 hlast
  have hlookup : tree.walk (tree.start path) path.segments = .ok location := by
    rw [hfront, List.dropLast_concat] at hwalk
    rw [hfront, walk_snoc name hwalk]
    exact (walk_cons_iff _ _ _ _ _).2 ⟨hd, location, hchild, by rw [hfile]; rfl, rfl⟩
  simp [read, lookup, htext, hlookup, hfile]

theorem Grows.isDirectory (h : Grows before after) {location : Location}
    (hd : before.isDirectory location = true) : after.isDirectory location = true :=
  (isDirectory_iff _ _).2 (h.directory location ((isDirectory_iff _ _).1 hd))

theorem Grows.isSome (h : Grows before after) {location : Location}
    (hs : (before.get? location).isSome = true) : (after.get? location).isSome = true := by
  obtain ⟨entry, hentry⟩ := Option.isSome_iff_exists.1 hs
  cases entry with
  | directory => rw [h.directory location hentry]; rfl
  | file content =>
    obtain ⟨content', h'⟩ := h.file location content hentry
    rw [h']
    rfl

theorem Grows.walk (h : Grows before after) {location target : Location} {names : List String}
    (hwalk : before.walk location names = .ok target) : after.walk location names = .ok target := by
  induction names generalizing location with
  | nil => exact hwalk
  | cons name rest ih =>
    obtain ⟨hd, next, hchild, hs, hrest⟩ := (walk_cons_iff _ _ _ _ _).1 hwalk
    exact (walk_cons_iff _ _ _ _ _).2 ⟨h.isDirectory hd, next, hchild, h.isSome hs, ih hrest⟩

/-- A path goes on to name the same location. -/
theorem Grows.fileLocation (h : Grows before after) {path : Path} {location : Location}
    (hloc : before.fileLocation path = .ok location) : after.fileLocation path = .ok location := by
  have hstart : after.start path = before.start path := by
    rw [FileTree.start, FileTree.start, h.workingDirectory]
  obtain ⟨htext, directory, name, hwalk, hd, hname⟩ := (fileLocation_iff _ _ _).1 hloc
  rw [← hstart] at hwalk
  exact (fileLocation_iff _ _ _).2 ⟨htext, directory, name, h.walk hwalk, h.isDirectory hd, hname⟩

theorem grows_put_directory {location : Location} (h : tree.get? location = none) :
    Grows tree (tree.put location .directory) := by
  have hne := ne_nil_of_get?_none h
  refine ⟨rfl, ?_, ?_⟩
  · intro other hd
    rw [get?_put tree location other .directory hne]
    split
    · rfl
    · exact hd
  · intro other content hf
    have hother : other ≠ location := by
      rintro rfl
      rw [h] at hf
      cases hf
    refine ⟨content, ?_⟩
    rw [get?_put tree location other .directory hne, if_neg hother, hf]

theorem grows_put_file {location : Location} (h : tree.isDirectory location = false)
    (content : ByteArray) : Grows tree (tree.put location (.file content)) := by
  have hne := ne_nil_of_not_isDirectory h
  refine ⟨rfl, ?_, ?_⟩
  · intro other hd
    have hother : other ≠ location := by
      rintro rfl
      rw [(isDirectory_iff tree other).2 hd] at h
      cases h
    rw [get?_put tree location other _ hne, if_neg hother, hd]
  · intro other content' hf
    rw [get?_put tree location other _ hne]
    split
    · exact ⟨content, rfl⟩
    · exact ⟨content', hf⟩

theorem sameFilesBut_put {location : Location} (h : location ≠ []) (entry : Entry) :
    SameFilesBut [location] tree (tree.put location entry) := by
  intro other hother content
  have hne : other ≠ location := fun he => hother (he ▸ List.mem_singleton_self other)
  rw [get?_put tree location other entry h, if_neg hne]

/-- A directory where nothing was is no file, before or after. -/
theorem sameFiles_put_directory {location : Location} (h : tree.get? location = none) :
    SameFilesBut [] tree (tree.put location .directory) := by
  intro other _ content
  rw [get?_put tree location other _ (ne_nil_of_get?_none h)]
  by_cases hother : other = location
  · rw [if_pos hother, hother, h]
    simp
  · rw [if_neg hother]

/-- Making directories grows a tree and touches no file. -/
theorem makeAlong_grows (tree : FileTree) (location : Location) (names : List String) :
    Grows tree (tree.makeAlong location names).1 ∧
      SameFilesBut [] tree (tree.makeAlong location names).1 := by
  induction names generalizing tree location with
  | nil => exact ⟨Grows.refl tree, SameFilesBut.refl tree⟩
  | cons name rest ih =>
    unfold makeAlong
    split
    next =>
      cases hchild : child location name with
      | error fault => exact ⟨Grows.refl tree, SameFilesBut.refl tree⟩
      | ok next =>
        simp only
        split
        next => exact ih tree next
        next hnone =>
          have hget : tree.get? next = none := by simpa using hnone
          obtain ⟨hgrows, hsame⟩ := ih (tree.put next .directory) next
          exact ⟨(grows_put_directory hget).trans hgrows,
            (sameFiles_put_directory hget).trans hsame⟩
    next => exact ⟨Grows.refl tree, SameFilesBut.refl tree⟩

theorem makeParent_grows (tree : FileTree) (path : Path) :
    Grows tree (tree.makeParent path).1 ∧ SameFilesBut [] tree (tree.makeParent path).1 := by
  unfold makeParent
  split
  next => exact ⟨Grows.refl tree, SameFilesBut.refl tree⟩
  next directory _ =>
    unfold makeDirectories
    split
    next => exact ⟨Grows.refl tree, SameFilesBut.refl tree⟩
    next =>
      split
      next => exact ⟨Grows.refl tree, SameFilesBut.refl tree⟩
      next => exact makeAlong_grows tree _ _

/-- A tree that holds a file of some content at the location that a path names, and otherwise the
files of another tree. -/
structure Stores (path : Path) (location : Location) (content : ByteArray)
    (before after : FileTree) : Prop where
  grows : Grows before after
  named : after.fileLocation path = .ok location
  holds : after.get? location = some (.file content)
  others : SameFilesBut [location] before after

theorem openFile_inversion {path : Path} {location : Location}
    (h : tree.openFile path = .ok (after, location)) :
    tree.fileLocation path = .ok location ∧ tree.isDirectory location = false ∧
      after = tree.put location (.file ByteArray.empty) := by
  unfold openFile at h
  cases hloc : tree.fileLocation path with
  | error fault =>
    rw [hloc] at h
    cases h
  | ok target =>
    cases hd : tree.isDirectory target with
    | true => simp [hloc, hd] at h
    | false =>
      simp only [hloc, hd, Bool.false_eq_true, if_false, Except.ok.injEq, Prod.mk.injEq] at h
      obtain ⟨rfl, rfl⟩ := h
      exact ⟨rfl, hd, rfl⟩

/-- A file that is opened for writing is there and empty. -/
theorem openNew_stores {path : Path} {location : Location}
    (h : tree.openNew path = (after, .ok location)) :
    Stores path location ByteArray.empty tree after := by
  obtain ⟨hgrows, hsame⟩ := makeParent_grows tree path
  unfold openNew at h
  split at h
  next => cases h
  next parents hparents =>
    rw [hparents] at hgrows hsame
    split at h
    next => cases h
    next opened target hopen =>
      cases h
      obtain ⟨hloc, hd, rfl⟩ := openFile_inversion hopen
      have hne := ne_nil_of_not_isDirectory hd
      have hput := grows_put_file hd ByteArray.empty
      refine ⟨hgrows.trans hput, hput.fileLocation hloc, ?_, hsame.trans (sameFilesBut_put hne _)⟩
      rw [get?_put parents location location _ hne, if_pos rfl]

/-- A file that cannot be opened for writing is not touched, and no other file is. -/
theorem openNew_error {path : Path} {fault : FileFault}
    (h : tree.openNew path = (after, .error fault)) :
    Grows tree after ∧ SameFilesBut [] tree after := by
  have hparents := makeParent_grows tree path
  unfold openNew at h
  split at h
  next parents _ hmake =>
    cases h
    rwa [hmake] at hparents
  next parents hmake =>
    rw [hmake] at hparents
    split at h
    · cases h
      exact hparents
    · cases h

/-- What a stored file is given replaces all that it held. -/
theorem Stores.put {path : Path} {location : Location} {old : ByteArray}
    (h : Stores path location old before after) (content : ByteArray) :
    Stores path location content before (after.put location (.file content)) := by
  have hfile : after.isDirectory location = false := by
    simp [isDirectory, h.holds]
  have hne := ne_nil_of_not_isDirectory hfile
  have hput := grows_put_file hfile content
  refine ⟨h.grows.trans hput, hput.fileLocation h.named, ?_, ?_⟩
  · rw [get?_put after location location _ hne, if_pos rfl]
  · intro other hother content'
    rw [sameFilesBut_put hne _ other hother content']
    exact h.others other hother content'

/-- A text is written to a file that has been created. -/
theorem replaceText_inversion {path : Path} {text : String}
    (h : tree.replaceText path text = (after, .ok ())) :
    ∃ opened location, tree.openNew path = (opened, .ok location) ∧
      after = opened.put location (.file text.toByteArray) := by
  unfold replaceText openOutput at h
  rcases hopen : tree.openNew path with ⟨opened, fault | location⟩
  · simp [hopen] at h
  · simp only [hopen, Prod.mk.injEq, and_true] at h
    exact ⟨opened, location, rfl, h.symm⟩

/-- What a text that is written changes about the tree. -/
theorem replaceText_stores {path : Path} {text : String}
    (h : tree.replaceText path text = (after, .ok ())) :
    ∃ location, Stores path location text.toByteArray tree after := by
  obtain ⟨opened, location, hopen, rfl⟩ := replaceText_inversion h
  exact ⟨location, (openNew_stores hopen).put text.toByteArray⟩

/-- A text fails to be written for a fault of the file tree only, and touches no file then. -/
theorem replaceText_error {path : Path} {text : String} {error : OutputError}
    (h : tree.replaceText path text = (after, .error error)) :
    (∃ fault, error = .io (.file fault)) ∧ Grows tree after ∧ SameFilesBut [] tree after := by
  unfold replaceText openOutput at h
  rcases hopen : tree.openNew path with ⟨opened, fault | location⟩
  · simp only [hopen, Prod.mk.injEq, Except.error.injEq] at h
    obtain ⟨rfl, rfl⟩ := h
    exact ⟨⟨fault, rfl⟩, openNew_error hopen⟩
  · simp [hopen] at h

end SourceEmitter.FileTree
