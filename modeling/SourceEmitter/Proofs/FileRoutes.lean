import SourceEmitter.Proofs.Confinement
import SourceEmitter.Proofs.FileGrowth

/-!
# Routes through a tree

Where the segments of a path lead does not depend on what stands there: it is a route of locations,
and empty segments and dots do not move it. Making the directories of a path turns its route into
directories and nothing else, so a file that can be created stays creatable while other files are,
unless one of them stands on its route or a directory of theirs where it goes.
-/

namespace SourceEmitter

namespace Path

theorem slash_notMem_of_mem_segments {path : Path} {name : String} (h : name ∈ path.segments) :
    '/' ∉ name.toList := by
  obtain ⟨chars, hchars, rfl⟩ := List.mem_map.1 h
  rw [String.toList_ofList]
  exact Text.sep_notMem_of_mem_stretches hchars

theorem segments_intercalate {names : List String} (hne : names ≠ [])
    (h : ∀ name ∈ names, '/' ∉ name.toList) : segments ⟨"/".intercalate names⟩ = names := by
  induction names with
  | nil => exact absurd rfl hne
  | cons first rest ih =>
    obtain ⟨hfirst, hrest⟩ := List.forall_mem_cons.1 h
    have hname : segments ⟨first⟩ = [first] := by
      simp [segments, Text.pieces, Text.stretches_of_notMem hfirst]
    cases rest with
    | nil => rw [String.intercalate_singleton, hname]
    | cons second others =>
      have hcut : segments ⟨"/".intercalate (first :: second :: others)⟩ =
          segments ⟨first⟩ ++ segments ⟨"/".intercalate (second :: others)⟩ :=
        segments_of_cut (by simp [String.intercalate_cons_cons])
      rw [hcut, hname, ih (List.cons_ne_nil _ _) hrest, List.singleton_append]

/-- Names up to their last step, and what is behind it. -/
theorem exists_idle (names : List String) :
    ∃ idle, names = (names.reverse.dropWhile (!isStep ·)).reverse ++ idle ∧
      idle.filter isStep = [] ∧
      ∀ last ∈ (names.reverse.dropWhile (!isStep ·)).reverse.getLast?, isStep last = true := by
  refine ⟨(names.reverse.takeWhile (!isStep ·)).reverse, ?_, ?_, ?_⟩
  · rw [← List.reverse_append, List.takeWhile_append_dropWhile, List.reverse_reverse]
  · refine List.filter_eq_nil_iff.2 fun name hname => ?_
    have hidle := List.all_eq_true.1 List.all_takeWhile name (List.mem_reverse.1 hname)
    simpa using hidle
  · intro last hlast
    have hhead := List.head?_dropWhile_not (!isStep ·) names.reverse
    rw [List.getLast?_reverse, Option.mem_def] at hlast
    rw [hlast] at hhead
    simpa using hhead

/-- The first segments of a path, up to a step, are those of a path that begins where it does. -/
theorem segments_front {path : Path} {front rest : List String}
    (hsegments : path.segments = front ++ rest) (hfront : front ≠ []) (hrest : rest ≠ [])
    (hlast : ∀ last ∈ front.getLast?, isStep last = true) :
    segments ⟨"/".intercalate front⟩ = front ∧
      isAbsolute ⟨"/".intercalate front⟩ = path.isAbsolute := by
  have hparts : segments ⟨"/".intercalate front⟩ = front := by
    refine segments_intercalate hfront fun name hname => ?_
    have hmem : name ∈ path.segments := hsegments ▸ List.mem_append_left rest hname
    exact slash_notMem_of_mem_segments hmem
  refine ⟨hparts, ?_⟩
  have hempty : isEmpty ⟨"/".intercalate front⟩ = false := by
    refine Bool.eq_false_iff.2 fun hempty => ?_
    have htext : "/".intercalate front = "" := String.isEmpty_iff.1 hempty
    rw [htext, segments_empty] at hparts
    exact absurd (hlast "" (by rw [← hparts]; rfl)) (by decide)
  have htext : path.text = "/".intercalate front ++ ("/" ++ "/".intercalate rest) := by
    rw [← Text.intercalate_pieces '/' path.text]
    change "/".intercalate path.segments = _
    rw [hsegments, String.intercalate_append_of_ne_nil hfront hrest, String.append_assoc]
  have happend := isAbsolute_append hempty ("/" ++ "/".intercalate rest)
  rw [← htext] at happend
  exact happend.symm

/-- The parent of a path begins where the path does and takes the same steps but the last. -/
theorem steps_parent {path directory : Path} (h : path.parent? = some directory) :
    directory.isAbsolute = path.isAbsolute ∧
      directory.segments.filter isStep = (path.segments.filter isStep).dropLast := by
  obtain ⟨idle, hsegments, hidle, hlast⟩ := exists_idle path.segments
  unfold parent? at h
  split at h
  next last before hcut =>
    rw [hcut, List.reverse_cons] at hsegments hlast
    have hstep : isStep last = true := hlast last (by simp)
    obtain ⟨gap, hbefore, hgap, hend⟩ := exists_idle before.reverse
    rw [List.reverse_reverse] at hbefore hend
    rw [hbefore, List.append_assoc, List.append_assoc] at hsegments
    have hfilter : (path.segments.filter isStep).dropLast =
        (before.dropWhile (!isStep ·)).reverse.filter isStep := by
      rw [hsegments]
      simp [List.filter_append, hidle, hgap, hstep]
    rw [hfilter]
    generalize (before.dropWhile (!isStep ·)).reverse = kept at h hsegments hend
    split at h
    next =>
      obtain rfl := Option.some.inj h
      split
      next habsolute => exact ⟨habsolute.symm, by decide⟩
      next habsolute =>
        rw [Bool.eq_false_iff.2 habsolute]
        split <;> exact ⟨rfl, by decide⟩
    next hne =>
      obtain rfl := Option.some.inj h
      obtain ⟨hparts, habsolute⟩ := segments_front hsegments hne (by simp) hend
      exact ⟨habsolute, by rw [hparts]⟩
  next hnone =>
    rw [hnone, List.reverse_nil, List.nil_append] at hsegments
    split at h
    next hanchor =>
      obtain rfl := Option.some.inj h
      rw [hsegments, hidle]
      refine ⟨?_, by decide⟩
      cases habsolute : path.isAbsolute with
      | false => rfl
      | true => simp [anchor, habsolute] at hanchor
    next => cases h

end Path

namespace FileTree

/-- Where names lead from a location, whether or not anything is there. -/
def follow : Location → List String → Except FileFault Location
  | location, [] => .ok location
  | location, name :: rest =>
    match child location name with
    | .error fault => .error fault
    | .ok next => follow next rest

/-- A location that a first part of the names leads to. -/
def Passes (location : Location) (names : List String) (other : Location) : Prop :=
  ∃ front, front <+: names ∧ follow location front = .ok other

theorem follow_cons_iff {location target : Location} {name : String} {rest : List String} :
    follow location (name :: rest) = .ok target ↔
      ∃ next, child location name = .ok next ∧ follow next rest = .ok target := by
  rw [follow]
  cases child location name <;> simp

theorem follow_append_iff {location target : Location} {first second : List String} :
    follow location (first ++ second) = .ok target ↔
      ∃ middle, follow location first = .ok middle ∧ follow middle second = .ok target := by
  induction first generalizing location with
  | nil => simp [follow]
  | cons name rest ih =>
    simp only [List.cons_append, follow_cons_iff, ih]
    constructor
    · rintro ⟨next, hnext, middle, hrest, hsecond⟩
      exact ⟨middle, ⟨next, hnext, hrest⟩, hsecond⟩
    · rintro ⟨middle, ⟨next, hnext, hrest⟩, hsecond⟩
      exact ⟨next, hnext, middle, hrest, hsecond⟩

theorem passes_here (location : Location) (names : List String) :
    Passes location names location := ⟨[], List.nil_prefix, rfl⟩

theorem passes_nil_iff {location other : Location} :
    Passes location [] other ↔ other = location := by
  constructor
  · rintro ⟨front, hfront, hfollow⟩
    rw [List.prefix_nil.1 hfront] at hfollow
    exact (Except.ok.inj hfollow).symm
  · rintro rfl
    exact passes_here other []

theorem passes_cons_iff {location other : Location} {name : String} {rest : List String} :
    Passes location (name :: rest) other ↔
      other = location ∨ ∃ next, child location name = .ok next ∧ Passes next rest other := by
  constructor
  · rintro ⟨front, hfront, hfollow⟩
    cases front with
    | nil => exact .inl (Except.ok.inj hfollow).symm
    | cons first front =>
      obtain ⟨rfl, hrest⟩ := List.cons_prefix_cons.1 hfront
      obtain ⟨next, hnext, hfollow⟩ := follow_cons_iff.1 hfollow
      exact .inr ⟨next, hnext, front, hrest, hfollow⟩
  · rintro (rfl | ⟨next, hnext, front, hfront, hfollow⟩)
    · exact passes_here other _
    · exact ⟨name :: front, List.cons_prefix_cons.2 ⟨rfl, hfront⟩,
        follow_cons_iff.2 ⟨next, hnext, hfollow⟩⟩

/-- A segment that is no step leads nowhere. -/
theorem child_of_not_isStep {name : String} (h : Path.isStep name = false) (location : Location) :
    child location name = .ok location := by
  have hname : name = "" ∨ name = "." := by
    by_cases hempty : name = ""
    · exact .inl hempty
    · exact .inr (by simpa [Path.isStep, hempty] using h)
  rw [child, if_pos hname]

theorem follow_filter_isStep (location : Location) (names : List String) :
    follow location (names.filter Path.isStep) = follow location names := by
  induction names generalizing location with
  | nil => rfl
  | cons name rest ih =>
    cases hstep : Path.isStep name with
    | true =>
      rw [List.filter_cons_of_pos hstep, follow, follow]
      cases child location name with
      | error fault => rfl
      | ok next => exact ih next
    | false =>
      rw [List.filter_cons_of_neg (by simp [hstep]), ih, follow, child_of_not_isStep hstep]

/-- Segments that are no steps add nothing to a route. -/
theorem passes_filter_isStep {location other : Location} {names : List String} :
    Passes location (names.filter Path.isStep) other ↔ Passes location names other := by
  induction names generalizing location with
  | nil => exact Iff.rfl
  | cons name rest ih =>
    cases hstep : Path.isStep name with
    | true =>
      rw [List.filter_cons_of_pos hstep, passes_cons_iff, passes_cons_iff]
      simp only [ih]
    | false =>
      rw [List.filter_cons_of_neg (by simp [hstep]), ih, passes_cons_iff,
        child_of_not_isStep hstep]
      constructor
      · exact fun h => .inr ⟨location, rfl, h⟩
      · rintro (rfl | ⟨next, hnext, h⟩)
        · exact passes_here other _
        · obtain rfl := Except.ok.inj hnext
          exact h

variable {tree other after : FileTree} {location target : Location} {names : List String}

/-- A walk follows the names, through directories. -/
theorem walk_leads (h : tree.walk location names = .ok target) :
    follow location names = .ok target ∧
      ∀ x, Passes location names x → tree.isDirectory target = true →
        tree.isDirectory x = true := by
  induction names generalizing location with
  | nil =>
    refine ⟨h, fun x hx htarget => ?_⟩
    obtain rfl := passes_nil_iff.1 hx
    obtain rfl := Except.ok.inj h
    exact htarget
  | cons name rest ih =>
    obtain ⟨hd, next, hnext, -, hwalk⟩ := (walk_cons_iff _ _ _ _ _).1 h
    obtain ⟨hfollow, hpasses⟩ := ih hwalk
    refine ⟨follow_cons_iff.2 ⟨next, hnext, hfollow⟩, fun x hx htarget => ?_⟩
    rcases passes_cons_iff.1 hx with rfl | ⟨other, hother, hx⟩
    · exact hd
    · obtain rfl := Except.ok.inj (hnext.symm.trans hother)
      exact hpasses x hx htarget

theorem isDirectory_put_directory (h : tree.get? target = none) (x : Location) :
    (tree.put target .directory).isDirectory x = true ↔ tree.isDirectory x = true ∨ x = target := by
  rw [isDirectory_iff, isDirectory_iff, get?_put tree target x _ (ne_nil_of_get?_none h)]
  split
  next hx => simp [hx]
  next hx => simp [hx]

/-- A file stands where the steps of its path lead, and all other locations on the route are
directories. -/
theorem fileLocation_leads {path : Path} (h : tree.fileLocation path = .ok location) :
    follow (tree.start path) (path.segments.filter Path.isStep) = .ok location ∧
      ∀ x, Passes (tree.start path) (path.segments.filter Path.isStep).dropLast x →
        tree.isDirectory x = true := by
  obtain ⟨-, directory, name, hwalk, hd, hlast, hname, hchild⟩ := (fileLocation_iff _ _ _).1 h
  obtain ⟨front, hfront⟩ := List.getLast?_eq_some_iff.1 hlast
  have hsteps : path.segments.filter Path.isStep = front.filter Path.isStep ++ [name] := by
    rw [hfront, List.filter_append,
      List.filter_cons_of_pos (Bool.and_eq_true_iff.1 hname).1, List.filter_nil]
  rw [hfront, List.dropLast_concat] at hwalk
  obtain ⟨hfollow, hpasses⟩ := walk_leads hwalk
  rw [hsteps, List.dropLast_concat]
  constructor
  · rw [follow_append_iff, follow_filter_isStep]
    exact ⟨directory, hfollow, follow_cons_iff.2 ⟨location, hchild, rfl⟩⟩
  · exact fun x hx => hpasses x (passes_filter_isStep.1 hx) hd

/-- Making directories along names turns their route into directories, and nothing else. -/
theorem makeAlong_leads (h : tree.makeAlong location names = (after, .ok ())) :
    tree.isDirectory location = true ∧ (∃ target, follow location names = .ok target) ∧
      ∀ x, after.isDirectory x = true ↔
        tree.isDirectory x = true ∨ Passes location names x := by
  induction names generalizing tree location with
  | nil =>
    rw [makeAlong] at h
    obtain ⟨rfl, hd⟩ := Prod.mk.inj h
    have hdirectory := (guarded_iff.1 hd).1
    refine ⟨hdirectory, ⟨location, rfl⟩, fun x => ⟨.inl, ?_⟩⟩
    rintro (hx | hx)
    · exact hx
    · exact passes_nil_iff.1 hx ▸ hdirectory
  | cons name rest ih =>
    rw [makeAlong] at h
    split at h
    next hd =>
      split at h
      next => cases h
      next next hnext =>
        have hmade : ∀ middle : FileTree, middle.makeAlong next rest = (after, .ok ()) →
            (∀ x, middle.isDirectory x = true → tree.isDirectory x = true ∨ x = next) →
            (∀ x, tree.isDirectory x = true → middle.isDirectory x = true) →
            (∃ target, follow location (name :: rest) = .ok target) ∧
              ∀ x, after.isDirectory x = true ↔
                tree.isDirectory x = true ∨ Passes location (name :: rest) x := by
          intro middle hmake hnew hkept
          obtain ⟨-, ⟨target, hfollow⟩, hafter⟩ := ih hmake
          refine ⟨⟨target, follow_cons_iff.2 ⟨next, hnext, hfollow⟩⟩, fun x => ?_⟩
          rw [hafter, passes_cons_iff]
          constructor
          · rintro (hx | hx)
            · rcases hnew x hx with hx | rfl
              · exact .inl hx
              · exact .inr (.inr ⟨x, hnext, passes_here x rest⟩)
            · exact .inr (.inr ⟨next, hnext, hx⟩)
          · rintro (hx | rfl | ⟨other, hother, hx⟩)
            · exact .inl (hkept x hx)
            · exact .inl (hkept x hd)
            · exact .inr (Except.ok.inj (hnext.symm.trans hother) ▸ hx)
        refine ⟨hd, ?_⟩
        split at h
        next => exact hmade tree h (fun x hx => .inl hx) fun x hx => hx
        next hnone =>
          have hget : tree.get? next = none := by simpa using hnone
          have hput := isDirectory_put_directory hget
          exact hmade _ h (fun x hx => (hput x).1 hx) fun x hx => (hput x).2 (.inl hx)
    next => cases h

/-- Directories can be made along names that lead somewhere if no file stands on the route. -/
theorem makeAlong_ok (hd : tree.isDirectory location = true)
    (hfollow : follow location names = .ok target)
    (hfree : ∀ x, Passes location names x → ∀ content, tree.get? x ≠ some (.file content)) :
    (tree.makeAlong location names).2 = .ok () := by
  induction names generalizing tree location with
  | nil => simp [makeAlong, hd]
  | cons name rest ih =>
    obtain ⟨next, hnext, hrest⟩ := follow_cons_iff.1 hfollow
    have hpasses : ∀ x, Passes next rest x → ∀ content, tree.get? x ≠ some (.file content) :=
      fun x hx => hfree x (passes_cons_iff.2 (.inr ⟨next, hnext, hx⟩))
    rw [makeAlong, if_pos hd, hnext]
    simp only
    split
    next hsome =>
      refine ih ?_ hrest hpasses
      rw [isDirectory_iff]
      cases hget : tree.get? next with
      | none => simp [hget] at hsome
      | some entry =>
        cases entry with
        | directory => rfl
        | file content => exact absurd hget (hpasses next (passes_here next rest) content)
    next hnone =>
      have hget : tree.get? next = none := by simpa using hnone
      refine ih ((isDirectory_put_directory hget next).2 (.inr rfl)) hrest fun x hx content => ?_
      rw [get?_put tree next x _ (ne_nil_of_get?_none hget)]
      split
      next => simp
      next => exact hpasses x hx content

/-- The directories above a path stand on its route, if they are new. -/
theorem makeParent_route {path : Path} (h : tree.makeParent path = (after, .ok ())) {x : Location}
    (hx : after.isDirectory x = true) :
    tree.isDirectory x = true ∨
      Passes (tree.start path) (path.segments.filter Path.isStep).dropLast x := by
  unfold makeParent at h
  split at h
  next =>
    obtain ⟨rfl, -⟩ := Prod.mk.inj h
    exact .inl hx
  next directory hparent =>
    obtain ⟨habsolute, hsteps⟩ := Path.steps_parent hparent
    unfold makeDirectories at h
    split at h
    next =>
      obtain ⟨rfl, -⟩ := Prod.mk.inj h
      exact .inl hx
    next =>
      split at h
      next => cases h
      next =>
        refine (((makeAlong_leads h).2.2 x).1 hx).imp_right fun hpasses => ?_
        have hstart : tree.start directory = tree.start path := by
          rw [start, start, habsolute]
        rwa [← hsteps, passes_filter_isStep, ← hstart]

/-- Directories can also be made in a grown tree, if no file stands where one of them is to be. -/
theorem makeDirectories_carries {directory : Path} (h : (tree.makeDirectories directory).2 = .ok ())
    (hgrows : Grows tree other)
    (hfree : ∀ x, (tree.makeDirectories directory).1.isDirectory x = true →
      ∀ content, other.get? x ≠ some (.file content)) :
    (other.makeDirectories directory).2 = .ok () ∧
      ∀ x, (other.makeDirectories directory).1.isDirectory x = true ↔
        other.isDirectory x = true ∨ (tree.makeDirectories directory).1.isDirectory x = true := by
  unfold makeDirectories at h hfree ⊢
  split
  next => exact ⟨rfl, fun x => ⟨.inl, fun hx => hx.elim id hgrows.isDirectory⟩⟩
  next hempty =>
    rw [if_neg hempty] at h hfree
    cases htext : textFault directory with
    | some fault =>
      rw [htext] at h
      cases h
    | none =>
      rw [htext] at h hfree
      have hstart : other.start directory = tree.start directory := by
        rw [start, start, hgrows.workingDirectory]
      obtain ⟨hd, ⟨target, hfollow⟩, hafter⟩ := makeAlong_leads (Prod.ext rfl h)
      have hok := makeAlong_ok (hgrows.isDirectory hd) hfollow
        fun x hx => hfree x ((hafter x).2 (.inr hx))
      obtain ⟨-, -, hother⟩ := makeAlong_leads (Prod.ext rfl hok)
      simp only [hstart]
      refine ⟨hok, fun x => ?_⟩
      rw [hother, hafter]
      constructor
      · exact fun hx => hx.imp_right .inr
      · rintro (hx | hx | hx)
        · exact .inl hx
        · exact .inl (hgrows.isDirectory hx)
        · exact .inr hx

theorem makeParent_carries {path : Path} (h : (tree.makeParent path).2 = .ok ())
    (hgrows : Grows tree other)
    (hfree : ∀ x, (tree.makeParent path).1.isDirectory x = true →
      ∀ content, other.get? x ≠ some (.file content)) :
    (other.makeParent path).2 = .ok () ∧
      ∀ x, (other.makeParent path).1.isDirectory x = true ↔
        other.isDirectory x = true ∨ (tree.makeParent path).1.isDirectory x = true := by
  unfold makeParent at h hfree ⊢
  cases hparent : path.parent? with
  | none => exact ⟨rfl, fun x => ⟨.inl, fun hx => hx.elim id hgrows.isDirectory⟩⟩
  | some directory =>
    rw [hparent] at h hfree
    exact makeDirectories_carries h hgrows hfree

/-- A file is created behind the directories above it, where no directory is. -/
theorem openNew_inversion {path : Path} {location : Location}
    (h : tree.openNew path = (after, .ok location)) :
    (tree.makeParent path).2 = .ok () ∧
      (tree.makeParent path).1.fileLocation path = .ok location ∧
      (tree.makeParent path).1.isDirectory location = false ∧
      after = (tree.makeParent path).1.put location (.file ByteArray.empty) := by
  unfold openNew at h
  split at h
  next => cases h
  next parents hparents =>
    rw [hparents]
    split at h
    next => cases h
    next opened target hopen =>
      cases h
      exact ⟨rfl, openFile_inversion hopen⟩

theorem openNew_eq {path : Path} {location : Location} (hparent : (tree.makeParent path).2 = .ok ())
    (hnamed : (tree.makeParent path).1.fileLocation path = .ok location)
    (hfile : (tree.makeParent path).1.isDirectory location = false) :
    tree.openNew path =
      ((tree.makeParent path).1.put location (.file ByteArray.empty), .ok location) := by
  have hopen : (tree.makeParent path).1.openFile path =
      .ok ((tree.makeParent path).1.put location (.file ByteArray.empty), location) := by
    rw [openFile, hnamed]
    exact if_neg (Bool.eq_false_iff.1 hfile)
  have hparents : tree.makeParent path = ((tree.makeParent path).1, .ok ()) :=
    Prod.ext rfl hparent
  rw [openNew, hparents]
  simp only [hopen]

/-- A file that can be created in a tree can be created, at the same location, in a tree that it has
grown into, unless files stand where the directories above it are to be, or a directory stands where
it is to be itself. -/
theorem openNew_carries {path : Path} {location : Location}
    (h : (tree.openNew path).2 = .ok location) (hgrows : Grows tree other)
    (hfree : ∀ x, (tree.makeParent path).1.isDirectory x = true →
      ∀ content, other.get? x ≠ some (.file content))
    (hlocation : other.isDirectory location = false) :
    (other.openNew path).2 = .ok location := by
  obtain ⟨hparent, hnamed, hfile, -⟩ := openNew_inversion (Prod.ext rfl h)
  obtain ⟨hok, hdirectories⟩ := makeParent_carries hparent hgrows hfree
  obtain ⟨hgrowsAlone, hsameAlone⟩ := makeParent_grows tree path
  obtain ⟨hgrowsOther, -⟩ := makeParent_grows other path
  have hparents : Grows (tree.makeParent path).1 (other.makeParent path).1 := by
    refine ⟨?_, ?_, ?_⟩
    · rw [hgrowsOther.workingDirectory, hgrows.workingDirectory, hgrowsAlone.workingDirectory]
    · intro x hx
      rw [← isDirectory_iff] at hx ⊢
      exact (hdirectories x).2 (.inr hx)
    · intro x content hx
      have hbefore := (hsameAlone x List.not_mem_nil content).1 hx
      obtain ⟨content', hother⟩ := hgrows.file x content hbefore
      exact hgrowsOther.file x content' hother
  have hplace : (other.makeParent path).1.isDirectory location = false := by
    refine Bool.eq_false_iff.2 fun hd => ?_
    rcases (hdirectories location).1 hd with hd | hd
    · exact Bool.eq_false_iff.1 hlocation hd
    · exact Bool.eq_false_iff.1 hfile hd
  exact congrArg Prod.snd (openNew_eq hok (hparents.fileLocation hnamed) hplace)

end FileTree

end SourceEmitter
