import SourceEmitter.Proofs.FileRoutes
import SourceEmitter.Proofs.Utf8Decoding

/-!
# Resources found again

A resource is looked for below the first of several roots that exists. Writing to the path that was
found keeps every root that exists, so a second look-up can only differ by a root that did not exist
before and was passed over. Such a root comes into existence only where its way and the way of the
file share a place where nothing stood.
-/

namespace SourceEmitter

/-- With a weaker test the first member found is the first of those passed over that meets it, or
else the member found before. -/
theorem find?_of_weaker {α : Type} {p q : α → Bool} (h : ∀ x, p x = true → q x = true)
    (xs : List α) :
    xs.find? q = ((xs.takeWhile (!p ·)).find? q).or (xs.find? p) := by
  induction xs with
  | nil => rfl
  | cons x rest ih =>
    cases hp : p x with
    | true => simp [hp, h x hp]
    | false => cases hq : q x <;> simp [hp, hq, ih]

namespace FileTree

variable {tree before after opened : FileTree}

theorem has_iff_walk (tree : FileTree) (path : Path) :
    tree.has path = true ↔ textFault path = none ∧
      ∃ target, tree.walk (tree.start path) path.segments = .ok target ∧
        (tree.get? target).isSome = true := by
  unfold has lookup
  cases textFault path with
  | some fault => simp [Except.isOk, Except.toBool]
  | none =>
    cases hwalk : tree.walk (tree.start path) path.segments with
    | error fault => simp [Except.isOk, Except.toBool]
    | ok target => cases htarget : tree.get? target <;> simp [Except.isOk, Except.toBool, htarget]

theorem Grows.start (h : Grows before after) (path : Path) :
    after.start path = before.start path := by
  rw [FileTree.start, FileTree.start, h.workingDirectory]

/-- What exists goes on to exist in a grown tree. -/
theorem Grows.has (h : Grows before after) {path : Path} (hhas : before.has path = true) :
    after.has path = true := by
  obtain ⟨htext, target, hwalk, htarget⟩ := (has_iff_walk _ _).1 hhas
  refine (has_iff_walk _ _).2 ⟨htext, target, ?_, h.isSome htarget⟩
  rw [h.start path]
  exact h.walk hwalk

/-- A walk that is possible in a grown tree was possible before, or it passes a place where nothing
stood. -/
theorem Grows.walk_new (h : Grows before after) {location target : Location} {names : List String}
    (hwalk : after.walk location names = .ok target) (htarget : (after.get? target).isSome = true) :
    before.walk location names = .ok target ∧ (before.get? target).isSome = true ∨
      ∃ x, Passes location names x ∧ before.get? x = none ∧ (after.get? x).isSome = true := by
  induction names generalizing location with
  | nil =>
    obtain rfl := Except.ok.inj hwalk
    cases hbefore : before.get? location with
    | none => exact .inr ⟨location, passes_here location [], hbefore, htarget⟩
    | some entry => exact .inl ⟨rfl, rfl⟩
  | cons name rest ih =>
    obtain ⟨hd, next, hnext, hsome, hrest⟩ := (walk_cons_iff _ _ _ _ _).1 hwalk
    have hdirectory := (isDirectory_iff after location).1 hd
    cases hbefore : before.get? location with
    | none => exact .inr ⟨location, passes_here _ _, hbefore, by rw [hdirectory]; rfl⟩
    | some entry =>
      cases entry with
      | file content =>
        obtain ⟨content', hfile⟩ := h.file location content hbefore
        cases hfile.symm.trans hdirectory
      | directory =>
        have hd' := (isDirectory_iff before location).2 hbefore
        have hpasses : ∀ x, Passes next rest x → Passes location (name :: rest) x :=
          fun x hx => passes_cons_iff.2 (.inr ⟨next, hnext, hx⟩)
        cases hthere : before.get? next with
        | none => exact .inr ⟨next, hpasses next (passes_here next rest), hthere, hsome⟩
        | some there =>
          refine (ih hrest).imp (fun ⟨hwalk', htarget'⟩ => ?_) fun ⟨x, hx, hnew⟩ =>
            ⟨x, hpasses x hx, hnew⟩
          refine ⟨(walk_cons_iff _ _ _ _ _).2 ⟨hd', next, hnext, ?_, hwalk'⟩, htarget'⟩
          rw [hthere]
          rfl

/-- A path that has come to exist passes a place where nothing stood. -/
theorem Grows.has_new (h : Grows before after) {path : Path} (hbefore : before.has path = false)
    (hafter : after.has path = true) :
    ∃ x, Passes (before.start path) path.segments x ∧ before.get? x = none ∧
      (after.get? x).isSome = true := by
  obtain ⟨htext, target, hwalk, htarget⟩ := (has_iff_walk _ _).1 hafter
  rw [h.start path] at hwalk
  rcases h.walk_new hwalk htarget with ⟨hwalk', htarget'⟩ | hnew
  · have hhad := (has_iff_walk before path).2 ⟨htext, target, hwalk', htarget'⟩
    cases hbefore.symm.trans hhad
  · exact hnew

/-- Reading the path of a text that was written yields the text. -/
theorem readText_replaceText {path : Path} {text : String}
    (h : tree.replaceText path text = (after, .ok ())) : after.readText path = .ok text := by
  obtain ⟨location, hstores⟩ := replaceText_stores h
  have hread := read_eq hstores.named hstores.holds
  simp only [readText, hread, Text.Utf8.decode_text]

/-- What is new after a file is created stands on the way of its path. -/
theorem openNew_new {path : Path} {location : Location}
    (h : tree.openNew path = (after, .ok location)) {x : Location} (hbefore : tree.get? x = none)
    (hafter : (after.get? x).isSome = true) : Passes (tree.start path) path.segments x := by
  obtain ⟨hparent, hnamed, hfile, rfl⟩ := openNew_inversion h
  obtain ⟨hgrows, hsame⟩ := makeParent_grows tree path
  rw [← passes_filter_isStep]
  by_cases hx : x = location
  · have hlead := (fileLocation_leads hnamed).1
    rw [hgrows.start path] at hlead
    exact hx ▸ ⟨_, List.prefix_refl _, hlead⟩
  rw [get?_put _ location x _ (ne_nil_of_not_isDirectory hfile), if_neg hx] at hafter
  obtain ⟨entry, hentry⟩ := Option.isSome_iff_exists.1 hafter
  cases entry with
  | file content =>
    have hhad := (hsame x List.not_mem_nil content).1 hentry
    cases hbefore.symm.trans hhad
  | directory =>
    have hd := (isDirectory_iff _ x).2 hentry
    rcases makeParent_route (Prod.ext rfl hparent) hd with hhad | ⟨front, hfront, hlead⟩
    · cases hbefore.symm.trans ((isDirectory_iff tree x).1 hhad)
    · exact ⟨front, hfront.trans (List.dropLast_prefix _), hlead⟩

theorem replaceText_new {path : Path} {text : String}
    (h : tree.replaceText path text = (after, .ok ())) {x : Location}
    (hbefore : tree.get? x = none) (hafter : (after.get? x).isSome = true) :
    Passes (tree.start path) path.segments x := by
  obtain ⟨opened, location, hopen, rfl⟩ := replaceText_inversion h
  have hstores := openNew_stores hopen
  refine openNew_new hopen hbefore ?_
  by_cases hx : x = location
  · rw [hx, hstores.holds]
    rfl
  · rwa [get?_put _ location x _ ?_, if_neg hx] at hafter
    rintro rfl
    cases hstores.holds.symm.trans (get?_nil opened)

/-- A path comes to exist by the writing of a file only where the ways of both pass a place where
nothing stood. -/
theorem has_replaceText {path other : Path} {text : String}
    (h : tree.replaceText path text = (after, .ok ())) (hbefore : tree.has other = false)
    (hafter : after.has other = true) :
    ∃ x, tree.get? x = none ∧ Passes (tree.start other) other.segments x ∧
      Passes (tree.start path) path.segments x := by
  obtain ⟨location, hstores⟩ := replaceText_stores h
  obtain ⟨x, hpasses, hnone, hsome⟩ := hstores.grows.has_new hbefore hafter
  exact ⟨x, hnone, hpasses, replaceText_new h hnone hsome⟩

end FileTree

namespace Placement

/-- The roots that are tried before the sources, in order. -/
def roots (placement : Placement) (candidates : List Path) : List Path :=
  candidates.map placement.layout.base.join ++ [placement.layout.resources]

/-- The roots that are tried in vain, in front of the one that is taken. -/
def passedOver (placement : Placement) (tree : FileTree) (candidates : List Path) : List Path :=
  (placement.roots candidates).takeWhile (!tree.has ·)

theorem bestRoot_eq_find? (placement : Placement) (tree : FileTree) (candidates : List Path) :
    placement.bestRoot tree candidates =
      ((placement.roots candidates).find? tree.has).getD placement.layout.sources := by
  rw [bestRoot, roots, List.find?_append]
  cases (candidates.map placement.layout.base.join).find? tree.has with
  | some root => rfl
  | none => cases hthere : tree.has placement.layout.resources <;> simp [hthere]

/-- In a grown tree the best root is the first of those passed over before that exists now, or else
the same as before. -/
theorem bestRoot_of_grows (placement : Placement) {before after : FileTree}
    (h : before.Grows after) (candidates : List Path) :
    placement.bestRoot after candidates =
      ((placement.passedOver before candidates).find? after.has).getD
        (placement.bestRoot before candidates) := by
  rw [bestRoot_eq_find?, find?_of_weaker (fun _ => h.has) (placement.roots candidates),
    ← passedOver, bestRoot_eq_find?]
  cases (placement.passedOver before candidates).find? after.has <;> rfl

theorem not_has_of_mem_passedOver {placement : Placement} {tree : FileTree}
    {candidates : List Path} {root : Path} (h : root ∈ placement.passedOver tree candidates) :
    tree.has root = false := by
  have hnot := List.all_eq_true.1 List.all_takeWhile root h
  simpa using hnot

end Placement

/-- A resource that was found and written holds its text, and no other file is changed. Looked up
again it is found below the first of the roots passed over before that exists now, and at the same
path if none of them does. A root that was passed over exists now only if its way and the way of the
file pass a place where nothing stood. -/
theorem written_resource_is_found (placement : Placement) {before after : FileTree}
    {name text : String} {candidates : List Path} {path : Path}
    (hfind : placement.findResource before name candidates = .ok path)
    (hwrite : before.replaceText path text = (after, .ok ())) :
    let passed := placement.passedOver before candidates
    ((∀ root ∈ passed, after.has root = false) →
      placement.findResource after name candidates = .ok path) ∧
    placement.findResource after name candidates =
      .ok (((passed.find? after.has).getD (placement.bestRoot before candidates)).join
        (Placement.withoutLeadingSlashes name)) ∧
    (∀ root ∈ passed, after.has root = true → ∃ x, before.get? x = none ∧
      FileTree.Passes (before.start root) root.segments x ∧
      FileTree.Passes (before.start path) path.segments x) ∧
    after.readText path = .ok text ∧
    ∃ location, after.fileLocation path = .ok location ∧
      FileTree.SameFilesBut [location] before after := by
  intro passed
  let request := ResourceRequest.belowBest name candidates
  obtain ⟨location, hstores⟩ := FileTree.replaceText_stores hwrite
  obtain ⟨haccepted, hpath⟩ := ResourceRequest.place_eq_ok placement before request hfind
  have hagain : placement.findResource after name candidates =
      .ok (((passed.find? after.has).getD (placement.bestRoot before candidates)).join
        (Placement.withoutLeadingSlashes name)) := by
    rw [← placement.bestRoot_of_grows hstores.grows]
    exact ResourceRequest.place_of_not_isRefused placement after haccepted
  refine ⟨fun hnone => ?_, hagain, ?_, FileTree.readText_replaceText hwrite, location,
    hstores.named, hstores.others⟩
  · have hfirst : passed.find? after.has = none := by
      rw [List.find?_eq_none]
      exact fun root hroot => Bool.eq_false_iff.1 (hnone root hroot)
    rw [hagain, hfirst, hpath]
    rfl
  · intro root hroot hthere
    exact FileTree.has_replaceText hwrite (Placement.not_has_of_mem_passedOver hroot) hthere

/-- A candidate that stays missing, and the resource root, which was there before. -/
theorem written_resource_is_found_below_resources :
    let placement : Placement := ⟨{}, rfl⟩
    let before := ((FileTree.startingAt ["w"]).makeDirectories ⟨"src/main/resources"⟩).1
    let candidates : List Path := [⟨"missing"⟩]
    let path : Path := ⟨"./src/main/resources/a/x"⟩
    placement.findResource before "/a/x" candidates = .ok path ∧
      ∃ after, before.replaceText path "hello" = (after, .ok ()) ∧
        placement.findResource after "/a/x" candidates = .ok path ∧
        after.readText path = .ok "hello" := by
  intro placement before candidates path
  let after := (before.replaceText path "hello").1
  have hfind : placement.findResource before "/a/x" candidates = .ok path := by decide +kernel
  have hwritten : (before.replaceText path "hello").2 = .ok () := by decide +kernel
  have hwrite : before.replaceText path "hello" = (after, .ok ()) := Prod.ext rfl hwritten
  have hnone : ∀ root ∈ placement.passedOver before candidates, after.has root = false := by
    decide +kernel
  obtain ⟨hsame, -, -, hread, -⟩ := written_resource_is_found placement hfind hwrite
  exact ⟨hfind, after, hwrite, hsame hnone, hread⟩

/-- The way to the written file makes the first candidate a directory, so the next look-up goes
there and finds nothing. -/
theorem written_resource_is_lost :
    let placement : Placement := ⟨{}, rfl⟩
    let before := FileTree.startingAt ["w"]
    let path : Path := ⟨"./target/generated-sources/x"⟩
    let after := (before.replaceText path "hello").1
    placement.findResource before "x" [⟨"target"⟩] = .ok path ∧
      (before.replaceText path "hello").2 = .ok () ∧
      placement.findResource after "x" [⟨"target"⟩] = .ok ⟨"./target/x"⟩ ∧
      after.readText ⟨"./target/x"⟩ = .error .notFound := by
  decide +kernel

end SourceEmitter
