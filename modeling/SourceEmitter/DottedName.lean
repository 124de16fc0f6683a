import SourceEmitter.Text.CharClass
import SourceEmitter.Text.Pieces

/-!
# Dotted names

A package and a name in it, written with dots between. Splitting cuts at the last dot, except that
a dot at the very start belongs to the name.
-/

namespace SourceEmitter.DottedName

/-- The package and the name; the package is empty if there is no dot behind the first
character. -/
def split (name : String) : String × String :=
  match Text.cutAtLast '.' name with
  | none => ("", name)
  | some (package, last) => if package.isEmpty then ("", name) else (package, last)

/-- The qualified name of a name in a package; in the empty package it is the name itself. -/
def ofParts (package name : String) : String :=
  if package.isEmpty then name else package ++ "." ++ name

def isIdentifierStart (c : Char) : Bool := Text.isLetter c || c == '_' || c == '$'

def isIdentifierPart (c : Char) : Bool :=
  Text.isLetter c || Text.isNumeral c || c == '_' || c == '$'

/-- Whether a text can name a package or a class. -/
def isIdentifier (segment : String) : Bool :=
  match segment.toList with
  | [] => false
  | c :: rest => isIdentifierStart c && rest.all isIdentifierPart

/-- The segments between the dots, if each is an identifier. -/
def segments? (name : String) : Option (List String) :=
  let segments := Text.pieces '.' name
  if segments.all isIdentifier then some segments else none

theorem isIdentifier_empty : isIdentifier "" = false := rfl

theorem segments?_eq_some_iff {name : String} {segments : List String} :
    segments? name = some segments ↔
      segments = Text.pieces '.' name ∧ ∀ s ∈ segments, isIdentifier s = true := by
  simp only [segments?, Option.ite_none_right_eq_some, List.all_eq_true, Option.some.injEq]
  constructor
  · rintro ⟨hall, rfl⟩
    exact ⟨rfl, hall⟩
  · rintro ⟨rfl, hall⟩
    exact ⟨hall, rfl⟩

theorem isIdentifierPart_of_mem {segment : String} (h : isIdentifier segment = true) :
    ∀ c ∈ segment.toList, isIdentifierPart c = true := by
  have hstart : ∀ c, isIdentifierStart c = true → isIdentifierPart c = true := by
    simp only [isIdentifierStart, isIdentifierPart, Bool.or_eq_true]
    rintro c ((h | h) | h) <;> simp [h]
  unfold isIdentifier at h
  split at h
  · cases h
  next c rest hsegment =>
    rw [Bool.and_eq_true, List.all_eq_true] at h
    rw [hsegment]
    exact List.forall_mem_cons.2 ⟨hstart c h.1, h.2⟩

/-- Cutting a valid name at its last dot agrees with cutting it at every dot. A dot at the very
start would leave an empty piece, which is no identifier. -/
theorem split_of_segments? {name : String} {segments : List String}
    (h : segments? name = some segments) :
    ∃ packages, segments = packages ++ [(split name).2] ∧
      (split name).1 = ".".intercalate packages := by
  obtain ⟨rfl, hall⟩ := segments?_eq_some_iff.1 h
  unfold split
  split
  next hcut => exact ⟨[], Text.pieces_of_cutAtLast_none hcut, rfl⟩
  next package last hcut =>
    have hpieces := Text.pieces_of_cutAtLast hcut
    have hpackage : ¬package.isEmpty = true := by
      intro hempty
      rw [String.isEmpty_iff.1 hempty] at hpieces
      have hmem : "" ∈ Text.pieces '.' name := by
        rw [hpieces]
        exact List.mem_append_left _ (by decide)
      exact absurd (hall "" hmem) (by rw [isIdentifier_empty]; decide)
    rw [if_neg hpackage]
    exact ⟨Text.pieces '.' package, hpieces, (Text.intercalate_pieces '.' package).symm⟩

/-- A name whose segments are identifiers does not end with the dot behind its package. -/
theorem split_ne_empty {name : String} {segments : List String}
    (h : segments? name = some segments) : (split name).2 ≠ "" := by
  obtain ⟨packages, hsegments, _⟩ := split_of_segments? h
  have hlast := (segments?_eq_some_iff.1 h).2 (split name).2 (by simp [hsegments])
  intro hempty
  rw [hempty, isIdentifier_empty] at hlast
  cases hlast

end SourceEmitter.DottedName
