/-!
# Replacing every occurrence of a pattern

Occurrences are taken from left to right and do not overlap; the replacement is not searched
again. Patterns are never empty where this library uses them.
-/

namespace SourceEmitter.Text

/-- The text behind its first `skip` characters, which belong to an occurrence already replaced,
with the occurrences in it replaced. -/
def replaceFrom (pattern replacement : List Char) : Nat → List Char → List Char
  | _, [] => []
  | skip + 1, _ :: rest => replaceFrom pattern replacement skip rest
  | 0, c :: rest =>
    if pattern.isPrefixOf (c :: rest) then
      replacement ++ replaceFrom pattern replacement (pattern.length - 1) rest
    else c :: replaceFrom pattern replacement 0 rest

/-- The text with every occurrence of a non-empty pattern replaced. -/
def replaceAll (pattern replacement text : List Char) : List Char :=
  replaceFrom pattern replacement 0 text

theorem replaceAll_nil (pattern replacement : List Char) :
    replaceAll pattern replacement [] = [] := rfl

theorem replaceAll_cons_of_not {c : Char} {pattern rest : List Char}
    (h : pattern.isPrefixOf (c :: rest) = false) (replacement : List Char) :
    replaceAll pattern replacement (c :: rest) = c :: replaceAll pattern replacement rest := by
  simp [replaceAll, replaceFrom, h]

theorem replaceFrom_skip (pattern replacement skipped text : List Char) :
    replaceFrom pattern replacement skipped.length (skipped ++ text) =
      replaceAll pattern replacement text := by
  induction skipped with
  | nil => rfl
  | cons c rest ih => simpa [replaceFrom] using ih

/-- An occurrence at the start is replaced, and the search goes on behind it. -/
theorem replaceAll_append_self (c : Char) (pattern replacement text : List Char) :
    replaceAll (c :: pattern) replacement (c :: pattern ++ text) =
      replacement ++ replaceAll (c :: pattern) replacement text := by
  have h : (c :: pattern).isPrefixOf (c :: (pattern ++ text)) = true := by
    simp [List.isPrefixOf_iff_prefix]
  simpa [replaceAll, replaceFrom, h] using replaceFrom_skip (c :: pattern) replacement pattern text

end SourceEmitter.Text
