/-!
# Styles

The unit of indentation, the separator of lists and the line end. A writer takes any style; `check`
says which ones a layout may hold and names the first fault.
-/

namespace SourceEmitter

inductive SettingFault where
  | emptyIndentation
  | badIndentation
  | emptySeparator
  | badLineEnd
  | emptySourceDir
  | absoluteRoot
deriving DecidableEq, Repr

def SettingFault.message : SettingFault → String
  | emptyIndentation => "Indent unit cannot be empty"
  | badIndentation => "Indent unit must consist of spaces or tabs"
  | emptySeparator => "Separator cannot be empty"
  | badLineEnd => "Line ending must be \\n or \\r\\n"
  | emptySourceDir => "Source output directory cannot be empty"
  | absoluteRoot => "Output roots must be relative to the base directory"

/-- The three texts that a writer puts between the texts it is given. -/
structure Style where
  indentation : String := "    "
  separator : String := ", "
  lineEnd : String := "\n"
deriving DecidableEq, Repr

namespace Style

def default : Style := {}

/-- Accepts a non-empty unit of blanks and tabs, a non-empty separator and a usual line end. -/
def check (style : Style) : Except SettingFault Unit :=
  if style.indentation.isEmpty then .error .emptyIndentation
  else if !style.indentation.toList.all (fun c => c = ' ' || c = '\t') then .error .badIndentation
  else if style.separator.isEmpty then .error .emptySeparator
  else if style.lineEnd ≠ "\n" ∧ style.lineEnd ≠ "\r\n" then .error .badLineEnd
  else .ok ()

end Style

end SourceEmitter
