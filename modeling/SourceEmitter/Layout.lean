import SourceEmitter.Path
import SourceEmitter.Style

/-!
# Layouts

Where generated files go: a base directory, the roots of sources and of resources relative to it,
and the style of the texts.
-/

namespace SourceEmitter

/-- The directories and the style of generated files. -/
structure Layout where
  base : Path := ⟨"."⟩
  sourceDir : Path := ⟨"target/generated-sources"⟩
  resourceDir : Path := ⟨"src/main/resources"⟩
  style : Style := {}
deriving DecidableEq, Repr

namespace Layout

def default : Layout := {}

/-- Accepts a non-empty directory of sources, directories that are relative, and a valid style. -/
def check (layout : Layout) : Except SettingFault Unit :=
  if layout.sourceDir.isEmpty then .error .emptySourceDir
  else if layout.sourceDir.isAbsolute || layout.resourceDir.isAbsolute then
    .error .absoluteRoot
  else layout.style.check

/-- The directory of sources and of resources that belong to a package. -/
def sources (layout : Layout) : Path := layout.base.join layout.sourceDir

/-- The directory of resources that are named by their path. -/
def resources (layout : Layout) : Path := layout.base.join layout.resourceDir

end Layout

end SourceEmitter
