import SourceEmitter.Sink
import SourceEmitter.Style
import SourceEmitter.Text.Utf8

/-!
# What output fails with

Texts themselves never fail; sinks, settings, names and files do. The wording of a failed file
operation and of a document that cannot be read is left to whoever reports it.
-/

namespace SourceEmitter

inductive FileFault where
  | notFound
  | notDirectory
  | isDirectory
  | nameTooLong
  | nulInPath
  | notUtf8
deriving DecidableEq, Repr

inductive IoFault where
  | sink (fault : SinkFault)
  | file (fault : FileFault)
deriving DecidableEq, Repr

/-- The wording of a failed operation, where this library has one. -/
def IoFault.message? : IoFault → Option String
  | sink fault => some ("IO error: " ++ fault.message)
  | file _ => none

inductive OutputError where
  | io (fault : IoFault)
  | badSettings (fault : SettingFault)
  | badName (name : String)
  | utf8 (fault : Text.Utf8.Fault)
  | unreadable
deriving DecidableEq, Repr

/-- The wording of an error, where this library has one. -/
def OutputError.message? : OutputError → Option String
  | io fault => fault.message?
  | badSettings fault => some ("Invalid configuration: " ++ fault.message)
  | badName name => some ("Invalid qualified name: " ++ name)
  | utf8 fault => some ("Output is not valid UTF-8: " ++ fault.message)
  | unreadable => none

end SourceEmitter
