import CompileTrace.FileTree.Basic
import CompileTrace.Text.Newline

set_option autoImplicit false

/-! # Source texts

A source file is UTF-8, with or without a byte order mark, and its lines end in any of the usual
ways. Its text has neither the mark nor a carriage return. -/

namespace CompileTrace

/-- Why a source file gives no text. -/
inductive SourceError
  | unreadable (path : Text) (error : FileError)
  | undecodable (path : Text) (fault : Utf8.Fault)
  deriving DecidableEq, Repr

/-- The error in words. What can be no path at all is not named as one. -/
def SourceError.message : SourceError → Text
  | .unreadable _ (.unusable fault) => fault.message
  | .unreadable path error => "Unable to read source file " ++ path ++ ": " ++ error.message
  | .undecodable path fault => "Unable to read source file " ++ path ++ ": " ++ fault.message

/-- The text that the content of a source file writes. -/
def sourceText (content : Bytes) : Except Utf8.Fault Text :=
  (Utf8.decode (Utf8.dropMark content)).map Text.unifyNewlines

/-- The text of the source file at a path. -/
def Disk.readSource (disk : Disk) (path : Text) : Except SourceError Text :=
  match disk.read path with
  | .error error => .error (.unreadable path error)
  | .ok content =>
    match sourceText content with
    | .error fault => .error (.undecodable path fault)
    | .ok text => .ok text

end CompileTrace
