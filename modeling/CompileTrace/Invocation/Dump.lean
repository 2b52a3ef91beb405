import CompileTrace.FileTree.Basic
import CompileTrace.Invocation.Record
import CompileTrace.Json.Reader
import CompileTrace.Json.Writer
import CompileTrace.Text.Newline
import CompileTrace.Text.Pieces

set_option autoImplicit false

/-! # Invocation dumps

A dump is a file with an invocation on each line, as a JSON object. Blank lines hold nothing but
are counted. Every line is read on its own, so that the lines before a bad one can still be
used. -/

namespace CompileTrace

/-- What is wrong with a dump or with one of its lines. -/
inductive DumpError
  | unreadable (path : Text) (error : FileError)
  | undecodable (fault : Utf8.Fault)
  | invalidJson (path : Text) (line : Nat) (fault : JsonFault)
  | notAnObject (path : Text) (line : Nat)
  | beyond (limit : JsonLimit)
  | record (fault : RecordFault)
  deriving DecidableEq, Repr

namespace DumpError

/-- The place of a line in a dump. -/
def place (path : Text) (line : Nat) : Text := path ++ ":" ++ Text.ofNat line

/-- The error in words. What can be no path at all is not named as one. -/
def message : DumpError → Text
  | unreadable _ (.unusable fault) => fault.message
  | unreadable path error => "Cannot read invocation log " ++ path ++ ": " ++ error.message
  | undecodable fault => fault.message
  | invalidJson path line fault =>
    place path line ++ ": invalid JSON (" ++ fault.message ++ ")"
  | notAnObject path line => place path line ++ ": expected an object"
  | beyond limit => limit.message
  | record fault => fault.message

end DumpError

/-- What a dump gives, one entry for each line that is not blank: the record of an invocation, or
    what is wrong there. -/
abbrev Recording := List (Except DumpError Record)

namespace Recording

/-- The recording of some invocations. -/
def ofInvocations (invocations : List Invocation) : Recording :=
  invocations.map (fun i => .ok i.record)

/-- The records up to the first error. -/
def records (recording : Recording) : List Record :=
  match recording with
  | [] => []
  | .error _ :: _ => []
  | .ok r :: rest => r :: records rest

/-- The first error. -/
def error? (recording : Recording) : Option DumpError :=
  recording.findSome? (fun entry => match entry with | .error e => some e | .ok _ => none)

end Recording

namespace Dump

/-- What the text of a line gives, where so many values may lie one in the other. A value that is
    beyond a limit is told without its place. -/
def entry (levels : Nat) (path : Text) (number : Nat) (line : Text) : Except DumpError Record :=
  match Json.read levels line with
  | .error (.beyond limit) => .error (.beyond limit)
  | .error fault => .error (.invalidJson path number fault)
  | .ok (.object members) => (Record.ofJson (.object members)).mapError .record
  | .ok _ => .error (.notAnObject path number)

/-- What the text of a dump gives. -/
def ofText (levels : Nat) (path text : Text) : Recording :=
  ((text.fieldsBy (· == char '\n')).zipIdx 1).filterMap (fun line =>
    let trimmed := line.1.trim
    if trimmed.isEmpty then none else some (entry levels path line.2 trimmed))

/-- The number of bytes of a dump that are read at once. -/
def pieceSize : Nat := 8192

/-- What the content of a dump gives; bytes that are no text spoil all of it. -/
def ofContent (levels : Nat) (path : Text) (content : Bytes) : Recording :=
  match Utf8.decode content with
  | .error fault => [.error (.undecodable (fault.inPieces pieceSize content))]
  | .ok text => ofText levels path text.unifyNewlines

end Dump

/-- What the dump at a path gives, where so many values may lie one in the other. -/
def Disk.readDump (disk : Disk) (levels : Nat) (path : Text) : Recording :=
  match disk.read path with
  | .error error => [.error (.unreadable path error)]
  | .ok content => Dump.ofContent levels path content

end CompileTrace
