import CompileTrace.Invocation.Basic
import CompileTrace.Json.Shown

set_option autoImplicit false

/-! # Records of invocations

An invocation is recorded as a JSON object with four members. A record has all of them, but what
they hold is looked at only when the record is used: each is meant to be a text and may be another
value. -/

namespace CompileTrace

/-- The members that a run of a compiler is recorded by. -/
structure Record where
  language : Json
  projectFile : Json
  projectDirectory : Json
  commandLine : Json

/-- Why a value is no record: it lacks a member, or it is an array, a text or a value of another
    kind and so has no members at all. -/
inductive RecordFault
  | missingField (name : Text)
  | array
  | text
  | noMembers (kind : Text)
  deriving DecidableEq, Repr

/-- The fault in words. -/
def RecordFault.message : RecordFault → Text
  | missingField name => "Invocation is missing field " ++ name.quoted
  | array => "list indices must be integers or slices, not str"
  | text => "string indices must be integers, not 'str'"
  | noMembers kind => "'" ++ kind ++ "' object is not subscriptable"

/-- The record of an invocation. -/
def Invocation.record (i : Invocation) : Record :=
  ⟨.text i.language, .text i.projectFile, .text i.projectDirectory, .text i.commandLine⟩

namespace Record

/-- The value of a member. -/
def member (data : Json) (name : Text) : Except RecordFault Json :=
  match data with
  | .object members =>
    match Table.get? members name with
    | none => .error (.missingField name)
    | some value => .ok value
  | .array _ => .error .array
  | .text _ => .error .text
  | value => .error (.noMembers value.kindName)

/-- The record that a JSON object is; the first member that is missing is the fault. -/
def ofJson (data : Json) : Except RecordFault Record := do
  let language ← member data "language"
  let projectFile ← member data "projectFilePath"
  let projectDirectory ← member data "projectDirectory"
  let commandLine ← member data "commandLineArguments"
  .ok ⟨language, projectFile, projectDirectory, commandLine⟩

/-- The record as a JSON object. -/
def toJson (r : Record) : Json :=
  .object
    [("language", r.language),
     ("projectFilePath", r.projectFile),
     ("projectDirectory", r.projectDirectory),
     ("commandLineArguments", r.commandLine)]

/-- Whether a record is one of a given language. -/
def isOf (language : Text) (r : Record) : Bool := r.language.text? == some language

end Record

/-! ## Values that are no texts -/

/-- Why the value of a member cannot be used: it is of another kind. -/
inductive KindFault
  | commandLine (kind : Text)
  | path (kind : Text)
  deriving DecidableEq, Repr

/-- The fault in words. -/
def KindFault.message : KindFault → Text
  | .commandLine kind => "'" ++ kind ++ "' object has no attribute 'find'"
  | .path kind => "expected str, bytes or os.PathLike object, not " ++ kind

namespace Record

/-- The command line. -/
def commandLineText (r : Record) : Except KindFault Text :=
  match r.commandLine with
  | .text s => .ok s
  | value => .error (.commandLine value.kindName)

/-- The path of the project. -/
def projectFileText (r : Record) : Except KindFault Text :=
  match r.projectFile with
  | .text s => .ok s
  | value => .error (.path value.kindName)

/-- The directory of the project. A value that stands for nothing stands for no directory. -/
def projectDirectoryText (r : Record) : Except KindFault Text :=
  match r.projectDirectory with
  | .text s => .ok s
  | value => if value.isVoid then .ok [] else .error (.path value.kindName)

end Record

end CompileTrace
