import CompileTrace.FileTree.Basic

set_option autoImplicit false

/-! # Running programs

A file that is marked as a program is run by the system itself, or by the interpreter that its
first line names after a number sign and an exclamation mark. An interpreter may need another one
in turn, up to a limit. Whatever is in the way is told of the program that was to be run. -/

namespace CompileTrace

/-! ## What runs a program -/

/-- What runs a program. -/
inductive Runner
  | system
  | interpreter (path : Text)
  deriving DecidableEq, Repr

namespace Runner

/-- How many bytes of a program tell what runs it; a shorter program counts as filled up with
    zeros. -/
def headSize : Nat := 256

/-- The beginning of a program that the system runs by itself. -/
def systemMark : Bytes := [0x7F, 0x45, 0x4C, 0x46]

/-- The least size of a program that the system runs by itself: that of its header and of one entry
    in the table of its parts. -/
def systemSize : Nat := 120

/-- Where such a program tells its kind and its machine, two bytes each. -/
def kindPlace : Nat := 16

/-- The kinds that can be run, each with the machine that the system has. -/
def systemKinds : List Bytes := [[2, 0, 0x3E, 0], [3, 0, 0x3E, 0]]

/-- Where such a program tells the size of an entry in the table of its parts. -/
def entryPlace : Nat := 54

/-- The size of an entry, and the number of entries in the smallest table, two bytes each. -/
def smallestTable : Bytes := [56, 0, 1, 0]

/-- Whether the system runs a program of some content by itself. -/
def isSystemProgram (content : Bytes) : Bool :=
  let table := (content.drop entryPlace).take 4
  systemMark.isPrefixOf content && systemSize ≤ content.length
    && systemKinds.contains ((content.drop kindPlace).take 4)
    && table.take 2 == smallestTable.take 2 && table.drop 2 != [0, 0]

/-- The smallest program that the system runs by itself, with no parts told. -/
def smallestProgram : Bytes :=
  let kind := systemKinds.flatten.take 4
  let gap := fun (start stop : Nat) => List.replicate (stop - start) (0 : UInt8)
  systemMark ++ gap systemMark.length kindPlace ++ kind ++ gap (kindPlace + 4) entryPlace
    ++ smallestTable ++ gap (entryPlace + 4) systemSize

/-- The beginning of a program that names its interpreter. -/
def interpreterMark : Bytes := [0x23, 0x21]

/-- Whether a byte is a space or a tab. -/
def isGap (b : UInt8) : Bool := b == 0x20 || b == 0x09

/-- Whether a byte ends the name of an interpreter. -/
def endsName (b : UInt8) : Bool := isGap b || b == 0

/-- The name of the interpreter in the bytes after its mark. On a line that is complete a name has
    to be there; on one that is not, the name has to be complete. -/
def nameIn? (head : Bytes) : Option Bytes :=
  match head.span (fun b => b != 0x0A && b != 0) with
  | (line, 0x0A :: _) =>
    match (line.dropWhile isGap).span (fun b => !endsName b) with
    | ([], _) => none
    | (name, _) => some name
  | _ =>
    match (head.dropWhile isGap).span (fun b => !endsName b) with
    | (_, []) => none
    | (name, _) => some name

/-- What runs a program of some content, if anything does. -/
def ofContent? (content : Bytes) : Option Runner :=
  let head := (content ++ List.replicate headSize 0).take headSize
  match interpreterMark.isPrefixOf? head with
  | some rest => (nameIn? rest).map (fun name => .interpreter (Utf8.decodeLossy name))
  | none =>
    if isSystemProgram content then some .system else none

end Runner

/-! ## Running -/

/-- How many interpreters may stand between a program and the system. -/
def interpreterLimit : Nat := 5

namespace Disk

/-- The content of the program at a path, which has to be a file marked as a program. An empty path
    stands for the working directory. -/
def program (disk : Disk) (path : Text) : Except FileFault Bytes :=
  match disk.entry (if path.isEmpty then [char '.'] else path) with
  | .error (.system fault _) => .error fault
  | .error (.unusable _) => .error .missing
  | .ok .directory | .ok (.file _ false) => .error .denied
  | .ok (.file content true) => .ok content

/-- What is in the way of running a program of some content, where so many more interpreters may
    stand between. -/
def runFault? (disk : Disk) (levels : Nat) (content : Bytes) : Option FileFault :=
  match Runner.ofContent? content with
  | none => some .notRunnable
  | some .system => none
  | some (.interpreter path) =>
    match disk.program path, levels with
    | .error fault, _ => some fault
    | .ok _, 0 => some .tooManyLevels
    | .ok next, levels + 1 => disk.runFault? levels next

/-- Whether the program at a path can be run. -/
def runnable (disk : Disk) (path : Text) : Except FileError Unit :=
  match disk.program path with
  | .error fault => .error (.system fault path)
  | .ok content =>
    match disk.runFault? interpreterLimit content with
    | some fault => .error (.system fault path)
    | none => .ok ()

/-- What is in the way of running a program that is named without a slash: it is looked for in
    directories that have themselves and the ones above in them, but no such program. -/
def searchFault (name : Text) : FileFault :=
  if name = [char '.'] ∨ name = Path.parent then .denied
  else if FileTree.componentLimit < (Path.bytes name).length then .nameTooLong
  else .missing

end Disk

end CompileTrace
