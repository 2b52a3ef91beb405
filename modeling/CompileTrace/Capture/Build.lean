import CompileTrace.Build.Child
import CompileTrace.Capture.Basic
import CompileTrace.Capture.Reader

set_option autoImplicit false

/-! # Capturing a build

A build is captured by running it and assembling what its log recorded. The log is removed once it
was read, whatever became of the reading. -/

namespace CompileTrace

/-! ## Faults -/

/-- Why a build was not captured: it gave no result, it is not over, its recording does not become a
    workspace, or its log cannot be removed after it was read. -/
inductive CaptureError
  | build (error : BuildError)
  | unfinished
  | assembly (error : AssemblyError)
  | removal (error : FileError)
  deriving DecidableEq, Repr

namespace CaptureError

/-- The error in words. -/
def message : CaptureError → Text
  | build error => error.message
  | unfinished => "The build is not over"
  | assembly error => error.message
  | removal error => error.message

/-- What a failed or cancelled build left, if that is the error. -/
def failure? : CaptureError → Option BuildFailure
  | build (.failed failure) => some failure
  | build (.cancelled failure) => some failure
  | _ => none

end CaptureError

/-! ## Reading logs -/

/-- What is made of a log, given its path and its content or what is in the way of reading it. -/
abbrev LogReading := Text → Except FileFault Bytes → Recording

/-- The content of what stands at the path of a log, or what is in the way of reading it. -/
def LogFile.read (file? : Option LogFile) : Except FileFault Bytes :=
  match file? with
  | none => .error .missing
  | some file =>
    match file.reading? with
    | some fault => .error fault
    | none => .ok file.content

/-- The recording in a log, where so many values may lie one in the other. -/
def LogReader.read (depth : Nat) (reader : LogReader) : LogReading := fun log content =>
  match reader, content with
  | .dump, .ok content => Dump.ofContent depth log content
  | .dump, .error fault => [.error (.unreadable log (.system fault log))]

/-! ## Capturing -/

/-- What builds are captured with: how they are run, the number of bytes that a line of their
    output may have and of values that may lie one in the other in a log, the reader of their logs,
    the loader of libraries, and the language that is captured. -/
structure Capturer where
  setup : BuildSetup
  readLimit : Nat
  depth : Nat
  reader? : Option LogReader
  load : Loader
  language : Text

/-- The session that builds run in, and what assembly has used up. -/
structure CaptureState where
  session : Session
  assembly : AssemblyState

namespace CaptureState

/-- The state before anything was captured. -/
def initial : CaptureState := ⟨.start, .initial⟩

/-- The state with a log removed. -/
def removeLog (s : CaptureState) (log : Text) : CaptureState :=
  { s with session :=
      { s.session with logs := s.session.logs.filter (fun entry => entry.1 ≠ log) } }

end CaptureState

namespace Capturer

/-- What assembles the recordings. -/
def assembler (c : Capturer) : Assembler := ⟨c.setup.disk, c.load, c.language⟩

/-- Assembles what the log of a build recorded, and removes the log. A log that cannot be removed is
    left, and that is the error then, whatever came of assembling. -/
def collect (c : Capturer) (read : LogReading) (result : BuildResult) (s : CaptureState) :
    Except CaptureError Capture × CaptureState :=
  let file? := s.session.logs.get? result.log
  let recording := read result.log (LogFile.read file?)
  let (assembled, assembly) := c.assembler.assemble recording s.assembly
  let after := { s with assembly := assembly }
  match file?.bind LogFile.removal?, assembled with
  | some fault, _ => (.error (.removal (.system fault result.log)), after)
  | none, .error error => (.error (.assembly error), after.removeLog result.log)
  | none, .ok assembled => (.ok ⟨assembled, some result⟩, after.removeLog result.log)

/-- Asks for a build, and captures it once some events have passed. -/
def buildThrough (c : Capturer) (read : LogReading) (request : BuildRequest)
    (events : List SessionEvent) (s : CaptureState) : Except CaptureError Capture × CaptureState :=
  let session := (s.session.submit c.setup request).run c.setup events
  let s' : CaptureState := { s with session := session }
  match session.outcome? s.session.nextJob with
  | none => (.error .unfinished, s')
  | some (.error error) => (.error (.build error), s')
  | some (.ok result) => c.collect read result s'

/-- Runs a build to its end and captures it. Without a reader for its log nothing is run. -/
def build (c : Capturer) (child : Child) (request : BuildRequest) (s : CaptureState) :
    Except CaptureError Capture × CaptureState :=
  match c.reader? with
  | none => (.error (.build (.request .noReader)), s)
  | some reader =>
    let events := (s.session.submit c.setup request).childEvents c.readLimit child
    c.buildThrough (reader.read c.depth) request events s

/-- Captures a recording without a build. -/
def capture (c : Capturer) (recording : Recording) (s : AssemblyState) :
    Except AssemblyError Capture × AssemblyState :=
  let (assembled, after) := c.assembler.assemble recording s
  (assembled.map (fun a => ⟨a, none⟩), after)

end Capturer

end CompileTrace
