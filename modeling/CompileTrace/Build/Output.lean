import CompileTrace.Text.Blank
import CompileTrace.Text.Utf8

set_option autoImplicit false

/-! # Output of a build

A build writes lines to two streams. The lines that hold something are kept in the order in which
they arrive, long ones cut; when they get too many in all, the oldest are dropped. -/

namespace CompileTrace

/-! ## Lines of a stream -/

/-- The number of bytes that a line may have before its line feed, unless set otherwise. -/
def defaultReadLimit : Nat := 1024 * 1024

/-- What is kept in the stead of a line that has too many bytes to be read. -/
def droppedLine (readLimit : Nat) : Text :=
  "...[line longer than " ++ Text.ofNat readLimit ++ " bytes dropped]"

/-- The text of a line of a stream, if it holds something: bytes that are no text are replaced, and
    carriage returns at the end removed. -/
def lineText? (readLimit : Nat) (line : Bytes) : Option Text :=
  if readLimit < line.length then some (droppedLine readLimit)
  else
    let text := Text.dropEndWhile (fun c => c = '\r' || c = '\n') (Utf8.decodeLossy line)
    if text.isAllBlank then none else some text

/-- The texts of the lines of a stream. -/
def streamLines (readLimit : Nat) (stream : Bytes) : List Text :=
  (fields (· == 10) stream).filterMap (lineText? readLimit)

/-- The bytes of a stream after its last line feed. -/
def openLine (stream : Bytes) : Bytes := (stream.reverse.takeWhile (· != 10)).reverse

/-- A stream cut in what is read as soon as it is written and what is read when the stream ends. The
    line after the last line feed waits for its end, unless it is too long already. -/
def splitOpenLine (readLimit : Nat) (stream : Bytes) : Bytes × Bytes :=
  let last := openLine stream
  if readLimit < last.length then (stream, [])
  else (stream.take (stream.length - last.length), last)

/-! ## The buffer -/

/-- The number of characters that a line keeps. -/
def lineLimit : Nat := 10000

/-- The number of characters that are kept in all. -/
def outputLimit : Nat := 5000000

/-- The mark at the end of a line that was cut. -/
def cutMark : Text := "...[truncated]"

/-- A line cut to the length that is kept. -/
def cutLine (line : Text) : Text :=
  if lineLimit < line.length then line.take lineLimit ++ cutMark else line

/-- The lines kept so far: the older ones in order, the newer ones last first, and the number of
    characters of all. -/
structure OutputBuffer where
  older : List Text
  newer : List Text
  size : Nat
  deriving DecidableEq, Repr

namespace OutputBuffer

/-- No lines. -/
def empty : OutputBuffer := ⟨[], [], 0⟩

/-- The lines in the order in which they arrived. -/
def lines (buffer : OutputBuffer) : List Text := buffer.older ++ buffer.newer.reverse

/-- The lines in order without the first ones, as many as it takes for the rest to keep the limit;
    with the number of characters of the rest. -/
def dropOldest (size : Nat) : List Text → List Text × Nat
  | [] => ([], size)
  | line :: rest =>
    if outputLimit < size then dropOldest (size - line.length) rest else (line :: rest, size)

/-- The buffer with its oldest lines dropped until it keeps the limit. -/
def shrink (buffer : OutputBuffer) : OutputBuffer :=
  if buffer.size ≤ outputLimit then buffer
  else
    match dropOldest buffer.size buffer.older with
    | (line :: rest, size) => ⟨line :: rest, buffer.newer, size⟩
    | ([], size) =>
      match dropOldest size buffer.newer.reverse with
      | (kept, size) => ⟨kept, [], size⟩

/-- The buffer with one more line. -/
def append (buffer : OutputBuffer) (line : Text) : OutputBuffer :=
  let line := cutLine line
  shrink { buffer with newer := line :: buffer.newer, size := buffer.size + line.length }

/-- The buffer after some lines in order. -/
def ofLines (lines : List Text) : OutputBuffer := lines.foldl append empty

/-- The lines as one text. -/
def text (buffer : OutputBuffer) : Text := Text.unlines buffer.lines

end OutputBuffer

end CompileTrace
