import CompileTrace.Text.Utf8

set_option autoImplicit false

/-! # Reading in pieces

A long content is read piece by piece, and what has begun to spell a character at the end of a
piece is read again together with the next one. Where a fault stands is told by its position among
the bytes that are read at once, and not in the content as a whole. -/

namespace CompileTrace.Utf8

/-- Whether a byte goes on with a surrogate after the first byte of one. -/
def isSurrogatePart (b : UInt8) : Bool := 0xA0 ≤ b && b ≤ 0xBF

/-- The start of the piece whose reading meets a fault. A byte decides that there is one, and its
    piece meets it. The first two bytes of a surrogate at the end of a piece are kept for the next
    one; and a character that the end of the content cuts off is met after the last piece. -/
def Fault.pieceStart (size : Nat) (bytes : Bytes) (fault : Fault) : Nat :=
  let next := fault.position + fault.width
  match fault.reason with
  | .ending => bytes.length
  | .start => fault.position / size * size
  | .continuation =>
    let pieceEnd := min ((next / size + 1) * size) bytes.length
    if fault.first = 0xED ∧ (bytes[next]?.any isSurrogatePart) ∧ next + 1 = pieceEnd then pieceEnd
    else next / size * size

/-- The number of bytes of the character that has begun when some bytes are read. -/
def pendingWidth (bytes : Bytes) : Nat :=
  match (bytes.foldl Scan.next ⟨0, none, []⟩).begun? with
  | none => 0
  | some begun => begun.width

/-- A fault of a content with its position among the bytes that are read at once. -/
def Fault.inPieces (size : Nat) (bytes : Bytes) (fault : Fault) : Fault :=
  let start := fault.pieceStart size bytes
  let settled := min (start - pendingWidth (bytes.take start)) fault.position
  { fault with position := fault.position - settled }

end CompileTrace.Utf8
