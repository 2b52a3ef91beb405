import CompileTrace.Text.Quoted

set_option autoImplicit false

/-! # UTF-8

Bytes and the characters they write. Reading never stops: it gives an item for each stretch of
bytes, a character or a fault, so that one reader serves those who refuse faulty bytes and those
who replace them. A fault covers the longest beginning of a character that the bytes spell, or
one byte that begins none, and reading goes on after it. -/

namespace CompileTrace

/-- The content of a file, byte by byte. -/
abbrev Bytes := List UInt8

namespace Utf8

/-! ## Writing -/

/-- The bytes of the code point with a given number. -/
def encodeCode (n : Nat) : List Nat :=
  if n < 0x80 then [n]
  else if n < 0x800 then [0xC0 + n / 0x40, 0x80 + n % 0x40]
  else if n < 0x10000 then [0xE0 + n / 0x1000, 0x80 + n / 0x40 % 0x40, 0x80 + n % 0x40]
  else [0xF0 + n / 0x40000, 0x80 + n / 0x1000 % 0x40, 0x80 + n / 0x40 % 0x40, 0x80 + n % 0x40]

/-- The bytes of a code point. -/
def encodeChar (c : CodePoint) : Bytes := (encodeCode c.toNat).map UInt8.ofNat

/-- The bytes of a text. -/
def encode (s : Text) : Bytes := s.flatMap encodeChar

/-! ## Faults -/

/-- What keeps bytes from being a character. -/
inductive Reason
  /-- No character begins with this byte. -/
  | start
  /-- The next byte does not go on with the character that has begun. -/
  | continuation
  /-- The bytes end inside a character. -/
  | ending
  deriving DecidableEq, Repr

/-- A stretch of bytes that is no character: where it begins, its first byte, and how many bytes
    it has. -/
structure Fault where
  reason : Reason
  position : Nat
  first : UInt8
  width : Nat
  deriving DecidableEq, Repr

/-- The reason in words. -/
def Reason.message : Reason → Text
  | .start => "invalid start byte"
  | .continuation => "invalid continuation byte"
  | .ending => "unexpected end of data"

/-- The fault in words: a single byte is shown by its value, several by their positions. -/
def Fault.message (fault : Fault) : Text :=
  if fault.width = 1 then
    "'utf-8' codec can't decode byte 0x" ++ hexDigits 2 fault.first.toNat ++ " in position "
      ++ Text.ofNat fault.position ++ ": " ++ fault.reason.message
  else
    "'utf-8' codec can't decode bytes in position " ++ Text.ofNat fault.position ++ "-"
      ++ Text.ofNat (fault.position + fault.width - 1) ++ ": " ++ fault.reason.message

/-! ## Reading -/

/-- What a stretch of bytes is. -/
inductive Item
  | char (c : Char)
  | fault (f : Fault)
  deriving DecidableEq, Repr

/-- A character that has begun: its first byte, how many bytes it has so far, the code point that
    they write, how many bytes are still to come, and the bounds that the next one has to keep. -/
structure Begun where
  first : UInt8
  width : Nat
  code : Nat
  missing : Nat
  least : Nat
  greatest : Nat
  deriving DecidableEq, Repr

/-- What a byte begins: a character of its own, a longer one, or nothing. The second byte of a
    longer one is bounded so that no character is spelled in more bytes than it needs, none is a
    surrogate and none lies above the last code point. -/
inductive Beginning
  | whole (c : Char)
  | begun (b : Begun)
  | none
  deriving DecidableEq, Repr

/-- What a byte begins. -/
def beginning (b : UInt8) : Beginning :=
  let n := b.toNat
  if n < 0x80 then .whole (Char.ofNat n)
  else if n < 0xC2 then .none
  else if n < 0xE0 then .begun ⟨b, 1, n - 0xC0, 1, 0x80, 0xBF⟩
  else if n < 0xF0 then
    .begun ⟨b, 1, n - 0xE0, 2, if n = 0xE0 then 0xA0 else 0x80, if n = 0xED then 0x9F else 0xBF⟩
  else if n < 0xF5 then
    .begun ⟨b, 1, n - 0xF0, 3, if n = 0xF0 then 0x90 else 0x80, if n = 0xF4 then 0x8F else 0xBF⟩
  else .none

/-- A reading under way: the position of the next byte, the character that has begun, if any, and
    the items found, last first. -/
structure Scan where
  position : Nat
  begun? : Option Begun
  found : List Item

/-- The fault of a character that does not go on. -/
def Begun.fault (begun : Begun) (reason : Reason) (position : Nat) : Fault :=
  ⟨reason, position - begun.width, begun.first, begun.width⟩

/-- Reads a byte where no character has begun. -/
def Scan.begin (scan : Scan) (b : UInt8) : Scan :=
  match beginning b with
  | .whole c => ⟨scan.position + 1, none, .char c :: scan.found⟩
  | .begun begun => ⟨scan.position + 1, some begun, scan.found⟩
  | .none => ⟨scan.position + 1, none, .fault ⟨.start, scan.position, b, 1⟩ :: scan.found⟩

/-- Reads one byte: it goes on with the character that has begun, or it begins anew. -/
def Scan.next (scan : Scan) (b : UInt8) : Scan :=
  match scan.begun? with
  | none => scan.begin b
  | some begun =>
    if begun.least ≤ b.toNat ∧ b.toNat ≤ begun.greatest then
      let code := begun.code * 0x40 + (b.toNat - 0x80)
      if begun.missing = 1 then ⟨scan.position + 1, none, .char (Char.ofNat code) :: scan.found⟩
      else
        ⟨scan.position + 1,
          some ⟨begun.first, begun.width + 1, code, begun.missing - 1, 0x80, 0xBF⟩, scan.found⟩
    else
      let found := .fault (begun.fault .continuation scan.position) :: scan.found
      Scan.begin ⟨scan.position, none, found⟩ b

/-- The items when no byte is left. -/
def Scan.finish (scan : Scan) : List Item :=
  match scan.begun? with
  | none => scan.found.reverse
  | some begun => (.fault (begun.fault .ending scan.position) :: scan.found).reverse

/-- The characters and faults that the bytes spell, in order. -/
def items (bytes : Bytes) : List Item := (bytes.foldl Scan.next ⟨0, none, []⟩).finish

/-- The fault that an item is, if it is one. -/
def Item.fault? : Item → Option Fault
  | .char _ => none
  | .fault f => some f

/-- The character that stands for an item: a fault is shown as the replacement character. -/
def Item.toChar : Item → Char
  | .char c => c
  | .fault _ => '\uFFFD'

/-- The text that the bytes write, with a replacement character for each fault. -/
def decodeLossy (bytes : Bytes) : Text := Text.ofChars ((items bytes).map Item.toChar)

/-- The text that the bytes write, or the first fault. -/
def decode (bytes : Bytes) : Except Fault Text :=
  match (items bytes).findSome? Item.fault? with
  | some fault => .error fault
  | none => .ok (Text.ofChars ((items bytes).map Item.toChar))

/-! ## The byte order mark -/

/-- The bytes of the mark that may stand before a text. -/
def byteOrderMark : Bytes := [0xEF, 0xBB, 0xBF]

/-- The bytes after a mark; a content that is only the beginning of a mark counts as empty. -/
def dropMark (bytes : Bytes) : Bytes :=
  if bytes.isPrefixOf byteOrderMark then []
  else if byteOrderMark.isPrefixOf bytes then bytes.drop 3
  else bytes

end Utf8

end CompileTrace
