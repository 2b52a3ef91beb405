import CompileTrace.Path.Basic
import CompileTrace.Text.Utf8

set_option autoImplicit false

/-! # Texts for the system

The system takes paths and arguments as bytes, which a null ends. A text becomes the bytes that
write it. The last halves of surrogate pairs stand for single bytes that write nothing; a text with
any other half has no bytes. -/

namespace CompileTrace

/-- Why the system cannot be given a text: a null character, or halves of surrogate pairs that
    stand one after the other, of which the first, its position and their number are told. -/
inductive TextFault
  | nullCharacter
  | surrogates (first position count : Nat)
  deriving DecidableEq, Repr

/-- The fault in words. -/
def TextFault.message : TextFault → Text
  | nullCharacter => "embedded null byte"
  | surrogates first position count =>
    if count = 1 then
      "'utf-8' codec can't encode character '" ++ Text.codePointEscape first ++ "' in position "
        ++ Text.ofNat position ++ ": surrogates not allowed"
    else
      "'utf-8' codec can't encode characters in position " ++ Text.ofNat position ++ "-"
        ++ Text.ofNat (position + count - 1) ++ ": surrogates not allowed"

namespace Path

/-- The byte that a character stands for by itself, if it is such a half of a pair. -/
def loneByte? (c : CodePoint) : Option UInt8 :=
  if 0xDC80 ≤ c.toNat ∧ c.toNat ≤ 0xDCFF then some (UInt8.ofNat (c.toNat - 0xDC00)) else none

/-- The bytes that a text becomes. -/
def bytes (s : Text) : Bytes :=
  s.flatMap (fun c =>
    match loneByte? c with
    | some b => [b]
    | none => Utf8.encodeChar c)

/-- Whether a character has no bytes. -/
def hasNoBytes (c : CodePoint) : Bool := c.isHalf && (loneByte? c).isNone

/-- Why the system cannot be given a text, if it cannot. -/
def textFault? (s : Text) : Option TextFault :=
  match s.span (fun c => !hasNoBytes c) with
  | (before, c :: rest) =>
    let run := rest.takeWhile CodePoint.isHalf
    some (.surrogates c.toNat before.length (run.length + 1))
  | _ => if s.contains '\x00' then some .nullCharacter else none

/-- Why the system cannot be given one of the paths that lead to the components of a path one
    after the other, if it cannot; those so far stand back to front. -/
def stepFault? (root : Text) (parts : List Text) : List Text → Option TextFault
  | [] => none
  | part :: rest =>
    let next := pushComponent (!root.isEmpty) parts part
    if part = parent then stepFault? root next rest
    else
      match textFault? (ofComponents root next.reverse) with
      | some fault => some fault
      | none => stepFault? root next rest

/-- Why a path cannot be followed component by component, if it cannot. -/
def followFault? (path : Text) : Option TextFault :=
  stepFault? ((root path).take 1) [] (components path)

end Path

end CompileTrace
