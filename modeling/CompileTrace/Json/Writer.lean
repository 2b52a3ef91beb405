import CompileTrace.Json.Basic
import CompileTrace.Number.Shortest
import CompileTrace.Text.Quoted

set_option autoImplicit false

/-! # Writing JSON

JSON texts of nothing but ASCII: a character outside of it is escaped by its UTF-16 units. A value
is written on one line, or with each item on a line of its own, indented by its depth. -/

namespace CompileTrace.Json

/-! ## Strings -/

/-- The escape of a UTF-16 unit. -/
def unitEscape (n : Nat) : Text := "\\u" ++ hexDigits 4 n

/-- How a character stands in a string. -/
def escapedChar (c : CodePoint) : Text :=
  if c = '"' then "\\\""
  else if c = '\\' then "\\\\"
  else if c = '\n' then "\\n"
  else if c = '\r' then "\\r"
  else if c = '\t' then "\\t"
  else if c = '\x08' then "\\b"
  else if c = '\x0c' then "\\f"
  else if 0x20 ≤ c.toNat ∧ c.toNat < 0x7F then [c]
  else if c.toNat < 0x10000 then unitEscape c.toNat
  else
    let rest := c.toNat - 0x10000
    unitEscape (0xD800 + rest / 0x400) ++ unitEscape (0xDC00 + rest % 0x400)

/-- A string between its quotes. -/
def writeString (s : Text) : Text := char '"' :: s.flatMap escapedChar ++ [char '"']

/-! ## Values -/

/-- How the items of a value are set. -/
inductive Layout
  | line
  | indented (width : Nat)
  deriving DecidableEq, Repr

namespace Layout

/-- A line break and the indentation of a depth, where items stand on lines of their own. -/
def lineBreak (layout : Layout) (depth : Nat) : Text :=
  match layout with
  | line => []
  | indented width => char '\n' :: List.replicate (width * depth) (char ' ')

/-- What stands between two items of a depth. -/
def separator (layout : Layout) (depth : Nat) : Text :=
  match layout with
  | line => ", "
  | indented _ => char ',' :: layout.lineBreak depth

end Layout

/-- The words for the doubles that are no finite number. -/
def nonFinite : NonFinite := ⟨"NaN", "Infinity"⟩

mutual

/-- A value as it stands at a depth. -/
def write (layout : Layout) (depth : Nat) : Json → Text
  | null => "null"
  | bool true => "true"
  | bool false => "false"
  | int n => Text.ofInt n
  | real x => Text.ofFloat nonFinite x
  | text s => writeString s
  | array [] => "[]"
  | array (item :: items) =>
    char '[' :: layout.lineBreak (depth + 1) ++ write layout (depth + 1) item
      ++ writeItems layout (depth + 1) items ++ layout.lineBreak depth ++ [char ']']
  | object [] => "\x7b\x7d"
  | object ((name, value) :: members) =>
    char '\x7b' :: layout.lineBreak (depth + 1) ++ writeString name ++ ": "
      ++ write layout (depth + 1) value ++ writeMembers layout (depth + 1) members
      ++ layout.lineBreak depth ++ [char '\x7d']

/-- The items of an array after the first. -/
def writeItems (layout : Layout) (depth : Nat) : List Json → Text
  | [] => []
  | item :: items =>
    layout.separator depth ++ write layout depth item ++ writeItems layout depth items

/-- The members of an object after the first. -/
def writeMembers (layout : Layout) (depth : Nat) : List (Text × Json) → Text
  | [] => []
  | (name, value) :: members =>
    layout.separator depth ++ writeString name ++ ": " ++ write layout depth value
      ++ writeMembers layout depth members

end

/-- A value on one line. -/
def toLine (value : Json) : Text := write .line 0 value

/-- A value with its items on lines of their own, indented by two spaces. -/
def toLines (value : Json) : Text := write (.indented 2) 0 value

end CompileTrace.Json
