import CompileTrace.Json.Basic
import CompileTrace.Number.Shortest
import CompileTrace.Text.Quoted

set_option autoImplicit false

/-! # How messages show JSON values

A message names the kind of a value that it did not expect, and shows a value itself on one line:
a text as it is, and other values in a form of their own, in which the texts inside stand between
quotes. -/

namespace CompileTrace.Json

/-- The name of the kind of a value. -/
def kindName : Json → Text
  | null => "NoneType"
  | bool _ => "bool"
  | int _ => "int"
  | real _ => "float"
  | text _ => "str"
  | array _ => "list"
  | object _ => "dict"

/-- Whether a value stands for nothing: null, false, a zero, or an empty text, array or object. -/
def isVoid : Json → Bool
  | null => true
  | bool b => !b
  | int n => n == 0
  | real x => x == 0.0
  | text s => s.isEmpty
  | array items => items.isEmpty
  | object members => members.isEmpty

mutual

/-- A value inside a message, with quotes around a text. -/
def quoted : Json → Text
  | null => "None"
  | bool true => "True"
  | bool false => "False"
  | int n => Text.ofInt n
  | real x => Text.ofFloat .plain x
  | text s => s.quoted
  | array [] => "[]"
  | array (item :: items) => char '[' :: quoted item ++ quotedItems items ++ [char ']']
  | object [] => "\x7b\x7d"
  | object ((name, value) :: members) =>
    char '\x7b' :: name.quoted ++ ": " ++ quoted value ++ quotedMembers members ++ [char '\x7d']

/-- The items of an array after the first. -/
def quotedItems : List Json → Text
  | [] => []
  | item :: items => ", " ++ quoted item ++ quotedItems items

/-- The members of an object after the first. -/
def quotedMembers : List (Text × Json) → Text
  | [] => []
  | (name, value) :: members => ", " ++ name.quoted ++ ": " ++ quoted value ++ quotedMembers members

end

/-- A value in a message: a text as it is, and any other value as it stands inside of one. -/
def shown : Json → Text
  | text s => s
  | value => quoted value

end CompileTrace.Json
