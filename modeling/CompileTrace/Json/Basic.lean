import CompileTrace.Table

set_option autoImplicit false

/-! # JSON values

The values that JSON texts write. A whole number stays exact; any other number is a double. An
object is a table: names in the order in which they first stand, each with its last value. -/

namespace CompileTrace

/-- A JSON value. -/
inductive Json
  | null
  | bool (b : Bool)
  | int (n : Int)
  | real (x : Float)
  | text (s : Text)
  | array (items : List Json)
  | object (members : List (Text × Json))

namespace Json

/-- The value of a member, if the value is an object and has it. -/
def get? (name : Text) : Json → Option Json
  | object members => Table.get? members name
  | _ => none

/-- The text that a value is, if it is one. -/
def text? : Json → Option Text
  | text s => some s
  | _ => none

/-- A text, or null if there is none. -/
def ofText? : Option Text → Json
  | some s => text s
  | none => null

/-- An array of texts. -/
def ofTexts (texts : List Text) : Json := array (texts.map text)

/-- The object of the members that have a value. -/
def ofMembers (members : List (Text × Option Json)) : Json :=
  object (members.filterMap (fun m => m.2.map (fun value => (m.1, value))))

end Json

end CompileTrace
