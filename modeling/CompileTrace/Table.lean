import CompileTrace.Text.Basic

set_option autoImplicit false

/-! # Tables

A table keeps a value for each name that was put into it. Names stand in the order in which they
were first put; putting a name again changes its value and not its place. -/

namespace CompileTrace

/-- Names with their values, in the order in which the names were first put. -/
abbrev Table (α : Type) := List (Text × α)

namespace Table

variable {α : Type}

/-- The value of a name. -/
def get? (table : Table α) (name : Text) : Option α :=
  match table with
  | [] => none
  | (n, value) :: rest => if n = name then some value else get? rest name

/-- The table with a value put under a name. -/
def put (table : Table α) (name : Text) (value : α) : Table α :=
  match table with
  | [] => [(name, value)]
  | (n, old) :: rest =>
    if n = name then (n, value) :: rest else (n, old) :: put rest name value

/-- The table with the pairs put into it one after the other. -/
def putAll (table : Table α) (pairs : List (Text × α)) : Table α :=
  pairs.foldl (fun t pair => put t pair.1 pair.2) table

/-- The table that the pairs make. -/
def ofList (pairs : List (Text × α)) : Table α := putAll [] pairs

theorem get?_put (table : Table α) (name : Text) (value : α) (other : Text) :
    get? (put table name value) other = if name = other then some value else get? table other := by
  induction table with
  | nil => rfl
  | cons pair rest ih =>
    obtain ⟨n, old⟩ := pair
    by_cases h : n = name <;> grind [put, get?]

theorem names_put (table : Table α) (name : Text) (value : α) :
    (put table name value).map Prod.fst
      = if name ∈ table.map Prod.fst then table.map Prod.fst
        else table.map Prod.fst ++ [name] := by
  induction table with
  | nil => rfl
  | cons pair rest ih =>
    obtain ⟨n, old⟩ := pair
    by_cases h : n = name <;> grind [put]

end Table

end CompileTrace
