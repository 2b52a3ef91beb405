import CompileTrace.Text.Basic

set_option autoImplicit false

/-! # Quotation

On a recorded command line a double quote inside quotes is written with a backslash before it, and
a backslash stands for itself everywhere else. Taking the backslashes away gives back what was
written. -/

namespace CompileTrace.Text

/-- The text with a backslash before each double quote. -/
def escapeQuotes (s : Text) : Text :=
  s.flatMap (fun c => if c = char '"' then [char '\\', char '"'] else [c])

/-- The text without the backslashes that stand right before a double quote. -/
def unescapeQuotes : Text → Text
  | [] => []
  | char '\\' :: char '"' :: rest => char '"' :: unescapeQuotes rest
  | c :: rest => c :: unescapeQuotes rest

/-- The text between two quotes that enclose it, if they do. -/
def dropEnclosingQuotes (s : Text) : Text :=
  match s with
  | char '"' :: rest => if rest.getLast? = some (char '"') then rest.dropLast else s
  | _ => s

/-- What a recorded value stands for: without the quotes around it and without the backslashes
    before the quotes inside. -/
def unquote (s : Text) : Text := s.dropEnclosingQuotes.unescapeQuotes

theorem escapeQuotes_cons (c : CodePoint) (s : Text) :
    escapeQuotes (c :: s) = (if c = '"' then [char '\\', char '"'] else [c]) ++ escapeQuotes s := by
  simp [escapeQuotes]

end CompileTrace.Text
