import CompileTrace.CommandLine.Quotation
import CompileTrace.Text.Blank

set_option autoImplicit false

/-! # Tokens of a command line

Blanks separate the tokens of a command line. A token is text without blanks and quotes, and it may
end in one quoted region, where blanks count as text: the closing quote ends the token, so that
the next one may follow at once. A quote right after a backslash inside a region does not close
it. A region that nothing closes makes the whole line unreadable. -/

namespace CompileTrace

/-- One argument on a command line: the text before the quoted region, and what stands between the
    quotes as it was recorded, if the token has a region. -/
structure Token where
  text : Text
  region? : Option Text
  deriving DecidableEq, Repr

namespace Token

/-- The token as it was recorded. -/
def raw (token : Token) : Text :=
  match token.region? with
  | none => token.text
  | some content => token.text ++ char '"' :: content ++ [char '"']

/-- The argument that the token stands for. -/
def value (token : Token) : Text :=
  match token.region? with
  | none => token.text
  | some content => token.text ++ content.unescapeQuotes

end Token

/-- A quoted region that nothing closes: its opening quote with all that follows, and the line. -/
structure UnclosedRegion where
  region : Text
  commandLine : Text
  deriving DecidableEq, Repr

/-- The fault in words. -/
def UnclosedRegion.message (fault : UnclosedRegion) : Text :=
  "Invalid string `" ++ fault.region ++ "` non terminated by a closing `\"`"

/-- Where reading a command line stands: between tokens, in the text of one, or in its region. What
    has been read of the token stands back to front; in a region it matters whether the last
    character was a backslash. -/
inductive Reading
  | between
  | text (seen : Text)
  | region (text content : Text) (afterBackslash : Bool)
  deriving DecidableEq, Repr

namespace Reading

/-- Reads one character: where reading stands then, and the token that the character ends. -/
def next (reading : Reading) (c : CodePoint) : Reading × Option Token :=
  match reading with
  | between =>
    if isBlank c then (between, none)
    else if c = '"' then (region [] [] false, none)
    else (text [c], none)
  | text seen =>
    if c = '"' then (region seen [] false, none)
    else if isBlank c then (between, some ⟨seen.reverse, none⟩)
    else (text (c :: seen), none)
  | region seen content afterBackslash =>
    if c = '"' ∧ ¬ afterBackslash then (between, some ⟨seen.reverse, some content.reverse⟩)
    else (region seen (c :: content) (c = '\\'), none)

/-- The tokens when the line is over, or the region that is still open. -/
def finish : Reading → Except Text (List Token)
  | between => .ok []
  | text seen => .ok [⟨seen.reverse, none⟩]
  | region _ content _ => .error (char '"' :: content.reverse)

/-- The tokens of the rest of a line, or the region that it leaves open. -/
def tokens (reading : Reading) : Text → Except Text (List Token)
  | [] => reading.finish
  | c :: rest =>
    match reading.next c with
    | (after, none) => after.tokens rest
    | (after, some token) =>
      match after.tokens rest with
      | .error openRegion => .error openRegion
      | .ok found => .ok (token :: found)

end Reading

/-- The tokens of a command line. -/
def tokenize (commandLine : Text) : Except UnclosedRegion (List Token) :=
  match Reading.between.tokens commandLine with
  | .error region => .error ⟨region, commandLine⟩
  | .ok found => .ok found

/-- The arguments on a command line, as they were recorded or as what they stand for. -/
def arguments (keepQuotes : Bool) (commandLine : Text) : Except UnclosedRegion (List Text) :=
  (tokenize commandLine).map (·.map (if keepQuotes then Token.raw else Token.value))

end CompileTrace
