import CompileTrace.Number.Whole
import CompileTrace.Text.LetterCase
import CompileTrace.Text.Word

set_option autoImplicit false

/-! # Build diagnostics

A build reports errors, warnings and notes, one on a line of its output:
`file(line,column): severity code: message [project]`, or without a place, where the name of the
tool may stand in front: `tool : severity code: message [project]`. Lines of any other form report
nothing. -/

namespace CompileTrace

/-! ## Severities -/

/-- How severe a diagnostic is. -/
inductive Severity
  | error
  | warning
  | info
  deriving DecidableEq, Repr

namespace Severity

/-- The name of a severity. -/
def name : Severity → Text
  | error => "error"
  | warning => "warning"
  | info => "info"

/-- Every severity. -/
def all : List Severity := [error, warning, info]

end Severity

/-- A text that is not the name of a severity. -/
structure UnknownSeverity where
  text : Text
  deriving DecidableEq, Repr

/-- The fault in words. -/
def UnknownSeverity.message (fault : UnknownSeverity) : Text :=
  fault.text.quoted ++ " is not a valid BuildErrorSeverity"

/-- The severity of a name. -/
def Severity.ofName (text : Text) : Except UnknownSeverity Severity :=
  match all.find? (fun s => s.name = text) with
  | some s => .ok s
  | none => .error ⟨text⟩

/-! ## Diagnostics -/

/-- Why a line in the form of a diagnostic reports none: the name of its severity is spelled by
    letters that only look like it, or a number of its place is too long. -/
inductive DiagnosticFault
  | severity (fault : UnknownSeverity)
  | number (fault : WholeFault)
  deriving DecidableEq, Repr

/-- The fault in words. -/
def DiagnosticFault.message : DiagnosticFault → Text
  | .severity fault => fault.message
  | .number fault => fault.message

/-- One report of a build. -/
structure Diagnostic where
  severity : Severity
  code : Text
  message : Text
  file? : Option Text
  line? : Option Int
  column? : Option Int
  project? : Option Text
  deriving DecidableEq, Repr

namespace Diagnostic

/-- Where the diagnostic is, as it stands before the severity: nothing without a file. -/
def place (d : Diagnostic) : Text :=
  match d.file? with
  | none | some [] => []
  | some file =>
    match d.line? with
    | none => file ++ ": "
    | some line =>
      file ++ "(" ++ Text.ofInt line ++ "," ++ Text.ofInt (d.column?.getD 0) ++ "): "

/-- The diagnostic on one line, without its project. -/
def text (d : Diagnostic) : Text :=
  d.place ++ d.severity.name ++ " " ++ d.code ++ ": " ++ d.message

/-- The numbers that stand in the place. -/
def numbers (d : Diagnostic) : List Int :=
  match d.file?, d.line? with
  | some (_ :: _), some line => [line, d.column?.getD 0]
  | _, _ => []

/-- The diagnostic on one line, if all numbers on it can be written. -/
def shown (d : Diagnostic) : Except TooManyDigits Text :=
  (d.numbers.mapM Text.ofWhole).map (fun _ => d.text)

/-! ## Reading a line -/

/-- Whether a character stands for a small letter whatever its case; both dotted and dotless forms
    stand for an `i`. -/
def isLetter (letter c : CodePoint) : Bool :=
  c.toLower == letter || (letter == 'i' && (c == 'ı' || c == 'İ'))

/-- The text that spells a word whatever its case, and the rest after it. -/
def spelled? : Text → Text → Option (Text × Text)
  | [], s => some ([], s)
  | letter :: word, c :: s =>
    if isLetter letter c then (spelled? word s).map (fun r => (c :: r.1, r.2)) else none
  | _ :: _, [] => none

/-- The text that spells the name of a severity, and the rest after it. -/
def severity? (s : Text) : Option (Text × Text) :=
  Severity.all.findSome? (fun severity => spelled? severity.name s)

/-- The project that a text names, if it is blanks and then a project between brackets. -/
def projectIn? (s : Text) : Option Text :=
  match s with
  | [] => none
  | c :: _ =>
    if isBlank c then
      match s.dropWhile isBlank with
      | char '[' :: rest =>
        match rest.getLast? with
        | some (char ']') =>
          let project := rest.dropLast
          if project.isEmpty || project.contains ']' then none else some project
        | _ => none
      | _ => none
    else none

/-- A message of one character at least and the project after it: the message ends where a project
    first follows up to the end. -/
def splitProject : Text → Text × Option Text
  | [] => ([], none)
  | c :: rest =>
    match projectIn? rest with
    | some project => ([c], some project)
    | none =>
      let split := splitProject rest
      (c :: split.1, split.2)

/-- What a line says after its place. -/
structure Statement where
  severity : Text
  code : Text
  message : Text
  project? : Option Text
  deriving DecidableEq, Repr

/-- What the rest of a line says: a severity, blanks, a code with a colon, and a message. -/
def statement? (s : Text) : Option Statement :=
  match severity? s with
  | none => none
  | some (severity, rest) =>
    let afterBlanks := rest.dropWhile isBlank
    if afterBlanks.length = rest.length then none
    else
      match afterBlanks.span isWord with
      | ([], _) => none
      | (code, char ':' :: rest) =>
        match rest.dropWhile isBlank with
        | [] => none
        | message =>
          let split := splitProject message
          some ⟨severity, code, split.1, split.2⟩
      | _ => none

/-- The decimal digits at the start of a text, if there are any, and the rest after them. -/
def digits? (s : Text) : Option (Text × Text) :=
  match s.span isDecimalDigit with
  | ([], _) => none
  | found => some found

/-- A file, and a line and column in digits. -/
structure Location where
  file : Text
  line : Text
  column : Text
  deriving DecidableEq, Repr

/-- The place at the start of a line, and the rest after its colon. The file is what stands before
    the first parenthesis. -/
def location? (s : Text) : Option (Location × Text) :=
  match s.cutAt? (char '(') with
  | none | some ([], _) => none
  | some (file, rest) => do
    let (line, rest) ← digits? rest
    let rest ← rest.dropStart? [char ',']
    let (column, rest) ← digits? rest
    let rest ← rest.dropStart? [char ')', char ':']
    some (⟨file.trim, line, column⟩, rest)

/-- What follows a tool's name at the start of a line: the name holds no colon, and a colon between
    spaces ends it. -/
def afterTool? (s : Text) : Option Text :=
  match s.cutAt? (char ':') with
  | none => none
  | some (before, rest) =>
    if 2 ≤ before.length && before.getLast? == some (char ' ') then rest.dropStart? [char ' ']
    else none

/-- What a line without a place says, with the name of a tool in front or without. -/
def bareStatement? (s : Text) : Option Statement :=
  match (afterTool? s).bind statement? with
  | some found => some found
  | none => statement? s

/-- What a line with a place says, and where. -/
def locatedStatement? (s : Text) : Option (Location × Statement) :=
  match location? s with
  | none => none
  | some (location, rest) =>
    (statement? (rest.dropWhile isBlank)).map (fun found => (location, found))

/-- The line and column of a location. -/
def Location.numbers (location : Location) : Except WholeFault (Nat × Nat) := do
  let line ← location.line.toWhole
  let column ← location.column.toWhole
  .ok (line, column)

/-- The diagnostic of what a line says without a place. -/
def ofStatement (s : Statement) : Except DiagnosticFault Diagnostic :=
  match Severity.ofName s.severity.lower with
  | .error fault => .error (.severity fault)
  | .ok severity => .ok ⟨severity, s.code, s.message, none, none, none, s.project?⟩

/-- The diagnostic of what a line says about a place. The severity is looked at first. -/
def ofLocated (location : Location) (s : Statement) : Except DiagnosticFault Diagnostic :=
  match ofStatement s, location.numbers with
  | .error fault, _ => .error fault
  | _, .error fault => .error (.number fault)
  | .ok bare, .ok (line, column) =>
    .ok { bare with file? := some location.file, line? := some line, column? := some column }

/-- The diagnostic on a line without blanks at its ends, if it has the form of one. -/
def ofLine? (line : Text) : Option (Except DiagnosticFault Diagnostic) :=
  match locatedStatement? line with
  | some (location, s) => some (ofLocated location s)
  | none => (bareStatement? line).map ofStatement

/-! ## Reading output -/

/-- The diagnostics in the output of a build, line by line; the first line that has the form of one
    and reports none ends the reading. -/
def ofOutput (output : Text) : Except DiagnosticFault (List Diagnostic) :=
  ((output.lines.map Text.trim).filterMap ofLine?).mapM id

end Diagnostic

end CompileTrace
