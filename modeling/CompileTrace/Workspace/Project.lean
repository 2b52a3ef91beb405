import CompileTrace.Compiler.Options
import CompileTrace.Number.Whole
import CompileTrace.Workspace.Reference

set_option autoImplicit false

/-! # Projects

A project is one compiled unit: what the compiler was told, the libraries it refers to and the
source texts it was made of. Its identity is a number, so that the same project file compiled
twice makes two projects. -/

namespace CompileTrace

/-! ## Identities -/

/-- The identity of a project. -/
structure ProjectId where
  number : Nat
  deriving DecidableEq, Repr

namespace ProjectId

/-- How many hexadecimal digits stand in the groups of an identity's text. -/
def groupWidths : List Nat := [8, 4, 4, 4, 12]

/-- The digits cut into groups of given widths, with a hyphen between each two; the last group has
    all that is left. -/
def hyphenate : List Nat → Text → Text
  | width :: w :: widths, digits =>
    digits.take width ++ char '-' :: hyphenate (w :: widths) (digits.drop width)
  | _, digits => digits

/-- An identity as text: thirty-two lower-case hexadecimal digits in five groups. -/
def text (id : ProjectId) : Text := hyphenate groupWidths (hexDigits 32 id.number)

/-- A text that is not the text of an identity. -/
inductive Fault
  | badlyFormed
  | number (fault : WholeFault)
  deriving DecidableEq, Repr

/-- The fault in words. -/
def Fault.message : Fault → Text
  | badlyFormed => "badly formed hexadecimal UUID string"
  | number fault => fault.message

/-- The digits of an identity in any of its usual spellings: with the name of its kind or not, with
    hyphens or without, and between braces or not. -/
def bareDigits (s : Text) : Text :=
  let isBrace := fun (c : CodePoint) => c == '\x7b' || c == '\x7d'
  let bare := Text.remove "uuid:" (Text.remove "urn:" s)
  (Text.dropEndWhile isBrace (bare.dropWhile isBrace)).filter (· ≠ char '-')

/-- How many digits an identity has. -/
def digitCount : Nat := 32

/-- The identity that a text writes. -/
def ofText (s : Text) : Except Fault ProjectId :=
  let digits := bareDigits s
  if digits.length ≠ digitCount then .error .badlyFormed
  else (digits.toWholeHex.map ProjectId.mk).mapError .number

end ProjectId

/-! ## Documents -/

/-- A source file of a project with the text that it had. -/
structure Document where
  name : Text
  filePath : Text
  text : Text
  deriving DecidableEq, Repr

/-- The name that a source file is shown by: what follows the project's directory, if the path
    begins with it, and else the path. -/
def documentName (filePath projectDirectory : Text) : Text :=
  if projectDirectory.isEmpty then filePath
  else (filePath.dropStart? projectDirectory).getD filePath

/-! ## Projects -/

/-- One compiled unit. -/
structure Project where
  id : ProjectId
  name : Text
  language : Text
  compilation : CompilationOptions
  parse : ParseOptions
  references : List Reference
  documents : List Document
  filePath? : Option Text
  deriving DecidableEq, Repr

/-- The first document with a given name or path. -/
def Project.document? (project : Project) (name : Text) : Option Document :=
  project.documents.find? (fun d => d.name = name || d.filePath = name)

end CompileTrace
