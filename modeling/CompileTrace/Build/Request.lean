import CompileTrace.CommandLine.Quotation
import CompileTrace.FileTree.Basic
import CompileTrace.Table

set_option autoImplicit false

/-! # Build requests

What a caller asks to build: a solution or project file, and properties for the build. A request is
checked before anything is started, and a checked request determines the command line of the
build. -/

namespace CompileTrace

/-! ## Faults -/

/-- Why a request cannot be carried out. -/
inductive RequestError
  | missingTarget
  | noSuchTarget (path : Text)
  | badPropertyName (name : Text)
  | noReader
  /-- No log can be made for the build. -/
  | noLog (error : FileError)
  deriving DecidableEq, Repr

/-- The error in words. -/
def RequestError.message : RequestError → Text
  | .missingTarget => "Missing project or solution file path"
  | .noSuchTarget path =>
    "Invalid file path argument `" ++ path ++ "`. The file path does not exist"
  | .badPropertyName name => "Invalid MSBuild property name: " ++ name.quoted
  | .noReader => "No invocation reader configured for binary logs"
  | .noLog error => error.message

/-! ## The target -/

/-- The absolute path of the file to build; the file must exist. -/
def checkTarget (disk : Disk) (path? : Option Text) : Except RequestError Text :=
  let path := path?.getD []
  if path.isEmpty then .error .missingTarget
  else
    let target := Path.absolute disk.cwd path
    if disk.isFile target then .ok target else .error (.noSuchTarget path)

/-! ## Properties -/

/-- The properties of a build by name. -/
abbrev Properties := Table Text

/-- Properties as a caller gives them; one without a value has the empty text for its value. -/
abbrev GivenProperties := Table (Option Text)

/-- The properties that a caller gives, over the configuration and platform. -/
def mergeProperties (configuration platform : Text) (given : List (Text × Option Text)) :
    GivenProperties :=
  Table.putAll [("Configuration", some configuration), ("Platform", some platform)] given

/-- Whether a property name may begin with a character. -/
def isNameStart (c : CodePoint) : Bool := c.isAlpha || c == '_'

/-- Whether a property name may go on with a character. -/
def isNamePart (c : CodePoint) : Bool := c.isAlphanum || c == '_' || c == '.' || c == '-'

/-- Whether a text is a letter or underscore and then letters, digits, underscores, dots and
    hyphens. -/
def isPlainName (name : Text) : Bool :=
  match name with
  | [] => false
  | c :: rest => isNameStart c && rest.all isNamePart

/-- Whether a text is accepted as a property name: a plain name, which a single line feed may
    follow. -/
def isPropertyName (name : Text) : Bool :=
  isPlainName name || (name.getLast? == some (char '\n') && isPlainName name.dropLast)

/-- Properties as a caller would give them. -/
def Properties.asGiven (properties : Properties) : GivenProperties :=
  properties.map (fun p => (p.1, some p.2))

/-- The properties if all their names are accepted, and else the first name that is not. -/
def checkProperties (given : GivenProperties) : Except RequestError Properties :=
  match given.find? (fun p => !isPropertyName p.1) with
  | some (name, _) => .error (.badPropertyName name)
  | none => .ok (given.map (fun p => (p.1, p.2.getD [])))

/-! ## The command line -/

/-- Whether a value has to stand between quotes. -/
def needsQuotes (value : Text) : Bool := value.any (fun c => isBlank c || c == ':')

/-- The value of a switch as it stands on the command line. -/
def escapeValue (value : Text) : Text :=
  let escaped := value.escapeQuotes
  if needsQuotes value then char '"' :: escaped ++ [char '"'] else escaped

/-- The build tool and how much it shall say. -/
structure BuildTool where
  path : Text
  verbosity : Text
  deriving DecidableEq, Repr

/-- How much the tool says if nothing else is asked for. -/
def BuildTool.defaultVerbosity : Text := "minimal"

/-- The tool that is used if no other is asked for. -/
def BuildTool.defaultPath : Text := "dotnet"

/-- The variable of the environment that names the tool to use if no other is asked for. -/
def BuildTool.variable : Text := "DOTNET_PATH"

/-- The tool that an environment names, or else the usual one. -/
def BuildTool.pathIn (environment : Table Text) : Text :=
  (environment.get? BuildTool.variable).getD BuildTool.defaultPath

/-- The argument that sets a property. -/
def propertyArgument (property : Text × Text) : Text :=
  "/p:" ++ property.1 ++ "=" ++ escapeValue property.2

/-- The command line that rebuilds a target and records it in a log. -/
def buildCommand (tool : BuildTool) (target log : Text) (properties : Properties) : List Text :=
  [tool.path, "msbuild", target, "/t:rebuild", "/binaryLogger:" ++ escapeValue log,
   "/verbosity:" ++ tool.verbosity, "/nologo", "/interactive:false"]
    ++ properties.map propertyArgument

/-- The command line for properties as they are given, whose names are checked first. -/
def checkedCommand (tool : BuildTool) (target log : Text) (given : GivenProperties) :
    Except RequestError (List Text) :=
  (checkProperties given).map (buildCommand tool target log)

end CompileTrace
