import CompileTrace.CommandLine.Quotation
import CompileTrace.Compiler.Options
import CompileTrace.Compiler.Switch
import CompileTrace.Number.Whole
import CompileTrace.Path.Basic

set_option autoImplicit false

/-! # Directives

What a single argument tells the compiler, or why it tells nothing. An argument is read on its own:
no other argument changes what it means, only the directory that its paths are seen from does. -/

namespace CompileTrace

/-! ## Faults -/

/-- Why an argument could not be interpreted. -/
inductive ArgumentFault
  | responseFile (argument : Text)
  | missingName (argument : Text)
  | missingValue (argument : Text)
  | unknownTarget (kind argument : Text)
  | unknownNullability (argument : Text)
  | badWarningLevel (level argument : Text)
  /-- The text has only digits, and yet no number is read from them. -/
  | number (fault : WholeFault)
  deriving DecidableEq, Repr

/-- The fault in words. -/
def ArgumentFault.message : ArgumentFault → Text
  | .responseFile argument => "Response files are not supported: " ++ argument
  | .missingName argument =>
    "Command-line syntax error: missing option name in `" ++ argument ++ "`"
  | .missingValue argument => "Command-line syntax error: missing value for `" ++ argument ++ "`"
  | .unknownTarget kind argument =>
    "Invalid target type `" ++ kind ++ "` in `" ++ argument ++ "`"
  | .unknownNullability argument => "Invalid nullable context in `" ++ argument ++ "`"
  | .badWarningLevel level argument =>
    "Invalid warning level `" ++ level ++ "` in `" ++ argument ++ "`"
  | .number fault => fault.message

/-! ## Options and directives -/

/-- An option that is only on or off. -/
inductive Toggle
  | optimize
  | unsafeCode
  | checked
  | deterministic
  deriving DecidableEq, Repr

/-- The options that are understood. -/
inductive OptionName
  | out
  | target
  | reference
  | define
  | languageVersion
  | nullable
  | warningLevel
  | warnAsError
  | noWarn
  | platform
  | main
  | documentation
  | toggle (t : Toggle)
  deriving DecidableEq, Repr

/-- The options by their names; some have a short name too. -/
def OptionName.names : List (Text × OptionName) :=
  [("out", .out), ("target", .target), ("t", .target), ("reference", .reference),
   ("r", .reference), ("define", .define), ("d", .define), ("langversion", .languageVersion),
   ("nullable", .nullable), ("warn", .warningLevel), ("w", .warningLevel),
   ("warnaserror", .warnAsError), ("nowarn", .noWarn), ("platform", .platform), ("main", .main),
   ("m", .main), ("doc", .documentation), ("optimize", .toggle .optimize),
   ("o", .toggle .optimize), ("unsafe", .toggle .unsafeCode), ("checked", .toggle .checked),
   ("deterministic", .toggle .deterministic)]

/-- The option of a name in lower case. -/
def OptionName.ofText? (name : Text) : Option OptionName := OptionName.names.lookup name

/-- A change to how diagnostics are reported: as errors, no longer as errors, or not at all. -/
inductive ReportingChange
  | promote
  | relax
  | suppress
  deriving DecidableEq, Repr

/-- What one argument tells the compiler. -/
inductive Directive
  | source (path : Text)
  | output (path : Text)
  | outputKind (kind : OutputKind)
  | references (paths : List Text)
  | symbols (names : List Text)
  | languageVersion (version : Text)
  | nullability (choice : Nullability)
  | warningLevel (level : Nat)
  | reporting (change : ReportingChange) (ids : List Text)
  | warningsAsErrors (enabled : Bool)
  | platform (name : Text)
  | mainType (name : Text)
  | documentation
  | toggle (t : Toggle) (enabled : Bool)
  | unrecognized (argument : Text)
  deriving DecidableEq, Repr

namespace Directive

/-! ## Values -/

/-- The unquoted value of a switch, which must not be empty. -/
def required (argument : Text) (value? : Option Text) : Except ArgumentFault Text :=
  let value := (value?.getD []).unquote
  if value.isEmpty then .error (.missingValue argument) else .ok value

/-- Whether a character separates the items of a list. -/
def isListSeparator (c : CodePoint) : Bool := c == ',' || c == ';'

/-- Whether a character separates diagnostic ids. -/
def isIdSeparator (c : CodePoint) : Bool := isListSeparator c || isBlank c

/-- A diagnostic id: a bare number is the number of one of the compiler's own diagnostics, written
    with four digits at least. -/
def diagnosticId (item : Text) : Except ArgumentFault Text :=
  if item.isDigits then
    (item.toWhole.map (fun n => "CS" ++ Text.padZeros 4 (Text.ofNat n))).mapError .number
  else .ok item

/-- The diagnostic ids in a value. -/
def diagnosticIds (value : Text) : Except ArgumentFault (List Text) :=
  ((value.unquote.fieldsBy isIdSeparator).filter (fun item => !item.isEmpty)).mapM diagnosticId

/-- The path that an item of a reference list names, if it names any: the text after an alias and
    its equals sign, or the whole item. -/
def referencePath? (item : Text) : Option Text :=
  let item := item.trim.unquote
  if item.isEmpty then none
  else match item.cutAt? (char '=') with
    | none => some item
    | some (_, path) => some path.unquote

/-- The referenced paths in a value, seen from the base directory. -/
def referencePaths (base value : Text) : List Text :=
  ((value.fieldsBy isListSeparator).filterMap referencePath?).map (Path.resolve base)

/-- The symbols in a value. -/
def symbolNames (value : Text) : List Text :=
  ((value.fieldsBy isListSeparator).map Text.trim).filter (fun s => !s.isEmpty)

/-! ## Switches -/

/-- The treatment of nullable references that a switch asks for. -/
def ofNullable (argument : Text) (switch : Switch) : Except ArgumentFault Directive :=
  if !switch.enabled then .ok (.nullability .disable)
  else match switch.value? with
    | none => .ok (.nullability .enable)
    | some value =>
      match Nullability.ofName? value.unquote.lower with
      | some choice => .ok (.nullability choice)
      | none => .error (.unknownNullability argument)

/-- The warning level that a value writes. -/
def ofWarningLevel (argument level : Text) : Except ArgumentFault Directive :=
  if level.isDigits then (level.toWhole.map .warningLevel).mapError .number
  else .error (.badWarningLevel level argument)

/-- Warnings to report as errors, or no longer so: the listed ones, or all without a list. -/
def ofWarnAsError (switch : Switch) : Except ArgumentFault Directive :=
  let value := switch.value?.getD []
  if value.isEmpty then .ok (.warningsAsErrors switch.enabled)
  else
    (diagnosticIds value).map (.reporting (if switch.enabled then .promote else .relax))

/-- The kind of binary that a value names. -/
def ofTarget (argument value : Text) : Except ArgumentFault Directive :=
  match OutputKind.ofName? value.lower with
  | some kind => .ok (.outputKind kind)
  | none => .error (.unknownTarget value.lower argument)

/-- What a switch tells. A toggle takes no value: with one, the switch is not recognized. -/
def ofSwitch (base argument : Text) (switch : Switch) : Except ArgumentFault Directive :=
  let value := required argument switch.value?
  match OptionName.ofText? switch.name with
  | none => .ok (.unrecognized argument)
  | some .out => value.map (fun v => .output (Path.resolve base v))
  | some .target => value.bind (ofTarget argument)
  | some .reference => value.map (fun v => .references (referencePaths base v))
  | some .define => value.map (fun v => .symbols (symbolNames v))
  | some .languageVersion => value.map (fun v => .languageVersion v.lower)
  | some .nullable => ofNullable argument switch
  | some .warningLevel => value.bind (ofWarningLevel argument)
  | some .warnAsError => ofWarnAsError switch
  | some .noWarn => value.bind (fun v => (diagnosticIds v).map (.reporting .suppress))
  | some .platform => value.map .platform
  | some .main => value.map .mainType
  | some .documentation => .ok .documentation
  | some (.toggle t) =>
    if switch.value?.isNone then .ok (.toggle t switch.enabled) else .ok (.unrecognized argument)

/-- What an argument tells, its paths being seen from the base directory. -/
def ofArgument (base argument : Text) : Except ArgumentFault Directive :=
  if argument.head? = some (char '@') then .error (.responseFile argument)
  else
    match Switch.split? argument with
    | none => .ok (.source (Path.resolve base argument.unquote))
    | some (name, value?) =>
      if name.isEmpty then .error (.missingName argument)
      else ofSwitch base argument (Switch.ofName name value?)

end Directive

end CompileTrace
