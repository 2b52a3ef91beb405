import CompileTrace.Build.Request
import CompileTrace.Build.Timeout
import CompileTrace.Json.Shown
import CompileTrace.Number.Decimal
import CompileTrace.Search.ProjectRoot
import CompileTrace.Text.Quoted

set_option autoImplicit false

/-! # Options of the program

The program takes options and no other arguments. An option is named in full, by a beginning that
no other option shares, or by a single letter; its value follows it or stands after an equals
sign, and after a letter also at once. All arguments are told apart before the first option is
carried out. -/

namespace CompileTrace

/-! ## Names -/

/-- The options. -/
inductive OptionId
  | help
  | project
  | projectFromCwd
  | reader
  | dotnet
  | capture
  | invocations
  | configuration
  | platform
  | property
  | timeout
  deriving DecidableEq, Repr

namespace OptionId

/-- The names of all options, in the order in which they are listed. -/
def names : List (Text × OptionId) :=
  [("-h", help), ("--help", help), ("--project", project),
   ("--project-from-cwd", projectFromCwd), ("--reader", reader), ("--dotnet", dotnet),
   ("--capture", capture), ("--invocations", invocations), ("-c", configuration),
   ("--configuration", configuration), ("--platform", platform), ("-p", property),
   ("--property", property), ("--timeout", timeout)]

/-- All names of an option. -/
def title (id : OptionId) : Text :=
  Text.join [char '/'] ((names.filter (fun n => n.2 = id)).map Prod.fst)

/-- Whether an option takes a value. -/
def takesValue : OptionId → Bool
  | help | projectFromCwd => false
  | _ => true

end OptionId

/-! ## Faults -/

/-- What ends the reading of options: help was asked for, or an argument does not fit. -/
inductive OptionStop
  | help
  | ambiguous (argument : Text) (candidates : List Text)
  | missingValue (id : OptionId)
  | needlessValue (id : OptionId) (value : Text)
  | conflict (id other : OptionId)
  | badProperty (value : Text)
  | badTimeout (value : Text)
  | unrecognized (arguments : List Text)
  deriving DecidableEq, Repr

namespace OptionStop

/-- A fault of one option in words. -/
def about (id : OptionId) (what : Text) : Text := "argument " ++ id.title ++ ": " ++ what

/-- The fault in words. -/
def message : OptionStop → Text
  | help => "help"
  | ambiguous argument candidates =>
    "ambiguous option: " ++ argument ++ " could match " ++ Text.join ", " candidates
  | missingValue id => about id "expected one argument"
  | needlessValue id value => about id ("ignored explicit argument " ++ value.quoted)
  | conflict id other => about id ("not allowed with argument " ++ other.title)
  | badProperty value => about .property ("Expected Name=Value, got " ++ value.quoted)
  | badTimeout value => about .timeout ("invalid float value: " ++ value.quoted)
  | unrecognized arguments => "unrecognized arguments: " ++ Text.join " " arguments

/-- The name that the program tells its faults under. -/
def programName : Text := "buildcapture-mcp"

/-- The line that tells a fault: the last one, if what is told has line ends in it. -/
def line (stop : OptionStop) : Text :=
  let told := (programName ++ ": error: " ++ stop.message).trim
  told.lines.getLast?.getD told

end OptionStop

/-! ## Telling arguments apart -/

/-- What an argument is: a plain one, the mark after which all are plain, an option with a value in
    the same argument or none, or an option that does not exist. -/
inductive ArgumentKind
  | plain
  | mark
  | option (id : OptionId) (value? : Option Text)
  | unknown
  deriving DecidableEq, Repr

namespace ArgumentKind

/-- The argument that is the mark. -/
def markText : Text := "--"

/-- Whether a text looks like a negative number; a line feed may follow it. -/
def looksNegative (argument : Text) : Bool :=
  match argument with
  | char '-' :: digits =>
    let digits := if digits.getLast? = some (char '\n') then digits.dropLast else digits
    match digits.span isDecimalDigit with
    | (_ :: _, []) => true
    | (_, char '.' :: fraction) => !fraction.isEmpty && fraction.all isDecimalDigit
    | _ => false
  | _ => false

/-- A name and the value after its equals sign, if it has one. -/
def splitValue (argument : Text) : Text × Option Text :=
  match argument.cutAt? (char '=') with
  | none => (argument, none)
  | some (name, value) => (name, some value)

/-- The options that an argument may mean which is no option's name: those that a long name is the
    beginning of, or the one of its letter. -/
def candidates (argument : Text) : List (Text × OptionId × Option Text) :=
  match argument with
  | char '-' :: char '-' :: _ =>
    let (start, value?) := splitValue argument
    (OptionId.names.filter (fun n => start.isPrefixOf n.1)).map (fun n => (n.1, n.2, value?))
  | _ =>
    let (name, value) := argument.splitAt 2
    (OptionId.names.filter (fun n => n.1 = name)).map (fun n => (n.1, n.2, some value))

/-- What an argument is that has the form of an option and is not the name of one. -/
def ofCandidates (argument : Text) : Except OptionStop ArgumentKind :=
  match candidates argument with
  | [(_, id, value?)] => .ok (option id value?)
  | [] => .ok (if looksNegative argument || argument.contains ' ' then plain else unknown)
  | several => .error (.ambiguous argument (several.map (·.1)))

/-- What an argument is. -/
def ofArgument (argument : Text) : Except OptionStop ArgumentKind :=
  match argument with
  | char '-' :: _ :: _ =>
    match OptionId.names.lookup argument with
    | some id => .ok (option id none)
    | none =>
      match splitValue argument with
      | (name, some value) =>
        match OptionId.names.lookup name with
        | some id => .ok (option id (some value))
        | none => ofCandidates argument
      | _ => ofCandidates argument
  | _ => .ok plain

/-- What each argument is; all that follow the mark are plain. -/
def ofArguments : List Text → Except OptionStop (List (Text × ArgumentKind))
  | [] => .ok []
  | argument :: rest =>
    if argument = markText then .ok ((argument, mark) :: rest.map (fun a => (a, plain)))
    else
      match ofArgument argument with
      | .error stop => .error stop
      | .ok kind => (ofArguments rest).map ((argument, kind) :: ·)

end ArgumentKind

/-! ## Carrying out options -/

/-- What the program was told. An option is emptied when its value holds nothing because the mark
    was given in its place; a property given so is there, but has neither name nor value. -/
structure Options where
  project? : Option Text
  projectFromCwd : Bool
  reader? : Option Text
  dotnet : Text
  capture? : Option Text
  invocations? : Option Text
  configuration : Text
  platform : Text
  properties : List (Option (Text × Text))
  timeout? : Option Float
  emptied : List OptionId
  deriving DecidableEq, Repr

namespace Options

/-- The variable that names the reader to use if no option does. -/
def readerVariable : Text := "BUILDCAPTURE_READER"

/-- What holds if nothing is told. -/
def default (environment : Environment) : Options where
  project? := none
  projectFromCwd := false
  reader? := environment.get? readerVariable
  dotnet := BuildTool.pathIn environment
  capture? := none
  invocations? := none
  configuration := "Debug"
  platform := "Any CPU"
  properties := []
  timeout? := none
  emptied := []

/-- A property from its name and value with an equals sign between them. -/
def property? (value : Text) : Option (Text × Text) :=
  match value.cutAt? (char '=') with
  | none | some ([], _) => none
  | some pair => some pair

/-- Carries out an option with a value. The two ways to capture exclude each other. -/
def set (o : Options) (id : OptionId) (value : Text) : Except OptionStop Options :=
  match id with
  | .help | .projectFromCwd => .error (.needlessValue id value)
  | .project => .ok { o with project? := some value }
  | .reader => .ok { o with reader? := some value }
  | .dotnet => .ok { o with dotnet := value }
  | .capture =>
    if o.invocations?.isSome then .error (.conflict .capture .invocations)
    else .ok { o with capture? := some value }
  | .invocations =>
    if o.capture?.isSome then .error (.conflict .invocations .capture)
    else .ok { o with invocations? := some value }
  | .configuration => .ok { o with configuration := value }
  | .platform => .ok { o with platform := value }
  | .property =>
    match property? value with
    | some pair => .ok { o with properties := o.properties ++ [some pair] }
    | none => .error (.badProperty value)
  | .timeout =>
    match value.toFloat? with
    | some x => .ok { o with timeout? := some x }
    | none => .error (.badTimeout value)

/-- How a build is told of a value that holds nothing. -/
def emptiedText : Text := Json.shown (.array [])

/-- The name of the kind of a value that holds nothing. -/
def emptiedKind : Text := Json.kindName (.array [])

/-- Carries out an option whose value is the mark, which leaves nothing of the value. -/
def setEmpty (o : Options) (id : OptionId) : Except OptionStop Options :=
  let emptied := id :: o.emptied
  match id with
  | .timeout => .ok { o with timeout? := none, emptied := emptied }
  | .property => .ok { o with properties := o.properties ++ [none] }
  | .configuration | .platform =>
    (o.set id emptiedText).map (fun o => { o with emptied := emptied })
  | _ => (o.set id []).map (fun o => { o with emptied := emptied })

/-- How long a build may take. -/
def buildTimeout? (o : Options) : Option Timeout :=
  if o.emptied.contains .timeout then some (.other emptiedKind) else o.timeout?.map .real

/-- Carries out an option with what stands in the place of its value. -/
def give (o : Options) (id : OptionId) (value : Text) : Except OptionStop Options :=
  if value = ArgumentKind.markText then o.setEmpty id
  else { o with emptied := o.emptied.filter (· ≠ id) }.set id value

/-- Where the letters lead that follow the letter for help in one argument: to help, unless one of
    them is no option or lacks its value, which is told at once. -/
def afterHelp (following : List (Text × ArgumentKind)) : Text → OptionStop
  | [] => .help
  | letter :: rest =>
    match OptionId.names.lookup [char '-', letter], rest, following with
    | none, _, _ => .needlessValue .help (letter :: rest)
    | some .help, _, _ => afterHelp following rest
    | some _, _ :: _, _ => .help
    | some _, [], (_, .plain) :: _ => .help
    | some id, [], _ => .missingValue id

/-- Where help with a value leads: a long name takes none, and the value of a letter is more
    letters. -/
def helpWith (argument value : Text) (following : List (Text × ArgumentKind)) : OptionStop :=
  match argument, value with
  | char '-' :: char '-' :: _, _ | _, [] => .needlessValue .help value
  | _, letters => afterHelp following letters

/-- Carries out an option that takes no value. -/
def switchOn (o : Options) (id : OptionId) (argument : Text) (value? : Option Text)
    (following : List (Text × ArgumentKind)) : Except OptionStop Options :=
  match id, value? with
  | .projectFromCwd, none => .ok { o with projectFromCwd := true }
  | .help, none => .error .help
  | .help, some value => .error (helpWith argument value following)
  | _, some value => .error (.needlessValue id value)
  | _, none => .ok o

/-- Carries out the options among arguments, and collects the arguments that belong to none. -/
def carryOut (o : Options) : List (Text × ArgumentKind) → Except OptionStop (Options × List Text)
  | [] => .ok (o, [])
  | (argument, .option id value?) :: rest =>
    if id.takesValue then
      match value?, rest with
      | some value, rest =>
        match o.give id value with
        | .error stop => .error stop
        | .ok o => o.carryOut rest
      | none, (value, .plain) :: rest =>
        match o.give id value with
        | .error stop => .error stop
        | .ok o => o.carryOut rest
      | none, _ => .error (.missingValue id)
    else
      match o.switchOn id argument value? rest with
      | .error stop => .error stop
      | .ok o => o.carryOut rest
  | (argument, _) :: rest => (o.carryOut rest).map (fun r => (r.1, argument :: r.2))

/-- What the arguments of the program tell it. -/
def ofArguments (environment : Environment) (arguments : List Text) :
    Except OptionStop Options := do
  let kinds ← ArgumentKind.ofArguments arguments
  let (o, others) ← (default environment).carryOut kinds
  if others.isEmpty then .ok o else .error (.unrecognized others)

end Options

end CompileTrace
