import CompileTrace.Compiler.Directive

set_option autoImplicit false

/-! # Interpreting compiler arguments

The directives of the arguments are carried out in order, each on what the ones before it left. The
first argument that cannot be interpreted ends it all. -/

namespace CompileTrace

/-! ## Carrying out directives -/

/-- The reporting table after a change to one diagnostic. Relaxing touches only what was reported
    as an error. -/
def changeReporting (change : ReportingChange) (table : Table Reporting) (id : Text) :
    Table Reporting :=
  match change with
  | .promote => table.put id .error
  | .suppress => table.put id .suppress
  | .relax => if table.get? id = some .error then table.put id .warn else table

/-- The symbols with one more, unless it was there before. -/
def addSymbol (symbols : List Text) (name : Text) : List Text :=
  if name ∈ symbols then symbols else symbols ++ [name]

namespace CompilationOptions

/-- The options after a toggle. -/
def toggle (options : CompilationOptions) (t : Toggle) (enabled : Bool) : CompilationOptions :=
  match t with
  | .optimize => { options with optimization := if enabled then .release else .debug }
  | .unsafeCode => { options with allowUnsafe := enabled }
  | .checked => { options with checkOverflow := enabled }
  | .deterministic => { options with deterministic := enabled }

end CompilationOptions

namespace CompilerArguments

/-- The arguments with other compilation options. -/
def mapCompilation (f : CompilationOptions → CompilationOptions) (a : CompilerArguments) :
    CompilerArguments := { a with compilation := f a.compilation }

/-- The arguments with other options for reading sources. -/
def mapParse (f : ParseOptions → ParseOptions) (a : CompilerArguments) : CompilerArguments :=
  { a with parse := f a.parse }

/-- Carries out one directive. The name of the output file is also the module's name. -/
def apply (a : CompilerArguments) : Directive → CompilerArguments
  | .source path => { a with sources := a.sources ++ [path] }
  | .output path =>
    { a with
      compilation := { a.compilation with moduleName? := some (Path.fileName path) }
      outputName? := some (Path.fileName path)
      outputDirectory? := some (Path.directory path) }
  | .outputKind kind => a.mapCompilation ({ · with outputKind := kind })
  | .references paths => { a with references := a.references ++ paths }
  | .symbols names =>
    a.mapParse (fun p => { p with symbols := names.foldl addSymbol p.symbols })
  | .languageVersion version => a.mapParse ({ · with languageVersion := version })
  | .nullability choice => a.mapCompilation ({ · with nullability := choice })
  | .warningLevel level => a.mapCompilation ({ · with warningLevel := level })
  | .reporting change ids =>
    a.mapCompilation
      (fun o => { o with reporting := ids.foldl (changeReporting change) o.reporting })
  | .warningsAsErrors enabled => a.mapCompilation ({ · with warningsAsErrors := enabled })
  | .platform name => a.mapCompilation ({ · with platform := name })
  | .mainType name => a.mapCompilation ({ · with mainType? := some name })
  | .documentation => a.mapParse ({ · with documentation := .diagnose })
  | .toggle t enabled => a.mapCompilation (·.toggle t enabled)
  | .unrecognized argument => { a with unrecognized := a.unrecognized ++ [argument] }

/-- The directory that arguments are seen from: absolute, and the working directory if none is
    given. -/
def baseOf (cwd directory : Text) : Text :=
  if directory.isEmpty then cwd else Path.absolute cwd directory

/-- What the arguments tell in all, their paths being seen from an absolute base directory. -/
def interpretFrom (base : Text) (args : List Text) : Except ArgumentFault CompilerArguments :=
  (args.mapM (Directive.ofArgument base)).map (·.foldl apply (.default base))

/-- What the arguments tell in all, in a working directory and a directory that may be relative to
    it or empty. -/
def interpret (cwd directory : Text) (args : List Text) : Except ArgumentFault CompilerArguments :=
  interpretFrom (baseOf cwd directory) args

end CompilerArguments

end CompileTrace
