import CompileTrace.Table

set_option autoImplicit false

/-! # Compiler options

What one run of the compiler was told: how to generate code and report diagnostics, how to read
source texts, and which files to read and write. -/

namespace CompileTrace

/-! ## Choices -/

/-- The kind of binary that a compilation makes. -/
inductive OutputKind
  | consoleApplication
  | windowsApplication
  | library
  | netModule
  | windowsMetadata
  | appContainer
  deriving DecidableEq, Repr

namespace OutputKind

/-- The name of a kind. -/
def name : OutputKind → Text
  | consoleApplication => "exe"
  | windowsApplication => "winexe"
  | library => "library"
  | netModule => "module"
  | windowsMetadata => "winmdobj"
  | appContainer => "appcontainerexe"

/-- Every kind. -/
def all : List OutputKind :=
  [consoleApplication, windowsApplication, library, netModule, windowsMetadata, appContainer]

/-- The kind of a name. -/
def ofName? (n : Text) : Option OutputKind := all.find? (fun kind => kind.name = n)

end OutputKind

/-- How far the compiler optimizes. -/
inductive Optimization
  | debug
  | release
  deriving DecidableEq, Repr

namespace Optimization

/-- The name of a level. -/
def name : Optimization → Text
  | debug => "debug"
  | release => "release"

/-- The level of a name. -/
def ofName? (n : Text) : Option Optimization :=
  [debug, release].find? (fun level => level.name = n)

end Optimization

/-- How the compiler treats nullable references. -/
inductive Nullability
  | disable
  | enable
  | warnings
  | annotations
  deriving DecidableEq, Repr

namespace Nullability

/-- The name of a treatment. -/
def name : Nullability → Text
  | disable => "disable"
  | enable => "enable"
  | warnings => "warnings"
  | annotations => "annotations"

/-- The treatment of a name. -/
def ofName? (n : Text) : Option Nullability :=
  [disable, enable, warnings, annotations].find? (fun choice => choice.name = n)

end Nullability

/-- How a single diagnostic is reported, against its default. -/
inductive Reporting
  | error
  | warn
  | suppress
  deriving DecidableEq, Repr

/-- The name of a way of reporting. -/
def Reporting.name : Reporting → Text
  | .error => "error"
  | .warn => "warn"
  | .suppress => "suppress"

/-- Whether documentation comments are read only or also reported on. -/
inductive Documentation
  | parse
  | diagnose
  deriving DecidableEq, Repr

/-- The name of a documentation mode. -/
def Documentation.name : Documentation → Text
  | .parse => "parse"
  | .diagnose => "diagnose"

/-! ## Options -/

/-- Options that affect generated code and diagnostics. -/
structure CompilationOptions where
  outputKind : OutputKind
  moduleName? : Option Text
  mainType? : Option Text
  optimization : Optimization
  platform : Text
  allowUnsafe : Bool
  checkOverflow : Bool
  deterministic : Bool
  nullability : Nullability
  warningLevel : Nat
  warningsAsErrors : Bool
  reporting : Table Reporting
  deriving DecidableEq, Repr

/-- The options of a compilation that was told nothing. -/
def CompilationOptions.default : CompilationOptions where
  outputKind := .consoleApplication
  moduleName? := none
  mainType? := none
  optimization := .debug
  platform := "AnyCPU"
  allowUnsafe := false
  checkOverflow := false
  deterministic := false
  nullability := .disable
  warningLevel := 4
  warningsAsErrors := false
  reporting := []

/-- Options that affect how source texts are read. -/
structure ParseOptions where
  languageVersion : Text
  symbols : List Text
  documentation : Documentation
  deriving DecidableEq, Repr

/-- The options of a reading that was told nothing. -/
def ParseOptions.default : ParseOptions where
  languageVersion := "default"
  symbols := []
  documentation := .parse

/-- Everything that one run of the compiler was told. -/
structure CompilerArguments where
  compilation : CompilationOptions
  parse : ParseOptions
  sources : List Text
  references : List Text
  baseDirectory : Text
  outputName? : Option Text
  outputDirectory? : Option Text
  unrecognized : List Text
  deriving DecidableEq, Repr

/-- What a run in a directory was told by no argument at all. -/
def CompilerArguments.default (baseDirectory : Text) : CompilerArguments where
  compilation := .default
  parse := .default
  sources := []
  references := []
  baseDirectory := baseDirectory
  outputName? := none
  outputDirectory? := none
  unrecognized := []

end CompileTrace
