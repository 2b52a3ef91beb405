import CompileTrace.CommandLine.Executable
import CompileTrace.Compiler.Arguments
import CompileTrace.Invocation.Dump
import CompileTrace.Workspace.Basic
import CompileTrace.Workspace.Source

set_option autoImplicit false

/-! # Assembling a workspace

The records of invocations become projects, one for each invocation in the language that is
captured, in the order of the recording. The first thing that fails ends the assembly, and nothing
of it is kept but what it used up: identities and handles. -/

namespace CompileTrace

/-! ## Faults -/

/-- Why a recording does not become a workspace. -/
inductive AssemblyError
  | dump (error : DumpError)
  | kind (fault : KindFault)
  | commandLine (fault : UnclosedRegion)
  | directory (projectFile : Text) (fault : KindFault)
  | arguments (projectFile : Text) (fault : ArgumentFault)
  | reference (error : ReferenceError)
  | source (error : SourceError)
  | duplicate (fault : DuplicateProject)
  deriving DecidableEq, Repr

namespace AssemblyError

/-- A reason why the arguments of a project cannot be interpreted. -/
def cannotInterpret (projectFile reason : Text) : Text :=
  "Unable to interpret arguments of " ++ projectFile ++ ": " ++ reason

/-- The error in words. Digits that no number is read from are told with the project that they
    stand in. -/
def message : AssemblyError → Text
  | dump error => error.message
  | kind fault => fault.message
  | commandLine fault => fault.message
  | directory projectFile fault => cannotInterpret projectFile fault.message
  | arguments projectFile (.number fault) => cannotInterpret projectFile fault.message
  | arguments _ fault => fault.message
  | reference error => error.message
  | source error => error.message
  | duplicate fault => fault.message

end AssemblyError

/-! ## One project -/

/-- What assembly works with: the disk that sources are on, the loader of libraries, and the
    language that is captured. -/
structure Assembler where
  disk : Disk
  load : Loader
  language : Text

/-- What assembly uses up: the number of the next identity, and the libraries loaded. -/
structure AssemblyState where
  nextId : Nat
  cache : ReferenceCache
  deriving DecidableEq, Repr

/-- A project and the arguments that it was compiled with. -/
abbrev Compiled := Project × CompilerArguments

namespace Assembler

/-- The invocation that a record describes, and the arguments that it tells the compiler. What the
    record holds is used in this order: the command line, which is cut into tokens, the directory,
    the arguments, and the path of the project, which faults before it only show. -/
def read (a : Assembler) (r : Record) : Except AssemblyError (Invocation × CompilerArguments) := do
  let shownFile := r.projectFile.shown
  let commandLine ← r.commandLineText.mapError .kind
  let tokens ← (tokenize (dropExecutable commandLine)).mapError .commandLine
  let directory ← r.projectDirectoryText.mapError (.directory shownFile)
  let arguments ←
    (CompilerArguments.interpret a.disk.cwd directory (tokens.map Token.value)).mapError
      (.arguments shownFile)
  let projectFile ← r.projectFileText.mapError .kind
  .ok (⟨a.language, projectFile, directory, commandLine⟩, arguments)

/-- The files that the assembly of a recording looks at, as far as its records can be used. -/
def mentioned (a : Assembler) (recording : Recording) : List Text :=
  recording.records.flatMap (fun r =>
    match a.read r with
    | .error _ => []
    | .ok (_, arguments) => arguments.references ++ arguments.sources)

/-- The document of a source file. -/
def document (a : Assembler) (i : Invocation) (path : Text) : Except SourceError Document :=
  (a.disk.readSource path).map (fun text => ⟨documentName path i.projectDirectory, path, text⟩)

/-- The project that an invocation compiled, from its parts. -/
def project (i : Invocation) (id : ProjectId) (arguments : CompilerArguments)
    (references : List Reference) (documents : List Document) : Project where
  id := id
  name := Path.stem i.projectFile
  language := i.language
  compilation := arguments.compilation
  parse := arguments.parse
  references := distinctReferences references
  documents := documents
  filePath? := some i.projectFile

/-- The project that an invocation with some arguments compiled. An identity is used up; then come
    the libraries, and then the sources. -/
def build (a : Assembler) (i : Invocation) (arguments : CompilerArguments) (s : AssemblyState) :
    Except AssemblyError Compiled × AssemblyState :=
  match s.cache.getAll a.disk.cwd a.load arguments.references with
  | (.error error, cache) => (.error (.reference error), ⟨s.nextId + 1, cache⟩)
  | (.ok references, cache) =>
    match arguments.sources.mapM (a.document i) with
    | .error error => (.error (.source error), ⟨s.nextId + 1, cache⟩)
    | .ok documents =>
      (.ok (project i ⟨s.nextId⟩ arguments references documents, arguments),
        ⟨s.nextId + 1, cache⟩)

/-- The project that a record describes. Nothing is used up unless its arguments can be
    interpreted. -/
def create (a : Assembler) (r : Record) (s : AssemblyState) :
    Except AssemblyError Compiled × AssemblyState :=
  match a.read r with
  | .error error => (.error error, s)
  | .ok (i, arguments) => a.build i arguments s

end Assembler

/-! ## All projects -/

/-- The projects assembled so far, and the arguments of each. -/
structure Assembled where
  workspace : Workspace
  arguments : List (ProjectId × CompilerArguments)

namespace Assembled

/-- Nothing assembled. -/
def empty : Assembled := ⟨.empty, []⟩

/-- One more project with its arguments. -/
def add (assembled : Assembled) (compiled : Compiled) : Except DuplicateProject Assembled :=
  (assembled.workspace.add compiled.1).map (fun w =>
    ⟨w, assembled.arguments ++ [(compiled.1.id, compiled.2)]⟩)

/-- The arguments that the project of an identity was compiled with. -/
def arguments? (assembled : Assembled) (id : ProjectId) : Option CompilerArguments :=
  assembled.arguments.lookup id

end Assembled

namespace Assembler

/-- Assembles the rest of a recording onto what is assembled. -/
def assembleOnto (a : Assembler) (assembled : Assembled) (s : AssemblyState) :
    Recording → Except AssemblyError Assembled × AssemblyState
  | [] => (.ok assembled, s)
  | .error error :: _ => (.error (.dump error), s)
  | .ok r :: rest =>
    if r.isOf a.language then
      match a.create r s with
      | (.error error, after) => (.error error, after)
      | (.ok compiled, after) =>
        match assembled.add compiled with
        | .error fault => (.error (.duplicate fault), after)
        | .ok more => a.assembleOnto more after rest
    else a.assembleOnto assembled s rest

/-- The state in which the next assembly starts: what was loaded before is forgotten, and no
    identity or handle comes again. -/
def fresh (s : AssemblyState) : AssemblyState := ⟨s.nextId, .start s.cache.nextHandle⟩

/-- Assembles a recording. -/
def assemble (a : Assembler) (recording : Recording) (s : AssemblyState) :
    Except AssemblyError Assembled × AssemblyState :=
  a.assembleOnto .empty (fresh s) recording

end Assembler

/-- The state before anything was assembled; identities begin at one. -/
def AssemblyState.initial : AssemblyState := ⟨1, .start 0⟩

end CompileTrace
