import CompileTrace.Search.BuildTarget
import CompileTrace.Table
import CompileTrace.Uri.File

set_option autoImplicit false

/-! # Finding the root of a project

The root of the project that a directory belongs to is marked by what stands in it: the nearest
directory above with a solution, else with a project, else with a repository. Which directory to
start from, or to take as it is, is told by a client, by the environment or by the command line,
in this order. -/

namespace CompileTrace

/-! ## Marks -/

/-- A path as the file system sees it: absolute and in normal form, under the plain root. -/
def resolvePath (disk : Disk) (path : Text) : Text :=
  Path.underPlainRoot (Path.absolute disk.cwd path)

/-- Whether a directory has an entry of one of some extensions; what is no directory has none. -/
def Disk.holdsOneOf (disk : Disk) (extensions : List Text) (path : Text) :
    Except FileError Bool :=
  match disk.probe path with
  | .error error => .error error
  | .ok (some .directory) => .ok ((disk.namesIn path).any (hasOneOf extensions))
  | .ok _ => .ok false

/-- The directory that marks a repository. -/
def repositoryName : Text := ".git"

/-- Whether a repository stands in a directory. -/
def Disk.holdsRepository (disk : Disk) (path : Text) : Except FileError Bool :=
  (disk.probe (Path.child path repositoryName)).map Option.isSome

/-- The first of some paths with a mark. -/
def firstMarked? (mark : Text → Except FileError Bool) :
    List Text → Except FileError (Option Text)
  | [] => .ok none
  | path :: rest =>
    match mark path with
    | .error error => .error error
    | .ok true => .ok (some path)
    | .ok false => firstMarked? mark rest

/-- The root of the project that a path belongs to: the nearest directory with a mark of the
    strongest kind, and the path itself if there is no mark. -/
def Disk.findRoot (disk : Disk) (start : Text) : Except FileError Text :=
  match Path.followFault? start with
  | some fault => .error (.unusable fault)
  | none => do
    let path := resolvePath disk start
    let above := Path.selfAndAbove path
    match ← firstMarked? (disk.holdsOneOf ["sln"]) above with
    | some found => .ok found
    | none =>
      match ← firstMarked? (disk.holdsOneOf projectExtensions) above with
      | some found => .ok found
      | none =>
        match ← firstMarked? disk.holdsRepository above with
        | some found => .ok found
        | none => .ok path

/-! ## Where to look -/

/-- Environment variables that have a value. -/
abbrev Environment := Table Text

/-- How the project root was set up: the directory at the start, whether to search from there, and
    a directory that was asked for. -/
structure RootSettings where
  startup? : Option Text
  searchFromStartup : Bool
  explicit? : Option Text
  deriving DecidableEq, Repr

namespace RootSettings

/-- Nothing set up. -/
def none : RootSettings := ⟨.none, false, .none⟩

/-- A path in tidy form, if it is not empty. -/
def tidy? (path? : Option Text) : Option Text :=
  (path?.filter (fun p => !p.isEmpty)).map Path.tidy

/-- Settings from paths as they were given. -/
def ofGiven (startup? explicit? : Option Text) (searchFromStartup : Bool) : RootSettings :=
  ⟨tidy? startup?, searchFromStartup, tidy? explicit?⟩

/-- The environment variables that may name the root, the first to be heeded first. -/
def variableNames : List Text := ["BUILDCAPTURE_PROJECT_ROOT", "MCP_PROJECT_ROOT"]

end RootSettings

/-- What a client says about the directories it works in. -/
inductive ClientRoots
  | noClient
  | failing
  | uris (list : List Text)
  deriving DecidableEq, Repr

/-- The directory that a client works in, if it says so in a way that can be used. -/
def Disk.clientRoot? (disk : Disk) : ClientRoots → Option Text
  | .uris (uri :: _) =>
    match Uri.filePath? uri with
    | .ok (some path) => if disk.isDirectory path then some path else none
    | _ => none
  | _ => none

/-- The first variable of the environment that names a directory. -/
def Disk.environmentRoot? (disk : Disk) (environment : Environment) :
    List Text → Except FileError (Option Text)
  | [] => .ok none
  | name :: names =>
    match RootSettings.tidy? (environment.get? name) with
    | none => disk.environmentRoot? environment names
    | some path =>
      match disk.probe path with
      | .error error => .error error
      | .ok (some .directory) => .ok (some path)
      | .ok _ => disk.environmentRoot? environment names

/-- The directory that was asked for, if it is one. -/
def Disk.explicitRoot? (disk : Disk) (settings : RootSettings) : Except FileError (Option Text) :=
  match settings.explicit? with
  | none => .ok none
  | some path =>
    (disk.probe path).map (fun entry => if entry = some .directory then some path else none)

/-- The root that the directory at the start gives, by a search or by itself. -/
def Disk.startupRoot? (disk : Disk) (settings : RootSettings) : Except FileError (Option Text) :=
  match settings.startup? with
  | none => .ok none
  | some path =>
    if settings.searchFromStartup then (disk.findRoot path).map some else .ok (some path)

/-- The project root, if anything names it. -/
def Disk.projectRoot? (disk : Disk) (environment : Environment) (settings : RootSettings)
    (client : ClientRoots) : Except FileError (Option Text) := do
  match disk.clientRoot? client with
  | some path => .ok (some path)
  | none =>
    match ← disk.environmentRoot? environment RootSettings.variableNames with
    | some path => .ok (some path)
    | none =>
      match ← disk.explicitRoot? settings with
      | some path => .ok (some path)
      | none => disk.startupRoot? settings

end CompileTrace
