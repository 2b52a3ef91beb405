import CompileTrace.FileTree.Basic

set_option autoImplicit false

/-! # Finding what to build

A path leads to a build target if it is a file, or a directory with a single solution in it, or
else with a single project. -/

namespace CompileTrace

/-- The extensions of solutions. -/
def solutionExtensions : List Text := ["sln", "slnx"]

/-- The extensions of projects. -/
def projectExtensions : List Text := ["csproj", "vbproj", "fsproj"]

/-- Whether a name has one of some extensions. -/
def hasOneOf (extensions : List Text) (name : Text) : Bool :=
  extensions.any (fun e => Path.hasExtension e name)

/-- What a search for a build target comes to. -/
inductive TargetSearch
  | found (path : Text)
  | nothing
  | severalSolutions (directory : Text)
  | severalProjects (directory : Text)
  deriving DecidableEq, Repr

namespace TargetSearch

/-- The target, if one was found. -/
def target? : TargetSearch → Option Text
  | found path => some path
  | _ => none

/-- What a reader is warned of: a choice that has to be made. -/
def warning? : TargetSearch → Option Text
  | severalSolutions directory =>
    some ("Several solution files in " ++ directory ++ ", specify one explicitly")
  | severalProjects directory =>
    some ("Several project files in " ++ directory ++ ", specify one explicitly")
  | _ => none

/-- The target among the names in a directory. -/
def among (directory : Text) (names : List Text) : TargetSearch :=
  match names.filter (hasOneOf solutionExtensions) with
  | [name] => found (Path.child directory name)
  | _ :: _ :: _ => severalSolutions directory
  | [] =>
    match names.filter (hasOneOf projectExtensions) with
    | [name] => found (Path.child directory name)
    | _ :: _ :: _ => severalProjects directory
    | [] => nothing

end TargetSearch

/-- What a path leads to; a fault on the way that is no absence is an error. -/
def Disk.findTarget (disk : Disk) (path : Text) : Except FileError TargetSearch :=
  let path := Path.tidy path
  match disk.probe path with
  | .error error => .error error
  | .ok (some (.file _ _)) => .ok (.found path)
  | .ok (some .directory) => .ok (.among path (disk.namesIn path))
  | .ok none => .ok .nothing

end CompileTrace
