import CompileTrace.Path.Encoded

set_option autoImplicit false

/-! # File trees

Directories and files under one root, without links. A path is walked component by component: each
step needs a directory to start from, which may be entered, and an entry to arrive at, and what is
in the way is the fault that a caller sees. -/

namespace CompileTrace

/-! ## Faults -/

/-- What is in the way of using a path. -/
inductive FileFault
  | missing
  | notRunnable
  | denied
  | notDirectory
  | isDirectory
  | nameTooLong
  | tooManyLevels
  deriving DecidableEq, Repr

namespace FileFault

/-- The number that the system gives a fault. -/
def number : FileFault → Nat
  | missing => 2
  | notRunnable => 8
  | denied => 13
  | notDirectory => 20
  | isDirectory => 21
  | nameTooLong => 36
  | tooManyLevels => 40

/-- The fault in words. -/
def message : FileFault → Text
  | missing => "No such file or directory"
  | notRunnable => "Exec format error"
  | denied => "Permission denied"
  | notDirectory => "Not a directory"
  | isDirectory => "Is a directory"
  | nameTooLong => "File name too long"
  | tooManyLevels => "Too many levels of symbolic links"

/-- Whether a fault tells that nothing is there: there is no such entry, or no way to it. -/
def isAbsence : FileFault → Bool
  | missing | notDirectory | tooManyLevels => true
  | notRunnable | denied | isDirectory | nameTooLong => false

end FileFault

/-- Why a path could not be used: the system met a fault at it, or it could not be given to the
    system. -/
inductive FileError
  | system (fault : FileFault) (path : Text)
  | unusable (fault : TextFault)
  deriving DecidableEq, Repr

/-- The error in words. -/
def FileError.message : FileError → Text
  | .system fault path =>
    "[Errno " ++ Text.ofNat fault.number ++ "] " ++ fault.message ++ ": " ++ path.quoted
  | .unusable fault => fault.message

/-! ## Trees -/

/-- What stands in a tree. -/
inductive FileEntry
  | directory
  | file (content : Bytes) (runnable : Bool)
  deriving DecidableEq, Repr

/-- Where an entry stands: the components of its path from the root. -/
abbrev Place := List Text

/-- The entries of a tree below its root, the places of directories that may not be entered, and the
    places of what may not be read; a directory that may not be read does not tell its names. -/
structure FileTree where
  entries : List (Place × FileEntry)
  closed : List Place
  unreadable : List Place
  deriving Repr

namespace FileTree

/-- A tree of nothing but its root. -/
def empty : FileTree := ⟨[], [], []⟩

/-- What stands at a place; the root is a directory. -/
def entryAt? (tree : FileTree) (place : Place) : Option FileEntry :=
  if place.isEmpty then some .directory else tree.entries.lookup place

/-- The tree with an entry put at a place, in the stead of what was there. -/
def put (tree : FileTree) (place : Place) (entry : FileEntry) : FileTree :=
  { tree with entries := (place, entry) :: tree.entries.filter (fun e => e.1 != place) }

/-- The tree with a directory at a place, if nothing stood there. -/
def ensureDirectory (tree : FileTree) (place : Place) : FileTree :=
  match tree.entryAt? place with
  | some _ => tree
  | none => tree.put place .directory

/-- The tree with an entry put at a place and directories on the way to it. -/
def add (tree : FileTree) (place : Place) (entry : FileEntry) : FileTree :=
  let onTheWay := (List.range place.length).map place.take
  (onTheWay.foldl ensureDirectory tree).put place entry

/-- The names of the entries that stand directly in the directory at a place. -/
def namesIn (tree : FileTree) (place : Place) : List Text :=
  tree.entries.filterMap (fun e =>
    if e.1.dropLast = place then e.1.getLast? else none)

/-- The names that the directory at a place tells. -/
def told (tree : FileTree) (place : Place) : List Text :=
  if tree.unreadable.contains place then [] else tree.namesIn place

/-! ## Walking a path -/

/-- The most bytes that a component may have. -/
def componentLimit : Nat := 255

/-- The number of bytes that a path must stay below. -/
def pathLimit : Nat := 4096

/-- One step of a walk, from a place to the component's place; an empty component asks for no more
    than a directory. -/
def step (tree : FileTree) (place : Place) (part : Text) : Except FileFault Place :=
  match tree.entryAt? place with
  | none => .error .missing
  | some (.file _ _) => .error .notDirectory
  | some .directory =>
    if part.isEmpty then .ok place
    else if tree.closed.contains place then .error .denied
    else if part = [char '.'] then .ok place
    else if part = Path.parent then .ok place.dropLast
    else if componentLimit < (Path.bytes part).length then .error .nameTooLong
    else if (tree.entryAt? (place ++ [part])).isNone then .error .missing
    else .ok (place ++ [part])

/-- The components that a walk takes: those between slashes that are not empty, and an empty one for
    a slash at the end. -/
def stepsOf (path : Text) : List Text :=
  (path.fieldsBy (· == char '/')).filter (fun part => !part.isEmpty)
    ++ (if path.getLast? == some (char '/') then [[]] else [])

/-- The place that a path leads to from a place to start at. -/
def walk (tree : FileTree) (start : Place) (path : Text) : Except FileFault Place :=
  if path.isEmpty then .error .missing
  else if pathLimit ≤ (Path.bytes path).length then .error .nameTooLong
  else (stepsOf path).foldlM (step tree) (if Path.isAbsolute path then [] else start)

end FileTree

/-! ## A tree and a working directory -/

/-- A file tree seen from a working directory. -/
structure Disk where
  tree : FileTree
  cwd : Text

namespace Disk

/-- What a path leads to. -/
def entry (disk : Disk) (path : Text) : Except FileError FileEntry :=
  match Path.textFault? path with
  | some fault => .error (.unusable fault)
  | none =>
    match disk.tree.walk (Path.components disk.cwd) path with
    | .error fault => .error (.system fault path)
    | .ok place =>
      match disk.tree.entryAt? place with
      | none => .error (.system .missing path)
      | some entry => .ok entry

/-- Whether what a path leads to may be read. -/
def mayRead (disk : Disk) (path : Text) : Bool :=
  match disk.tree.walk (Path.components disk.cwd) path with
  | .error _ => false
  | .ok place => !disk.tree.unreadable.contains place

/-- The content of the file at a path. -/
def read (disk : Disk) (path : Text) : Except FileError Bytes :=
  match disk.entry path, disk.mayRead path with
  | .error e, _ => .error e
  | .ok _, false => .error (.system .denied path)
  | .ok .directory, true => .error (.system .isDirectory path)
  | .ok (.file content _), true => .ok content

/-- Whether a path leads to a file. -/
def isFile (disk : Disk) (path : Text) : Bool :=
  match disk.entry path with
  | .ok (.file _ _) => true
  | _ => false

/-- Whether a path leads to a directory. -/
def isDirectory (disk : Disk) (path : Text) : Bool :=
  match disk.entry path with
  | .ok .directory => true
  | _ => false

/-- What a path leads to, where a fault that tells of an absence is no error: such a path leads to
    nothing. -/
def probe (disk : Disk) (path : Text) : Except FileError (Option FileEntry) :=
  match disk.entry path with
  | .ok entry => .ok (some entry)
  | .error (.unusable _) => .ok none
  | .error (.system fault _) =>
    if fault.isAbsence then .ok none else .error (.system fault path)

/-- The names that the directory at a path tells. -/
def namesIn (disk : Disk) (path : Text) : List Text :=
  match disk.tree.walk (Path.components disk.cwd) path with
  | .error _ => []
  | .ok place => disk.tree.told place

end Disk

end CompileTrace
