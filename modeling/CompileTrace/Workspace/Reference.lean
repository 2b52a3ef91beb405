import CompileTrace.FileTree.Basic
import CompileTrace.Table

set_option autoImplicit false

/-! # Metadata references

Projects refer to compiled libraries by path. A cache loads each library once, whatever spellings
of its path are asked for, and hands out the same handle for it every time. -/

namespace CompileTrace

/-- Why a library could not be loaded: its file cannot be used, its path leads to no file, or a
    loader refused it for a reason of its own. -/
inductive ReferenceError
  | unreadable (path : Text) (error : FileError)
  | notAFile (path : Text)
  | refused (reason : Text)
  deriving DecidableEq, Repr

/-- The error in words. What can be no path at all is not named as one. -/
def ReferenceError.message : ReferenceError → Text
  | .unreadable _ (.unusable fault) => fault.message
  | .unreadable path error => "Cannot load metadata reference " ++ path ++ ": " ++ error.message
  | .notAFile path => "Metadata reference is not a file: " ++ path
  | .refused reason => reason

/-- A library that was loaded: the handle that tells it from every other load, the path that was
    asked for, and its size. -/
structure Reference where
  handle : Nat
  path : Text
  size : Nat
  deriving DecidableEq, Repr

/-- The name that a reference is shown by. -/
def Reference.display (reference : Reference) : Text := Path.fileName reference.path

/-- What loads a library: the size of what a path names, or why it names none. -/
abbrev Loader := Text → Except ReferenceError Nat

/-- The loader that looks at the files of a disk. -/
def Disk.loader (disk : Disk) : Loader := fun path =>
  match disk.entry path with
  | .error error => .error (.unreadable path error)
  | .ok .directory => .error (.notAFile path)
  | .ok (.file content _) => .ok content.length

/-- The libraries loaded so far by the normal form of their paths, the paths given to the loader in
    order, and the handle that the next load gets. -/
structure ReferenceCache where
  entries : Table Reference
  loads : List Text
  nextHandle : Nat
  deriving DecidableEq, Repr

namespace ReferenceCache

/-- A cache with nothing loaded, whose handles begin at a given one. -/
def start (nextHandle : Nat) : ReferenceCache := ⟨[], [], nextHandle⟩

/-- What all spellings of a path have in common. -/
def key (cwd path : Text) : Text := Path.normalize (Path.absolute cwd path)

/-- Whether a library is loaded. -/
def contains (cache : ReferenceCache) (cwd path : Text) : Bool :=
  (cache.entries.get? (key cwd path)).isSome

/-- The cache with nothing loaded any more. -/
def clear (cache : ReferenceCache) : ReferenceCache := { cache with entries := [] }

/-- The cache after a path was given to the loader. -/
def noteLoad (cache : ReferenceCache) (path : Text) : ReferenceCache :=
  { cache with loads := cache.loads ++ [path] }

/-- The reference for a path: the one loaded before, or a new one. A load that fails leaves nothing
    behind. -/
def get (cache : ReferenceCache) (cwd : Text) (load : Loader) (path : Text) :
    Except ReferenceError Reference × ReferenceCache :=
  match cache.entries.get? (key cwd path) with
  | some reference => (.ok reference, cache)
  | none =>
    match load path with
    | .error error => (.error error, cache.noteLoad path)
    | .ok size =>
      let reference : Reference := ⟨cache.nextHandle, path, size⟩
      (.ok reference,
        { entries := cache.entries.put (key cwd path) reference
          loads := cache.loads ++ [path]
          nextHandle := cache.nextHandle + 1 })

/-- The references for paths, in order, up to the first that cannot be loaded. -/
def getAll (cache : ReferenceCache) (cwd : Text) (load : Loader) :
    List Text → Except ReferenceError (List Reference) × ReferenceCache
  | [] => (.ok [], cache)
  | path :: rest =>
    match cache.get cwd load path with
    | (.error error, after) => (.error error, after)
    | (.ok reference, after) =>
      match after.getAll cwd load rest with
      | (.error error, last) => (.error error, last)
      | (.ok references, last) => (.ok (reference :: references), last)

end ReferenceCache

/-- The references without those whose handle was there before. -/
def distinctReferences (references : List Reference) : List Reference :=
  references.foldl
    (fun kept r => if r.handle ∈ kept.map Reference.handle then kept else kept ++ [r]) []

end CompileTrace
