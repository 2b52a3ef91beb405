import CompileTrace.Text.Blank

set_option autoImplicit false

/-! # Paths

A path is a text whose components stand between slashes. How a path begins matters: with no slash
it is relative, with one slash it is absolute, and a beginning of exactly two slashes is a root of
its own; three and more count as one.

Two plain forms of a path are used. The tidy form drops what no file system heeds, empty
components and single dots. The normal form also takes back the component before each double
dot. -/

namespace CompileTrace.Path

/-! ## Beginning and components -/

/-- The slashes that a path begins with, as far as they count. -/
def root : Text → Text
  | char '/' :: char '/' :: char '/' :: _ => [char '/']
  | char '/' :: char '/' :: _ => [char '/', char '/']
  | char '/' :: _ => [char '/']
  | _ => []

/-- Whether a path begins with a slash. -/
def isAbsolute (path : Text) : Bool := path.head? == some (char '/')

/-- The components of a path, without the empty ones and the single dots. -/
def components (path : Text) : List Text :=
  (path.fieldsBy (· == char '/')).filter (fun part => !part.isEmpty && part != [char '.'])

/-- The path of a root and components; a path of neither is a dot. -/
def ofComponents (root : Text) (parts : List Text) : Text :=
  if root.isEmpty && parts.isEmpty then [char '.'] else root ++ Text.join [char '/'] parts

/-- A path with its empty components and single dots dropped. -/
def tidy (path : Text) : Text := ofComponents (root path) (components path)

/-! ## Normal form -/

/-- A double dot. -/
def parent : Text := [char '.', char '.']

/-- One more component after the components so far, which stand back to front. A double dot takes
    the last one back; with none left it is dropped in an absolute path and kept in a relative
    one. -/
def pushComponent (absolute : Bool) (parts : List Text) (part : Text) : List Text :=
  if part = parent then
    match parts with
    | [] => if absolute then [] else [part]
    | last :: before => if last = parent then part :: parts else before
  else part :: parts

/-- The components of the normal form, from the components of a path. -/
def collapse (absolute : Bool) (parts : List Text) : List Text :=
  (parts.foldl (pushComponent absolute) []).reverse

/-- The normal form of a path. -/
def normalize (path : Text) : Text :=
  ofComponents (root path) (collapse (isAbsolute path) (components path))

/-- A path with the plain root in the stead of the root of two slashes, which the file system does
    not tell from it. -/
def underPlainRoot (path : Text) : Text :=
  match root path with
  | [char '/', char '/'] => path.drop 1
  | _ => path

/-! ## Joining -/

/-- A path seen from a directory: an absolute path stays what it is. -/
def join (directory path : Text) : Text :=
  if isAbsolute path then path
  else if directory.isEmpty || directory.getLast? == some (char '/') then directory ++ path
  else directory ++ char '/' :: path

/-- The normal form of a path seen from a directory. -/
def resolve (directory path : Text) : Text := normalize (join directory path)

/-- The absolute path of a path, given the working directory. -/
def absolute (cwd path : Text) : Text := resolve cwd path

/-! ## Parts of a path -/

/-- The text after the last slash. -/
def fileName (path : Text) : Text := (path.reverse.takeWhile (· ≠ char '/')).reverse

/-- The text up to the last slash, without the slashes at its end unless it has nothing else. -/
def directory (path : Text) : Text :=
  let head := path.dropEndWhile (· ≠ char '/')
  if head.all (· == char '/') then head else head.dropEndWhile (· == char '/')

/-- The file name without its extension: the last dot and what follows it, unless there are only
    dots before it. -/
def stem (path : Text) : Text :=
  let name := fileName path
  match name.reverse.span (· ≠ char '.') with
  | (_, []) => name
  | (_, _ :: before) => if before.all (· == char '.') then name else before.reverse

/-- Whether a component has a given extension. -/
def hasExtension (extension name : Text) : Bool := name.endsWith (char '.' :: extension)

/-- The path of a component in a directory, both in tidy form. -/
def child (directory name : Text) : Text :=
  if directory = [char '.'] then name else tidy (join directory name)

/-- The directories above an absolute path in tidy form, from the nearest up to the root, after
    the path itself. -/
def selfAndAbove (path : Text) : List Text :=
  let parts := components path
  (List.range (parts.length + 1)).map (fun n =>
    ofComponents (root path) (parts.take (parts.length - n)))

end CompileTrace.Path
