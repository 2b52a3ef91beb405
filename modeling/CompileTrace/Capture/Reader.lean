import CompileTrace.Capture.Module

set_option autoImplicit false

/-! # Readers of build logs

What reads the invocations out of a build's log is chosen by name: a module and what it offers,
with a colon between them. The parts of the module's name lead down the tree of packages among the
modules that are at hand. -/

namespace CompileTrace

/-- A reader: the only kind there is takes the log for an invocation dump. -/
inductive LogReader
  | dump
  deriving DecidableEq, Repr

/-- The name of a reader. -/
def LogReader.name : LogReader → Text
  | .dump => "JsonInvocationReader"

/-- Every reader. -/
def LogReader.all : List LogReader := [.dump]

/-! ## Faults -/

/-- Why no reader goes by a name. -/
inductive ReaderError
  | badForm (spec : Text)
  | missingModule (spec module : Text)
  | notAPackage (spec module parent : Text)
  | missingOffer (spec module name : Text)
  | notAReader (spec : Text)
  /-- The name of the module begins with a dot, but there is no package to start from. -/
  | relative (module : Text)
  /-- What the module offers has to be made and cannot, for a reason in words. -/
  | unmakeable (reason : Text)
  deriving DecidableEq, Repr

namespace ReaderError

/-- A reason why a reader cannot be loaded. -/
def cannotLoad (spec reason : Text) : Text := "Cannot load reader `" ++ spec ++ "`: " ++ reason

/-- The error in words. -/
def message : ReaderError → Text
  | badForm spec => "Invalid reader `" ++ spec ++ "`, expected module:attribute"
  | missingModule spec name => cannotLoad spec ("No module named " ++ name.quoted)
  | notAPackage spec name parent =>
    cannotLoad spec
      ("No module named " ++ name.quoted ++ "; " ++ parent.quoted ++ " is not a package")
  | missingOffer spec name offer =>
    cannotLoad spec ("module '" ++ name ++ "' has no attribute '" ++ offer ++ "'")
  | notAReader spec => "Reader `" ++ spec ++ "` has no read_invocations method"
  | relative name =>
    "the 'package' argument is required to perform a relative import for " ++ name.quoted
  | unmakeable reason => reason

/-- Whether a run tells an error and ends with a code. -/
def isTold : ReaderError → Bool
  | relative _ | unmakeable _ => false
  | _ => true

end ReaderError

/-! ## Finding a reader -/

namespace LogReader

/-- The module that the parts of a name lead to, from the module found so far. -/
def descend (modules : List ReaderModule) (spec : Text) (found : ReaderModule) :
    List Text → Except ReaderError ReaderModule
  | [] => .ok found
  | part :: rest =>
    let name := found.name ++ char '.' :: part
    match modules.find? (fun m => m.name = name) with
    | some next => descend modules spec next rest
    | none =>
      if found.isPackage then .error (.missingModule spec name)
      else .error (.notAPackage spec name found.name)

/-- The module of a name with dots between its parts. -/
def findModule (modules : List ReaderModule) (spec name : Text) : Except ReaderError ReaderModule :=
  match name.fieldsBy (· == char '.') with
  | [] => .error (.missingModule spec name)
  | [] :: _ => .error (.relative name)
  | first :: rest =>
    match modules.find? (fun m => m.name = first) with
    | some found => descend modules spec found rest
    | none => .error (.missingModule spec first)

/-- The reader that a module offers under a name. -/
def ofOffer (spec : Text) (found : ReaderModule) (name : Text) : Except ReaderError LogReader :=
  if found.hasOffer name then
    match all.find? (fun r => r.name = name), found.makingFault? name with
    | some reader, _ => .ok reader
    | none, some reason => .error (.unmakeable reason)
    | none, none => .error (.notAReader spec)
  else .error (.missingOffer spec found.ownName name)

/-- The reader that goes by a name. -/
def ofSpec (modules : List ReaderModule) (spec : Text) : Except ReaderError LogReader :=
  match spec.cutAt? (char ':') with
  | none | some ([], _) | some (_, []) => .error (.badForm spec)
  | some (moduleName, name) =>
    match findModule modules spec moduleName with
    | .error error => .error error
    | .ok found => ofOffer spec found name

end LogReader

end CompileTrace
