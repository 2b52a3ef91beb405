import CompileTrace.Capture.Registry
import CompileTrace.Program.Run

set_option autoImplicit false

/-! # The program

The outer layer around a run: it looks the environment and the files of the run up, and prints what
the run leaves. It starts no other programs, so that a build which is asked for cannot be
launched, and it has no client to serve. -/

namespace CompileTrace.Main

/-- The exit code for arguments that do not fit. -/
def usageCode : UInt32 := 2

/-- The exit code of a run that a fault ends. -/
def faultCode : UInt32 := 1

/-- How many values may lie one in the other in a dump. -/
def depth : Nat := 976

/-- A text for the outside; in place of half of a pair stands the replacement character. -/
def shown (s : Text) : String :=
  String.ofList (s.map (fun
    | char c => c
    | .half _ => '\uFFFD'))

/-- What stands at a path, as far as it can be read. -/
def entryAt? (path : Text) : IO (Option FileEntry) := do
  try
    let content ← IO.FS.readBinFile (shown path)
    return some (.file content.toList false)
  catch
    | .inappropriateType .. => return some .directory
    | _ => return none

/-- The disk with what stands at some paths. -/
def load (disk : Disk) (paths : List Text) : IO Disk :=
  paths.foldlM (fun d path => do
    match ← entryAt? path with
    | none => return d
    | some entry =>
      let place := Path.components (Path.absolute d.cwd path)
      return { d with tree := d.tree.add place entry }) disk

/-- The variables of the environment that a run heeds. -/
def environment : IO Environment := do
  let names := Options.readerVariable :: BuildTool.variable :: RootSettings.variableNames
  names.foldlM (fun known name => do
    match ← IO.getEnv (shown name) with
    | none => return known
    | some value => return Table.put known name value.toText) []

/-- The disk with the files that a run with some options looks at. -/
def diskFor (disk : Disk) (options : Options) : IO Disk := do
  let disk ← load disk (options.capture?.toList ++ options.invocations?.toList)
  match options.invocations? with
  | none => return disk
  | some path =>
    let assembler : Assembler := ⟨disk, disk.loader, csharp⟩
    load disk (assembler.mentioned (disk.readDump depth path))

/-- Prints what a run logged. -/
def printLog (logged : List LogRecord) : IO Unit :=
  logged.forM (fun record =>
    IO.eprintln (shown (record.1.name ++ ": " ++ record.2)))

/-- Prints what a run leaves, and gives its exit code. -/
def finish (report : RunReport) : IO UInt32 := do
  printLog report.logged
  IO.print (shown report.printed)
  match report.ending with
  | .ok code => return UInt32.ofNat code
  | .error fault =>
    IO.eprintln (shown fault.message)
    match fault with
    | .usage _ => return usageCode
    | _ => return faultCode

end CompileTrace.Main

open CompileTrace in
/-- Runs the program. -/
def main (arguments : List String) : IO UInt32 := do
  let known ← Main.environment
  let start : Disk := ⟨.empty, (toString (← IO.currentDir)).toText⟩
  let arguments : List Text := arguments.map String.toText
  let disk ← match Options.ofArguments known arguments with
    | .error _ => pure start
    | .ok options => Main.diskFor start options
  let program : Program :=
    ⟨disk, known, "/tmp", fun name => some (Disk.searchFault name), Main.depth, ReaderModule.own,
      ⟨[], [], 0, none, 0.0⟩, none⟩
  Main.finish (program.run arguments)
