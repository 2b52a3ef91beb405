import CompileTrace.Capture.Build
import CompileTrace.Json.Writer
import CompileTrace.Search.ProjectRoot

set_option autoImplicit false

/-! # The capture service

A service offers tools and resources around one current capture. Two tools make a capture, from a
build or from a dump, and only a call of theirs that succeeds changes the current one; the other
tools and the resources look at it. -/

namespace CompileTrace

/-! ## Tools -/

/-- A call of a tool. -/
inductive ToolCall
  | captureBuild (path? : Option Text) (configuration platform : Text)
      (properties : List (Text × Option Text)) (timeout? : Option Timeout)
  | assembleInvocations (path : Text)
  | listProjects (name? : Option Text)
  | projectArguments (id : Text)
  | listDocuments (id : Text)
  | document (id name : Text)

/-- The names of the tools in their order. -/
def toolNames : List Text :=
  ["assemble_invocations", "capture_build", "get_document", "get_project_arguments",
   "list_documents", "list_projects"]

/-- The configuration that is built unless another is asked for. -/
def defaultConfiguration : Text := "Debug"

/-- The platform that is built for unless another is asked for. -/
def defaultPlatform : Text := "Any CPU"

/-! ## Faults -/

/-- Why a tool did not do what it was called for. -/
inductive ServiceError
  | noCapture
  | unknownProject (id : Text)
  | unknownDocument (name : Text)
  | noArguments (id : Text)
  | noTarget (path? : Option Text)
  | path (error : FileError)
  | capture (error : CaptureError)
  deriving DecidableEq, Repr

namespace ServiceError

/-- How a path is told that may be absent. -/
def pathWord : Option Text → Text
  | some s => s.quoted
  | none => "None"

/-- The error in words. -/
def message : ServiceError → Text
  | noCapture => "No capture available. Run capture_build first."
  | unknownProject id => "Unknown project id: " ++ id
  | unknownDocument name => "Unknown document: " ++ name
  | noArguments id => "No arguments for project " ++ id
  | noTarget path? => "No solution or project file found for " ++ pathWord path?
  | path error => error.message
  | capture error => error.message

/-- What a failed or cancelled build left, if that is the error. -/
def failure? : ServiceError → Option BuildFailure
  | capture error => error.failure?
  | _ => none

end ServiceError

/-- What a tool answers. -/
abbrev ToolAnswer := Except ServiceError Json

/-- The answer as a JSON value. A build that failed is told with its output and diagnostics. -/
def ToolAnswer.toJson : ToolAnswer → Json
  | .ok data => .object [("success", .bool true), ("data", data)]
  | .error error =>
    match error.failure?.map BuildFailure.toJson with
    | some (.object members) => .object (("success", .bool false) :: members)
    | _ => .object [("success", .bool false), ("error", .text error.message)]

/-! ## Services -/

/-- What a service works with: how builds are run, the number of bytes that a line of their output
    may have and of values that may lie one in the other in a log or a dump, the reader of the logs,
    the project that it was started for, the environment, how the project root was set up, and what
    the client says about the directories it works in. -/
structure Service where
  setup : BuildSetup
  readLimit : Nat
  depth : Nat
  reader? : Option LogReader
  projectPath? : Option Text
  environment : Environment
  settings : RootSettings
  client : ClientRoots

/-- What a service remembers: the current capture, what assembly has used up, and the logs that
    its builds left behind. -/
structure ServiceState where
  capture? : Option Capture
  assembly : AssemblyState
  logs : Table LogFile

/-- The state of a service that was just started. -/
def ServiceState.initial : ServiceState := ⟨none, .initial, []⟩

namespace Service

/-- The reader that a specification names among some modules, if it is not empty. -/
def readerOf (modules : List ReaderModule) (spec? : Option Text) :
    Except ReaderError (Option LogReader) :=
  match spec? with
  | none | some [] => .ok none
  | some spec => (LogReader.ofSpec modules spec).map some

/-- The build tool: the one that is asked for, unless it is empty, or the one of the environment. -/
def toolPath (asked? : Option Text) (environment : Environment) : Text :=
  match asked? with
  | none | some [] => BuildTool.pathIn environment
  | some path => path

/-- What the service captures with. -/
def capturer (v : Service) : Capturer :=
  ⟨v.setup, v.readLimit, v.depth, v.reader?, v.setup.disk.loader, csharp⟩

/-! ### Finding the target -/

/-- The directory that relative paths are seen from, if there is one. -/
def root? (v : Service) : Except FileError (Option Text) :=
  match v.setup.disk.projectRoot? v.environment v.settings v.client with
  | .error error => .error error
  | .ok (some root) => .ok (some root)
  | .ok none => .ok (RootSettings.tidy? v.projectPath?)

/-- What a call is to build: the root itself if no path is given. -/
def targetPath? (root? path? : Option Text) : Option Text :=
  match root?, path? with
  | root?, none => root?
  | none, some path => some path
  | some root, some path => some (Path.tidy (Path.join root path))

/-- The build target that a call leads to. -/
def findTarget (v : Service) (path? : Option Text) : Except ServiceError Text := do
  let root? ← v.root?.mapError .path
  match targetPath? root? path? with
  | none => .error (.noTarget path?)
  | some path =>
    let search ← (v.setup.disk.findTarget path).mapError .path
    match search.target? with
    | none => .error (.noTarget path?)
    | some target => .ok target

/-! ### Tools that make a capture -/

/-- The state with what a call that makes a capture came to: the capture is the current one from
    now on if there is one, and otherwise the current one stays. -/
def replace (s : ServiceState) (made : Except ServiceError Capture) (assembly : AssemblyState)
    (left : Table LogFile) : ToolAnswer × ServiceState :=
  let after := { s with assembly := assembly, logs := s.logs ++ left }
  match made with
  | .error error => (.error error, after)
  | .ok capture => (.ok capture.toJson, { after with capture? := some capture })

/-- Builds and captures, in a session of its own. -/
def captureBuild (v : Service) (child : Child) (s : ServiceState) (path? : Option Text)
    (request : Text → BuildRequest) : ToolAnswer × ServiceState :=
  match v.findTarget path? with
  | .error error => (.error error, s)
  | .ok target =>
    let (made, after) := v.capturer.build child (request target) ⟨.start, s.assembly⟩
    replace s (made.mapError .capture) after.assembly after.session.logs

/-- Captures what a dump recorded. -/
def assembleInvocations (v : Service) (s : ServiceState) (path : Text) :
    ToolAnswer × ServiceState :=
  let (made, after) := v.capturer.capture (v.setup.disk.readDump v.depth path) s.assembly
  replace s (made.mapError (.capture ∘ .assembly)) after []

/-! ### Tools that look at the capture -/

/-- The current capture, which there has to be. -/
def current (s : ServiceState) : Except ServiceError Capture :=
  match s.capture? with
  | none => .error .noCapture
  | some capture => .ok capture

/-- A project of the current capture by the text of its identity. -/
def project (s : ServiceState) (id : Text) : Except ServiceError Project := do
  let capture ← current s
  match capture.assembled.workspace.find? id with
  | none => .error (.unknownProject id)
  | some project => .ok project

/-- The projects of the current capture, or those of a name that is not empty. -/
def listProjects (s : ServiceState) (name? : Option Text) : ToolAnswer := do
  let capture ← current s
  let projects := match name? with
    | none | some [] => capture.projects
    | some name => capture.assembled.workspace.named name
  .ok (.array (projects.map Project.toJson))

/-- The arguments that a project was compiled with. -/
def projectArguments (s : ServiceState) (id : Text) : ToolAnswer := do
  let found ← project s id
  let capture ← current s
  match capture.argumentsOf? found with
  | none => .error (.noArguments id)
  | some arguments => .ok arguments.toJson

/-- The documents of a project, without their texts. -/
def listDocuments (s : ServiceState) (id : Text) : ToolAnswer := do
  let found ← project s id
  .ok (.array (found.documents.map (Document.toJson false)))

/-- A document of a project with its text. -/
def document (s : ServiceState) (id name : Text) : ToolAnswer := do
  let found ← project s id
  match found.document? name with
  | none => .error (.unknownDocument name)
  | some document => .ok (document.toJson true)

/-! ### Calls -/

/-- What a call answers, and the state after it. A build that it runs behaves as `child`. -/
def call (v : Service) (child : Child) (s : ServiceState) : ToolCall → ToolAnswer × ServiceState
  | .captureBuild path? configuration platform properties timeout? =>
    v.captureBuild child s path?
      (fun target => ⟨some target, configuration, platform, properties, timeout?⟩)
  | .assembleInvocations path => v.assembleInvocations s path
  | .listProjects name? => (listProjects s name?, s)
  | .projectArguments id => (projectArguments s id, s)
  | .listDocuments id => (listDocuments s id, s)
  | .document id name => (document s id name, s)

end Service

end CompileTrace
