import CompileTrace.Capture.Module

set_option autoImplicit false

/-! # The modules of the program

A reader is named by a module and what the module offers. The program's own modules form a tree of
packages, and most of what they offer is no reader. It is listed here all the same, so that a name
that leads to something else can be told from a name that leads nowhere. Which other modules are at
hand depends on where the program runs. -/

namespace CompileTrace.ReaderModule

/-! ## What cannot be made -/

/-- What cannot be made without arguments, and which it needs. -/
def withArguments : List (Text × List Text) :=
  [("TokenizerError", ["message"]),
   ("BuildFailure", ["message"]),
   ("BuildResult", ["log_path", "target_path", "properties"]),
   ("BuildDiagnostic", ["severity", "code", "message"]),
   ("CaptureResult", ["workspace", "command_line_arguments"]),
   ("WorkspaceBuilder", ["interpreter", "references"]),
   ("Document", ["name", "file_path", "text"]),
   ("Project", ["id", "name", "language", "compilation_options", "parse_options"]),
   ("ProjectId", ["id"]),
   ("MetadataReference", ["path", "size", "modified"]),
   ("Invocation",
     ["language", "project_file_path", "project_directory", "command_line_arguments"]),
   ("StructuredArguments",
     ["compilation_options", "parse_options", "source_files", "metadata_references"])]

/-- What is made only from one of a few values. -/
def enumerations : List Text :=
  namesOn
    ["BuildState BuildErrorSeverity OutputKind OptimizationLevel NullableContext",
     "ReportDiagnostic Enum"]

/-- What cannot be made for reasons of its own. -/
def unmakeable : List (Text × Text) :=
  [("BuildCancelled", missing "BuildFailure.__init__" ["message"]),
   ("InvocationReader", "Protocols cannot be instantiated"),
   ("ArgumentInterpreter", "Protocols cannot be instantiated"),
   ("Any", "Any cannot be instantiated"),
   ("Iterable", abstract "Iterable" " __iter__"),
   ("Iterator", abstract "Iterator" " __next__"),
   ("Mapping", abstract "Mapping" "s __getitem__, __iter__, __len__"),
   ("Callable", abstract "Callable" " __call__")]

/-- What cannot be made of what the program has of its own. -/
def ownFaults : List (Text × Text) :=
  enumerations.map (fun name => (name, missing "EnumType.__call__" ["value"]))
    ++ withArguments.map (fun entry => (entry.1, missing (entry.1 ++ ".__init__") entry.2))
    ++ unmakeable

/-! ## What there is -/

/-- A module that other modules can stand in. -/
def package (name : Text) (offers : List Text) : ReaderModule :=
  ⟨name, name, true, some (namesOn offers), ownFaults⟩

/-- A module that no other module can stand in. -/
def leaf (name : Text) (offers : List Text) : ReaderModule :=
  ⟨name, name, false, some (namesOn offers), ownFaults⟩

/-- The package that has all others in it, and what stands in it directly. -/
def topLevel : List ReaderModule :=
  [package "buildcapture_mcp"
    ["BuildCancelled BuildFailure BuildResult LaunchFailure CaptureResult CompilationCapture",
     "build build_async capture_from_invocations Invocation InvocationReader StructuredArguments",
     "tokenize ArgumentError AssemblyError CaptureError InterpreterError InvocationLogError",
     "ReferenceLoadError TokenizerError Document MetadataReferenceCache Project ProjectId",
     "Workspace capture compiler errors workspace server utils __main__"],
   leaf "buildcapture_mcp.__main__"
    ["annotations argparse asyncio json logging os sys Path BuildPolicy CompilationCapture",
     "load_reader JsonInvocationReader CaptureError create_server configure_project_root",
     "find_build_target find_dotnet_project_root configure_logging _parse_property parse_args",
     "run_capture main run"],
   leaf "buildcapture_mcp.capture"
    ["annotations asyncio importlib logging os Iterable Mapping Any DEFAULT_CONFIGURATION",
     "DEFAULT_PLATFORM BuildPolicy BuildSession BuildResult ArgumentInterpreter",
     "CSharpArgumentInterpreter StructuredArguments LANGUAGE_CSHARP Invocation InvocationReader",
     "ArgumentError WorkspaceBuilder Project ProjectId Workspace MetadataReferenceCache",
     "ReferenceLoader logger CaptureResult CompilationCapture build_async build",
     "capture_from_invocations load_reader"],
   leaf "buildcapture_mcp.errors"
    ["CaptureError ArgumentError TokenizerError InterpreterError AssemblyError",
     "ReferenceLoadError InvocationLogError"],
   leaf "buildcapture_mcp.server"
    ["annotations json logging os Path Context FastMCP BuildPolicy CaptureResult",
     "CompilationCapture load_reader InvocationReader JsonInvocationReader find_build_target",
     "get_project_root logger _capture get_capture _set_capture create_server"]]

/-- The modules that builds are run by. -/
def ofBuilds : List ReaderModule :=
  [package "buildcapture_mcp.build"
    ["BuildPolicy escape_value merge_properties BuildSession BuildCancelled BuildDiagnostic",
     "BuildFailure BuildResult BuildState LaunchFailure policy session state"],
   leaf "buildcapture_mcp.build.policy"
    ["annotations os re Mapping dataclass Final ArgumentError DEFAULT_CONFIGURATION",
     "DEFAULT_PLATFORM NEEDS_QUOTING PROPERTY_NAME_PATTERN escape_value merge_properties",
     "BuildPolicy"],
   leaf "buildcapture_mcp.build.session"
    ["annotations asyncio logging os tempfile time Callable Mapping DEFAULT_CONFIGURATION",
     "DEFAULT_PLATFORM BuildPolicy merge_properties BuildCancelled BuildFailure BuildResult",
     "BuildState LaunchFailure logger MAX_OUTPUT_BYTES MAX_OUTPUT_LINE STREAM_READ_LIMIT",
     "PROCESS_EXIT_TIMEOUT _delete_file create_log_path BuildSession"],
   leaf "buildcapture_mcp.build.state"
    ["annotations re dataclass field Enum Any CaptureError BuildState BuildErrorSeverity",
     "BuildDiagnostic MSBUILD_DIAGNOSTIC_PATTERN MSBUILD_SIMPLE_PATTERN parse_msbuild_output",
     "LaunchFailure BuildFailure BuildCancelled BuildResult"]]

/-- The modules that compiler runs are read and interpreted by. -/
def ofCompilers : List ReaderModule :=
  [package "buildcapture_mcp.compiler"
    ["ArgumentInterpreter CompilationOptions CSharpArgumentInterpreter OptimizationLevel",
     "OutputKind ParseOptions StructuredArguments LANGUAGE_CSHARP LANGUAGE_VB Invocation",
     "InvocationReader JsonInvocationReader strip_executable_prefix tokenize arguments",
     "invocations tokenizer"],
   leaf "buildcapture_mcp.compiler.arguments"
    ["annotations logging os re dataclass field Enum Any Final Protocol InterpreterError",
     "logger OutputKind OptimizationLevel NullableContext ReportDiagnostic CompilationOptions",
     "ParseOptions StructuredArguments ArgumentInterpreter DIAGNOSTIC_ID_SEPARATORS",
     "LIST_SEPARATORS _unquote _split_option TOGGLE_OPTIONS CSharpArgumentInterpreter"],
   leaf "buildcapture_mcp.compiler.invocations"
    ["annotations json logging Iterable Iterator dataclass Any Protocol InvocationLogError",
     "logger LANGUAGE_CSHARP LANGUAGE_VB Invocation InvocationReader JsonInvocationReader"],
   leaf "buildcapture_mcp.compiler.tokenizer"
    ["annotations TokenizerError OPTION_MARKER strip_executable_prefix tokenize _read_quoted"]]

/-- The modules that paths are looked up by. -/
def ofSearches : List ReaderModule :=
  [package "buildcapture_mcp.utils"
    ["ProjectRootConfig configure_project_root find_build_target find_dotnet_project_root",
     "get_project_root parse_file_uri project"],
   leaf "buildcapture_mcp.utils.project"
    ["annotations logging os sys Iterator dataclass field Path TYPE_CHECKING unquote urlparse",
     "logger PROJECT_FILE_PATTERNS ProjectRootConfig _config configure_project_root get_config",
     "parse_file_uri _ancestors find_dotnet_project_root find_build_target get_project_root"]]

/-- The modules that workspaces are assembled by. -/
def ofWorkspaces : List ReaderModule :=
  [package "buildcapture_mcp.workspace"
    ["WorkspaceBuilder Document Project ProjectId Workspace MetadataReference",
     "MetadataReferenceCache load_metadata_reference builder model references"],
   leaf "buildcapture_mcp.workspace.builder"
    ["annotations logging os Iterable ArgumentInterpreter StructuredArguments LANGUAGE_CSHARP",
     "Invocation strip_executable_prefix tokenize AssemblyError CaptureError InterpreterError",
     "Document Project ProjectId Workspace MetadataReferenceCache logger document_name",
     "read_source_text WorkspaceBuilder"],
   leaf "buildcapture_mcp.workspace.model"
    ["annotations uuid Iterator dataclass field Any CompilationOptions ParseOptions",
     "MetadataReference ProjectId Document Project Workspace"],
   leaf "buildcapture_mcp.workspace.references"
    ["annotations logging os Callable dataclass ReferenceLoadError logger MetadataReference",
     "ReferenceLoader load_metadata_reference MetadataReferenceCache"]]

/-- All modules of the program. -/
def own : List ReaderModule := topLevel ++ ofBuilds ++ ofCompilers ++ ofSearches ++ ofWorkspaces

end CompileTrace.ReaderModule
