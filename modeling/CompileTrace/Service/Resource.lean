import CompileTrace.Service.Basic

set_option autoImplicit false

/-! # Resources of the service

What can be read of the current capture without calling a tool: its projects, and the output of
the build that it comes from. -/

namespace CompileTrace

/-- A resource. -/
inductive Resource
  | buildOutput
  | projects
  deriving DecidableEq, Repr

namespace Resource

/-- All resources in the order of their names. -/
def all : List Resource := [buildOutput, projects]

/-- The name that a resource is read by. -/
def uri : Resource → Text
  | buildOutput => "capture://build-output"
  | projects => "capture://projects"

/-- The kind of text that a resource is. -/
def mediaType : Resource → Text
  | buildOutput => "text/plain"
  | projects => "application/json"

/-- The resource of a name. -/
def ofUri? (name : Text) : Option Resource := all.find? (fun r => r.uri = name)

/-- The report on no capture. -/
def noProjects : Json := .object [("projects", .array [])]

/-- The text of a resource, given the current capture if there is one. -/
def text (capture? : Option Capture) : Resource → Text
  | buildOutput => ((capture?.bind Capture.build?).map BuildResult.output).getD []
  | projects => ((capture?.map Capture.toJson).getD noProjects).toLines

end Resource

end CompileTrace
