import CompileTrace.Build.Outcome
import CompileTrace.Compiler.Report
import CompileTrace.Workspace.Assembly
import CompileTrace.Workspace.Report

set_option autoImplicit false

/-! # Captures

A capture is what is known of a build once its compiler runs are assembled: the projects, the
arguments that each was compiled with, and the result of the build if one was run. -/

namespace CompileTrace

/-- Assembled projects with the build that they come from, if one was run. -/
structure Capture where
  assembled : Assembled
  build? : Option BuildResult

namespace Capture

/-- The projects in order. -/
def projects (c : Capture) : List Project := c.assembled.workspace.projects

/-- The arguments that the project of an identity was compiled with. -/
def arguments? (c : Capture) (id : ProjectId) : Option CompilerArguments :=
  c.assembled.arguments? id

/-- The arguments that a project was compiled with. -/
def argumentsOf? (c : Capture) (project : Project) : Option CompilerArguments :=
  c.arguments? project.id

/-- The capture in short as a JSON value. -/
def toJson (c : Capture) : Json :=
  .ofMembers
    [("projects", some (.array (c.projects.map Project.toJson))),
     ("build", c.build?.map BuildResult.toJson)]

end Capture

end CompileTrace
