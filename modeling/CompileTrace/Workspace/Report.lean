import CompileTrace.Json.Basic
import CompileTrace.Workspace.Project

set_option autoImplicit false

/-! # Reports on projects

Projects and documents as JSON values. -/

namespace CompileTrace

/-- A project in short as a JSON value. -/
def Project.toJson (p : Project) : Json :=
  .object
    [("id", .text p.id.text),
     ("name", .text p.name),
     ("language", .text p.language),
     ("filePath", .ofText? p.filePath?),
     ("documentCount", .int p.documents.length),
     ("referenceCount", .int p.references.length),
     ("optimizationLevel", .text p.compilation.optimization.name)]

/-- A document as a JSON value, with its text or without. -/
def Document.toJson (includeText : Bool) (d : Document) : Json :=
  .ofMembers
    [("name", some (.text d.name)),
     ("filePath", some (.text d.filePath)),
     ("text", if includeText then some (.text d.text) else none)]

end CompileTrace
