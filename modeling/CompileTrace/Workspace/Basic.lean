import CompileTrace.Workspace.Project

set_option autoImplicit false

/-! # Workspaces

The projects of a capture, in the order in which they were made. No two have the same identity,
though they may have the same name. -/

namespace CompileTrace

/-- Projects with distinct identities. -/
structure Workspace where
  projects : List Project
  distinct : (projects.map Project.id).Nodup

/-- A project has the identity of one that is there already. -/
structure DuplicateProject where
  id : ProjectId
  deriving DecidableEq, Repr

/-- The fault in words. -/
def DuplicateProject.message (fault : DuplicateProject) : Text :=
  "Project " ++ fault.id.text ++ " already in workspace"

namespace Workspace

/-- No projects. -/
def empty : Workspace := ⟨[], List.nodup_nil⟩

/-- The identities of the projects. -/
def ids (w : Workspace) : List ProjectId := w.projects.map Project.id

/-- The workspace with one more project, unless its identity is there already. -/
def add (w : Workspace) (project : Project) : Except DuplicateProject Workspace :=
  if h : project.id ∈ w.projects.map Project.id then .error ⟨project.id⟩
  else
    .ok
      { projects := w.projects ++ [project]
        distinct := by
          rw [List.map_append, List.map_singleton, List.nodup_append]
          refine ⟨w.distinct, List.nodup_cons.2 ⟨List.not_mem_nil, List.nodup_nil⟩, ?_⟩
          intro a ha b hb
          rw [List.mem_singleton] at hb
          rintro rfl
          exact h (hb ▸ ha) }

/-- The project of an identity. -/
def get? (w : Workspace) (id : ProjectId) : Option Project :=
  w.projects.find? (fun p => p.id = id)

/-- The project whose identity has a given text. -/
def find? (w : Workspace) (idText : Text) : Option Project :=
  w.projects.find? (fun p => p.id.text = idText)

/-- The projects of a name. -/
def named (w : Workspace) (name : Text) : List Project :=
  w.projects.filter (fun p => p.name = name)

/-- Whether a project of an identity is there. -/
def contains (w : Workspace) (id : ProjectId) : Bool := (w.get? id).isSome

end Workspace

end CompileTrace
