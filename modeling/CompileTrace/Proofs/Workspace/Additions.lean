import CompileTrace.Proofs.Occurrences
import CompileTrace.Proofs.Workspace.Identity

set_option autoImplicit false

/-! # Additions to a workspace

A workspace is filled by one call after another, each with a project whose identity may be there
already, under the same name or under another. What it shows afterwards, in order, by identity, by
text and by name, is told by the accepted projects alone (`Workspace.Shows`), and those are the
first of each identity (`Filling.accepted_after`).

The name that an identity was made with is for display. A register keyed by identities with such
names goes through the same calls as the workspace, which has none (`Register`). -/

namespace CompileTrace

/-! ## One call -/

namespace Workspace

theorem add_of_mem {w : Workspace} {project : Project} (h : project.id ∈ w.ids) :
    w.add project = .error ⟨project.id⟩ := dif_pos h

theorem add_of_not_mem {w : Workspace} {project : Project} (h : project.id ∉ w.ids) :
    ∃ more, w.add project = .ok more ∧ more.projects = w.projects ++ [project] :=
  ⟨_, dif_neg h, rfl⟩

end Workspace

/-! ## The views of a workspace -/

/-- All the views that a workspace gives are those of a list of projects: each project stands once,
    in the order of the list, and a text finds the project whose identity it is the canonical text
    of. -/
structure Workspace.Shows (w : Workspace) (projects : List Project) : Prop where
  inOrder : w.projects = projects
  ids : w.ids = projects.map Project.id
  names : w.projects.map Project.name = projects.map Project.name
  length : w.projects.length = projects.length
  distinct : (projects.map Project.id).Nodup
  contains : ∀ id, w.contains id = true ↔ id ∈ projects.map Project.id
  get : ∀ id project, w.get? id = some project ↔ project ∈ projects ∧ project.id = id
  find : ∀ idText project,
    w.find? idText = some project ↔ project ∈ projects ∧ project.id.IsCanonical idText
  sameFound : ∀ idText project, w.find? idText = some project → w.get? project.id = some project
  named : ∀ name, w.named name = projects.filter (fun project => project.name = name)

theorem Workspace.shows_projects (w : Workspace)
    (h : ∀ project ∈ w.projects, project.id.number < 2 ^ 128) : w.Shows w.projects where
  inOrder := rfl
  ids := rfl
  names := rfl
  length := rfl
  distinct := w.distinct
  contains := by
    intro id
    rw [Workspace.contains, Option.isSome_iff_exists, List.mem_map]
    exact exists_congr (fun project => w.get?_eq_some_iff id project)
  get := w.get?_eq_some_iff
  find := by
    intro idText project
    rw [w.find?_eq_some_iff]
    refine and_congr_right (fun hproject => ?_)
    rw [ProjectId.isCanonical_iff (h project hproject), eq_comm]
  sameFound := by
    intro idText project hfound
    have hproject := ((w.find?_eq_some_iff idText project).1 hfound).1
    exact (w.get?_eq_some_iff project.id project).2 ⟨hproject, rfl⟩
  named := fun _ => rfl

/-! ## Calls in turn -/

/-- A call that adds a project, with the name that the project's identity was made with. -/
structure Addition where
  project : Project
  debugName : Text

/-- A workspace with the calls that it accepted. -/
structure Filling where
  workspace : Workspace
  accepted : List Addition

namespace Filling

/-- The effect of one call: a refused one is forgotten. -/
def call (filling : Filling) (addition : Addition) : Filling :=
  match filling.workspace.add addition.project with
  | .ok more => ⟨more, filling.accepted ++ [addition]⟩
  | .error _ => filling

/-- A new workspace after some calls. -/
def after (calls : List Addition) : Filling := calls.foldl call ⟨.empty, []⟩

theorem after_concat (calls : List Addition) (next : Addition) :
    after (calls ++ [next]) = (after calls).call next := by
  rw [after, List.foldl_append]
  rfl

/-- The workspace has the accepted projects. -/
theorem projects_after (calls : List Addition) :
    (after calls).workspace.projects = (after calls).accepted.map Addition.project := by
  induction calls using List.reverseRecOn with
  | nil => rfl
  | append_singleton init last ih =>
    rw [after_concat, call]
    by_cases h : last.project.id ∈ (after init).workspace.ids
    · rw [Workspace.add_of_mem h]
      exact ih
    · obtain ⟨more, hmore, hprojects⟩ := Workspace.add_of_not_mem h
      rw [hmore, hprojects, ih, List.map_append, List.map_singleton]

theorem ids_after (calls : List Addition) :
    (after calls).workspace.ids = (after calls).accepted.map (fun c => c.project.id) := by
  rw [Workspace.ids, projects_after, List.map_map]
  rfl

/-- **The first call of each identity is accepted, and no other.** -/
theorem accepted_after (calls : List Addition) :
    (after calls).accepted = keepFirstBy (fun c => c.project.id) calls := by
  induction calls using List.reverseRecOn with
  | nil => rfl
  | append_singleton init last ih =>
    rw [after_concat, call, keepFirstBy_concat, ← ih, keepNew, ← ids_after]
    by_cases h : last.project.id ∈ (after init).workspace.ids
    · rw [Workspace.add_of_mem h, if_pos h]
    · obtain ⟨more, hmore, -⟩ := Workspace.add_of_not_mem h
      rw [hmore, if_neg h]

end Filling

/-! ## Identities with names -/

/-- An identity with the name that it was made with. -/
structure NamedId where
  id : ProjectId
  debugName : Text
  deriving DecidableEq, Repr

/-- Whether two are the same identity, whatever their names are. -/
def NamedId.same (a b : NamedId) : Bool := a.id = b.id

/-- The projects under their identities. -/
abbrev Register := List (NamedId × Project)

namespace Register

/-- What a call enters. -/
def entry (call : Addition) : NamedId × Project :=
  (⟨call.project.id, call.debugName⟩, call.project)

/-- The fault of a call, if it is refused, and what is entered then. -/
def add (register : Register) (call : Addition) : Option DuplicateProject × Register :=
  if register.any (fun e => e.1.same (entry call).1) then (some ⟨call.project.id⟩, register)
  else (none, register ++ [entry call])

/-- A new register after some calls. -/
def after (calls : List Addition) : Register :=
  calls.foldl (fun register call => (register.add call).2) []

/-- The project of an identity. -/
def get? (register : Register) (id : NamedId) : Option Project :=
  (register.find? (fun e => e.1.same id)).map Prod.snd

/-- The project whose identity has a given text. -/
def find? (register : Register) (idText : Text) : Option Project :=
  (List.find? (fun e => e.1.id.text = idText) register).map Prod.snd

theorem after_concat (calls : List Addition) (next : Addition) :
    after (calls ++ [next]) = ((after calls).add next).2 := by
  rw [after, List.foldl_append]
  rfl

/-- An identity is looked for among those of the entries alone. -/
theorem any_same_entries (calls : List Addition) (next : Addition) :
    (calls.map entry).any (fun e => e.1.same (entry next).1) = true
      ↔ next.project.id ∈ calls.map (fun c => c.project.id) := by
  rw [List.any_map, List.any_eq_true, List.mem_map]
  refine exists_congr (fun call => and_congr_right (fun _ => ?_))
  exact decide_eq_true_iff

theorem add_entries (calls : List Addition) (next : Addition) :
    add (calls.map entry) next
      = if next.project.id ∈ calls.map (fun c => c.project.id)
          then (some ⟨next.project.id⟩, calls.map entry)
          else (none, (calls ++ [next]).map entry) := by
  by_cases h : next.project.id ∈ calls.map (fun c => c.project.id)
  · rw [add, if_pos ((any_same_entries calls next).2 h), if_pos h]
  · rw [add, if_neg (fun hany => h ((any_same_entries calls next).1 hany)), if_neg h,
      List.map_append, List.map_singleton]

/-- The register has the accepted calls. -/
theorem after_eq (calls : List Addition) :
    after calls = (Filling.after calls).accepted.map entry := by
  induction calls using List.reverseRecOn with
  | nil => rfl
  | append_singleton init last ih =>
    rw [after_concat, ih, add_entries, Filling.accepted_after, Filling.accepted_after,
      keepFirstBy_concat, keepNew]
    split <;> rfl

theorem get?_entries (calls : List Addition) (w : Workspace)
    (h : w.projects = calls.map Addition.project) (id : NamedId) :
    get? (calls.map entry) id = w.get? id.id := by
  rw [get?, Workspace.get?, h, List.find?_map, List.find?_map, Option.map_map]
  rfl

theorem find?_entries (calls : List Addition) (w : Workspace)
    (h : w.projects = calls.map Addition.project) (idText : Text) :
    find? (calls.map entry) idText = w.find? idText := by
  rw [find?, Workspace.find?, h, List.find?_map, List.find?_map, Option.map_map]
  rfl

end Register

/-! ## What is shown after any calls -/

/-- What a call does after others, in the workspace and in the register: it is refused if an
    accepted project has its identity, and then nothing changes, and else its project comes after
    the accepted ones. -/
structure Filling.Takes (calls : List Addition) (next : Addition) : Prop where
  refused : (∃ accepted ∈ (after calls).accepted, accepted.project.id = next.project.id) →
    (after calls).workspace.add next.project = .error ⟨next.project.id⟩
      ∧ (Register.after calls).add next = (some ⟨next.project.id⟩, Register.after calls)
      ∧ after (calls ++ [next]) = after calls
  accepted : (∀ accepted ∈ (after calls).accepted, accepted.project.id ≠ next.project.id) →
    ∃ more, (after calls).workspace.add next.project = .ok more
      ∧ (Register.after calls).add next
          = (none, Register.after calls ++ [Register.entry next])
      ∧ after (calls ++ [next]) = ⟨more, (after calls).accepted ++ [next]⟩

theorem Filling.takes (calls : List Addition) (next : Addition) : Filling.Takes calls next where
  refused := by
    intro hold
    have hmem : next.project.id ∈ (after calls).accepted.map (fun c => c.project.id) :=
      List.mem_map.2 hold
    have hadd := Workspace.add_of_mem ((ids_after calls).symm ▸ hmem)
    refine ⟨hadd, ?_, ?_⟩
    · rw [Register.after_eq, Register.add_entries, if_pos hmem]
    · rw [after_concat, call, hadd]
  accepted := by
    intro hnew
    have hmem : next.project.id ∉ (after calls).accepted.map (fun c => c.project.id) := by
      intro h
      obtain ⟨accepted, haccepted, hsame⟩ := List.mem_map.1 h
      exact hnew accepted haccepted hsame
    obtain ⟨more, hadd, -⟩ := Workspace.add_of_not_mem ((ids_after calls).symm ▸ hmem)
    refine ⟨more, hadd, ?_, ?_⟩
    · rw [Register.after_eq, Register.add_entries, if_neg hmem, List.map_append,
        List.map_singleton]
    · rw [after_concat, call, hadd]

/-- **After any calls the workspace shows the accepted projects, by every view; the names of
    identities change nothing, and one more call is refused exactly if an accepted project has its
    identity.** -/
theorem Filling.shows_after (calls : List Addition)
    (h : ∀ call ∈ calls, call.project.id.number < 2 ^ 128) :
    (after calls).workspace.Shows ((after calls).accepted.map Addition.project)
      ∧ Register.after calls = (after calls).accepted.map Register.entry
      ∧ (∀ id, (Register.after calls).get? id = (after calls).workspace.get? id.id)
      ∧ (∀ idText, (Register.after calls).find? idText = (after calls).workspace.find? idText)
      ∧ ∀ next, Filling.Takes calls next := by
  have hnumbers : ∀ project ∈ (after calls).workspace.projects, project.id.number < 2 ^ 128 := by
    rw [projects_after, accepted_after]
    intro project hproject
    obtain ⟨call, hcall, rfl⟩ := List.mem_map.1 hproject
    exact h call (mem_of_mem_keepFirstBy _ calls call hcall)
  refine ⟨?_, Register.after_eq calls, ?_, ?_, Filling.takes calls⟩
  · rw [← projects_after]
    exact Workspace.shows_projects _ hnumbers
  · intro id
    rw [Register.after_eq]
    exact Register.get?_entries _ _ (projects_after calls) id
  · intro idText
    rw [Register.after_eq]
    exact Register.find?_entries _ _ (projects_after calls) idText

/-- A project without sources. -/
def emptyProject (number : Nat) (name : Text) : Project where
  id := ⟨number⟩
  name := name
  language := "C#"
  compilation := .default
  parse := .default
  references := []
  documents := []
  filePath? := none

/-- A project for each of two frameworks, and the first again under another name. -/
def repeatedCalls : List Addition :=
  [⟨emptyProject 10 "App", "App (net8.0)"⟩, ⟨emptyProject 11 "App", "App (net9.0)"⟩,
    ⟨emptyProject 10 "Lib", "Lib"⟩]

/-- Two of the three are accepted, and the first is found by the text of its identity. -/
theorem Filling.shows_after_repeated :
    (∀ call ∈ repeatedCalls, call.project.id.number < 2 ^ 128)
      ∧ (after repeatedCalls).accepted.map Addition.project
          = [emptyProject 10 "App", emptyProject 11 "App"]
      ∧ (after repeatedCalls).workspace.find? "00000000-0000-0000-0000-00000000000a".toText
          = some (emptyProject 10 "App")
      ∧ (after repeatedCalls).workspace.Shows [emptyProject 10 "App", emptyProject 11 "App"] := by
  have hnumbers : ∀ call ∈ repeatedCalls, call.project.id.number < 2 ^ 128 := by decide
  have haccepted : (after repeatedCalls).accepted.map Addition.project
      = [emptyProject 10 "App", emptyProject 11 "App"] := by
    rw [accepted_after]
    rfl
  have hshows := (shows_after repeatedCalls hnumbers).1
  rw [haccepted] at hshows
  refine ⟨hnumbers, haccepted, (hshows.find _ _).2 ⟨List.mem_cons_self, ?_⟩, hshows⟩
  rw [ProjectId.isCanonical_iff (by decide)]
  decide

end CompileTrace
