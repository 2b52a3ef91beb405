import CompileTrace.Proofs.Compiler.Paths
import CompileTrace.Proofs.Workspace.Cache
import CompileTrace.Proofs.Workspace.Compilation

set_option autoImplicit false

/-! # Records on their own

The projects of a recording share one cache. All paths that arguments name are in normal form and so
are their own keys; the cache therefore stays faithful, and a record gives the same result after
others as on its own (`create_sameOutcome`): the same failure, or the same project up to its
identity and its handles. A recording becomes projects exactly if each of its records does so on
its own (`compileAll_alone`). -/

namespace CompileTrace

/-! ## Projects apart from their numbers -/

/-- The project with its identity and its handles forgotten. -/
def Project.anonymous (p : Project) : Project :=
  { p with id := ⟨0⟩, references := p.references.map Reference.anonymous }

/-- Whether two projects are the same but for their identities and for which handles they have: no
    handle comes twice in either of them. -/
structure Project.Alike (p q : Project) : Prop where
  same : p.anonymous = q.anonymous
  left : (p.references.map Reference.handle).Nodup
  right : (q.references.map Reference.handle).Nodup

/-- Whether two results are the same failure, or projects that are alike with the same arguments. -/
inductive SameOutcome : Except AssemblyError Compiled → Except AssemblyError Compiled → Prop
  | failed (error : AssemblyError) : SameOutcome (.error error) (.error error)
  | made {p q : Project} (arguments : CompilerArguments) (h : p.Alike q) :
    SameOutcome (.ok (p, arguments)) (.ok (q, arguments))

theorem SameOutcome.eq_error {error : AssemblyError} {result : Except AssemblyError Compiled}
    (h : SameOutcome (.error error) result) : result = .error error := by
  cases h
  rfl

namespace Assembler

variable {a : Assembler}

/-! ## One record -/

theorem project_alike (i : Invocation) (id id' : ProjectId) (arguments : CompilerArguments)
    {references references' : List Reference} (documents : List Document)
    (h : (distinctReferences references).map Reference.anonymous
      = (distinctReferences references').map Reference.anonymous) :
    (project i id arguments references documents).Alike
      (project i id' arguments references' documents) := by
  refine ⟨?_, nodup_keepFirstBy Reference.handle references,
    nodup_keepFirstBy Reference.handle references'⟩
  simp only [Project.anonymous, project, h]

/-- A build whose references are in normal form keeps the cache faithful. -/
theorem build_faithful (i : Invocation) (arguments : CompilerArguments) (s : AssemblyState)
    (hs : s.cache.Faithful a.load) (hpaths : ∀ path ∈ arguments.references, Path.IsNormal path) :
    (a.build i arguments s).2.cache.Faithful a.load := by
  obtain ⟨-, hfaithful, -, -⟩ := ReferenceCache.getAll_faithful a.disk.cwd hs hpaths
  unfold build
  split
  · next hall => rwa [hall] at hfaithful
  · next hall =>
    rw [hall] at hfaithful
    split
    · exact hfaithful
    · exact hfaithful

/-- From faithful caches a build comes out the same. -/
theorem build_sameOutcome (i : Invocation) (arguments : CompilerArguments) (s s' : AssemblyState)
    (hs : s.cache.Faithful a.load) (hs' : s'.cache.Faithful a.load)
    (hpaths : ∀ path ∈ arguments.references, Path.IsNormal path) :
    SameOutcome (a.build i arguments s).1 (a.build i arguments s').1 := by
  have halike := ReferenceCache.getAll_alike a.disk.cwd hs hs' hpaths
  unfold build
  rcases hall : s.cache.getAll a.disk.cwd a.load arguments.references with ⟨result, cache⟩
  rcases hall' : s'.cache.getAll a.disk.cwd a.load arguments.references with ⟨result', cache'⟩
  rw [hall, hall'] at halike
  rcases halike with ⟨error, rfl, rfl⟩ | ⟨references, references', rfl, rfl, hkept⟩
  · exact SameOutcome.failed _
  · simp only
    cases arguments.sources.mapM (a.document i) with
    | error error => exact SameOutcome.failed _
    | ok documents =>
      exact SameOutcome.made arguments (project_alike i _ _ arguments documents hkept)

variable (hcwd : Path.isAbsolute a.disk.cwd = true)

include hcwd

/-- All paths that a record names are in normal form. -/
theorem isNormal_of_mem_read {r : Record} {i : Invocation} {arguments : CompilerArguments}
    (h : a.read r = .ok (i, arguments)) :
    ∀ path ∈ arguments.sources ++ arguments.references, Path.IsNormal path := by
  obtain ⟨-, -, -, tokens, -, harguments⟩ := read_eq_ok h
  exact (CompilerArguments.isResolved_interpret hcwd harguments).inputs

theorem isNormal_of_read {r : Record} {i : Invocation} {arguments : CompilerArguments}
    (h : a.read r = .ok (i, arguments)) : ∀ path ∈ arguments.references, Path.IsNormal path :=
  fun path hpath => isNormal_of_mem_read hcwd h path (List.mem_append_right _ hpath)

theorem create_faithful (r : Record) (s : AssemblyState) (hs : s.cache.Faithful a.load) :
    (a.create r s).2.cache.Faithful a.load := by
  unfold create
  split
  · exact hs
  · next i arguments hread =>
    exact build_faithful i arguments s hs (isNormal_of_read hcwd hread)

/-- **A record comes out the same from all faithful caches.** -/
theorem create_sameOutcome (r : Record) (s s' : AssemblyState) (hs : s.cache.Faithful a.load)
    (hs' : s'.cache.Faithful a.load) : SameOutcome (a.create r s).1 (a.create r s').1 := by
  unfold create
  cases hread : a.read r with
  | error error => exact SameOutcome.failed error
  | ok found =>
    exact build_sameOutcome found.1 found.2 s s' hs hs' (isNormal_of_read hcwd hread)

/-! ## All records -/

/-- **A recording becomes projects as its records do one by one**: it fails as one of them does, or
    each of them gives a project like the one in its place. -/
theorem compileAll_alone (records : List Record) (s s' : AssemblyState)
    (hs : s.cache.Faithful a.load) (hs' : s'.cache.Faithful a.load) :
    match (a.compileAll s (records.map .ok)).1 with
    | .error error =>
      ∃ r ∈ records.filter (Record.isOf a.language), (a.create r s').1 = .error error
    | .ok compiled =>
      List.Forall₂ (fun r c => SameOutcome (.ok c) (a.create r s').1)
        (records.filter (Record.isOf a.language)) compiled := by
  induction records generalizing s with
  | nil => exact List.Forall₂.nil
  | cons r rest ih =>
    rw [List.map_cons, compileAll]
    by_cases hof : r.isOf a.language = true
    · rw [if_pos hof, List.filter_cons_of_pos hof]
      have hsame := create_sameOutcome hcwd r s s' hs hs'
      have hfaithful := create_faithful hcwd r s hs
      rcases hc : a.create r s with ⟨error | c, after⟩
      · rw [hc] at hsame
        exact ⟨r, List.mem_cons_self, hsame.eq_error⟩
      · rw [hc] at hsame hfaithful
        -- the record leaves a faithful cache, from which the rest comes out as from any other
        have hrest := ih after hfaithful
        simp only
        rcases hall : a.compileAll after (rest.map .ok) with ⟨error | others, last⟩
        · rw [hall] at hrest
          obtain ⟨culprit, hmem, hfails⟩ := hrest
          exact ⟨culprit, List.mem_cons_of_mem _ hmem, hfails⟩
        · rw [hall] at hrest
          exact List.Forall₂.cons hsame hrest
    · rw [if_neg hof, List.filter_cons_of_neg hof]
      exact ih s hs

end Assembler

end CompileTrace
