import CompileTrace.Proofs.Capture.Batches
import CompileTrace.Proofs.Workspace.Alone
import CompileTrace.Proofs.Workspace.CacheRuns

set_option autoImplicit false

/-! # Shared references

All projects of a recording ask one cache for their libraries, by paths in normal form. The cache
then has *loaded* just these paths, each once and in the order in which they were first asked for,
and every project *refers* to what the cache has: to one reference for each path that its arguments
name. So a path stands for one handle in all projects, and a handle for one path
(`assemble_references`). As no path is given to the loader twice, it does not matter whether the
loader would answer alike the second time. -/

namespace CompileTrace

/-! ## What a cache has loaded -/

namespace ReferenceCache

/-- Whether a cache has loaded just the paths that it was asked for, each once and in the order in
    which they were first asked for. -/
structure Loaded (cache : ReferenceCache) (load : Loader) (asked : List Text) : Prop where
  faithful : cache.Faithful load
  names : cache.entries.map Prod.fst = asked.eraseDups
  loads : cache.loads = asked.eraseDups

theorem loaded_start (load : Loader) (nextHandle : Nat) : (start nextHandle).Loaded load [] :=
  ⟨faithful_start load nextHandle, rfl, rfl⟩

variable {cache : ReferenceCache} {load : Loader} {asked paths : List Text} {cwd : Text}

/-- **A path that can be loaded is loaded unless it was asked for before.** -/
theorem Loaded.get (h : cache.Loaded load asked) {path : Text} (hpath : Path.IsNormal path)
    {r : Reference} (hget : (cache.get cwd load path).1 = .ok r) :
    (cache.get cwd load path).2.Loaded load (asked ++ [path]) := by
  have hfaithful := (get_faithful cwd h.faithful hpath).2.1
  have hthere : (cache.entries.get? path).isSome = true ↔ path ∈ asked.eraseDups := by
    rw [Table.isSome_get?_iff, h.names]
  refine ⟨hfaithful, ?_, ?_⟩
  · rw [eraseDups_concat, ← h.names]
    rw [ReferenceCache.get, key_eq_self cwd hpath] at hget ⊢
    cases hentry : cache.entries.get? path with
    | some old =>
      rw [h.names, if_pos (hthere.1 (by rw [hentry, Option.isSome_some]))]
    | none =>
      rw [hentry] at hget
      cases hload : load path with
      | error error =>
        rw [hload] at hget
        cases hget
      | ok size => exact Table.names_put _ _ _
  · rw [loads_get, key_eq_self cwd hpath, h.loads, eraseDups_concat]
    by_cases hold : path ∈ asked.eraseDups
    · rw [if_pos (hthere.2 hold), if_pos hold, List.append_nil]
    · rw [if_neg (fun hsome => hold (hthere.1 hsome)), if_neg hold]

/-- What the first path and the others have to give. -/
theorem getAll_cons_eq_ok {path : Text} {references : List Reference}
    (h : (cache.getAll cwd load (path :: paths)).1 = .ok references) :
    ∃ r others, references = r :: others ∧ (cache.get cwd load path).1 = .ok r
      ∧ ((cache.get cwd load path).2.getAll cwd load paths).1 = .ok others
      ∧ (cache.getAll cwd load (path :: paths)).2
        = ((cache.get cwd load path).2.getAll cwd load paths).2 := by
  rw [getAll] at h ⊢
  rcases hget : cache.get cwd load path with ⟨error | r, after⟩
  · simp [hget] at h
  · rcases hall : after.getAll cwd load paths with ⟨error | others, last⟩
    · simp [hget, hall] at h
    · simp only [hget, hall, Except.ok.injEq] at h
      exact ⟨r, others, h.symm, rfl, rfl, by simp [hall]⟩

/-- **Paths that can be loaded are loaded unless they were asked for before.** -/
theorem Loaded.getAll (h : cache.Loaded load asked) (hpaths : ∀ path ∈ paths, Path.IsNormal path)
    {references : List Reference} (hall : (cache.getAll cwd load paths).1 = .ok references) :
    (cache.getAll cwd load paths).2.Loaded load (asked ++ paths) := by
  induction paths generalizing cache asked references with
  | nil => rwa [List.append_nil]
  | cons path rest ih =>
    rw [List.forall_mem_cons] at hpaths
    obtain ⟨r, others, -, hget, hothers, hlast⟩ := getAll_cons_eq_ok hall
    have hrest := ih (h.get hpaths.1 hget) hpaths.2 hothers
    rwa [List.append_assoc, List.singleton_append, ← hlast] at hrest

section

variable (h : cache.Faithful load) (hpaths : ∀ path ∈ paths, Path.IsNormal path)
  {references : List Reference} (hall : (cache.getAll cwd load paths).1 = .ok references)

include h hpaths hall

theorem paths_of_getAll : references.map Reference.path = paths := by
  have hload := (getAll_faithful cwd h hpaths).1
  rw [hall] at hload
  have hpath : ∀ path r, load.reference path = .ok r → r.path = id path := by
    intro path r hr
    obtain ⟨size, -, rfl⟩ := exists_of_map_eq_ok hr
    rfl
  have hmap := map_of_mapM_eq_ok Reference.path id hpath hload.symm
  rw [List.map_id, List.map_map] at hmap
  exact hmap

/-- The references that are left without repeated handles have the paths that are left without
    repeated ones. -/
theorem paths_of_distinctReferences :
    (distinctReferences references).map Reference.path = paths.eraseDups := by
  obtain ⟨-, hfaithful, -, hkept⟩ := getAll_faithful cwd h hpaths
  rw [distinctReferences_eq, ← keepFirstBy_id, ← paths_of_getAll h hpaths hall]
  refine map_keepFirstBy Reference.handle id Reference.path references (fun r hr r' hr' => ?_)
  exact (handle_eq_iff_path_eq hfaithful (hkept references hall r hr)
    (hkept references hall r' hr')).symm

end

end ReferenceCache

/-! ## What projects refer to -/

/-- Whether a project refers to what a cache has for the paths that its arguments name: to each
    once, in their order, under handles that tell them apart. -/
structure Refers (c : Compiled) (cache : ReferenceCache) : Prop where
  handles : (c.1.references.map Reference.handle).Nodup
  paths : c.1.references.map Reference.path = c.2.references.eraseDups
  kept : ∀ r ∈ c.1.references, cache.entries.get? r.path = some r

/-- A project goes on to refer to a cache that gets more. -/
theorem Refers.of_extends {c : Compiled} {cache after : ReferenceCache} (h : Refers c cache)
    (hextends : after.Extends cache) : Refers c after :=
  ⟨h.handles, h.paths, fun r hr => hextends _ _ (h.kept r hr)⟩

namespace Assembler

variable {a : Assembler}

/-- A build asks for its references, whether or not it succeeds. -/
theorem build_cache (i : Invocation) (arguments : CompilerArguments) (s : AssemblyState) :
    (a.build i arguments s).2.cache
      = (s.cache.getAll a.disk.cwd a.load arguments.references).2 := by
  unfold build
  split
  · next hall => rw [hall]
  · next hall =>
    rw [hall]
    split <;> rfl

section

variable (hcwd : Path.isAbsolute a.disk.cwd = true)

include hcwd

/-- A project refers to the cache, which has then loaded what the project asked for. -/
theorem create_refers {r : Record} {s : AssemblyState} {asked : List Text} {c : Compiled}
    (hs : s.cache.Loaded a.load asked) (h : (a.create r s).1 = .ok c) :
    Refers c (a.create r s).2.cache
      ∧ (a.create r s).2.cache.Loaded a.load (asked ++ c.2.references)
      ∧ (a.create r s).2.cache.Extends s.cache := by
  rw [create] at h ⊢
  cases hread : a.read r with
  | error error => simp [hread] at h
  | ok found =>
    obtain ⟨i, arguments⟩ := found
    have hnormal := isNormal_of_read hcwd hread
    simp only [hread, build_cache] at h ⊢
    obtain ⟨references, documents, hall, -, rfl⟩ := build_eq_ok h
    obtain ⟨-, -, hextends, hkept⟩ :=
      ReferenceCache.getAll_faithful a.disk.cwd hs.faithful hnormal
    refine ⟨⟨nodup_keepFirstBy Reference.handle references,
      ReferenceCache.paths_of_distinctReferences hs.faithful hnormal hall, ?_⟩,
      hs.getAll hnormal hall, hextends⟩
    exact fun r hr => hkept references hall r (mem_of_mem_keepFirstBy Reference.handle _ r hr)

/-- **All projects of a recording refer to the cache that they leave**, which has loaded what they
    asked for one after the other. -/
theorem compileAll_refers {s : AssemblyState} {asked : List Text} {recording : Recording}
    {compiled : List Compiled} (hs : s.cache.Loaded a.load asked)
    (h : (a.compileAll s recording).1 = .ok compiled) :
    (∀ c ∈ compiled, Refers c (a.compileAll s recording).2.cache)
      ∧ (a.compileAll s recording).2.cache.Loaded a.load
        (asked ++ compiled.flatMap (·.2.references))
      ∧ (a.compileAll s recording).2.cache.Extends s.cache := by
  induction recording generalizing s asked compiled with
  | nil =>
    cases h
    exact ⟨by simp, by simpa [compileAll] using hs, fun _ _ hold => hold⟩
  | cons entry rest ih =>
    cases entry with
    | error error => cases h
    | ok r =>
      by_cases hof : r.isOf a.language = true
      · obtain ⟨c, others, rfl, hcreate, hrest, hlast⟩ := compileAll_cons_eq_ok hof h
        obtain ⟨hrefers, hloaded, hextends⟩ := create_refers hcwd hs hcreate
        obtain ⟨hothers, hall, hmore⟩ := ih hloaded hrest
        rw [hlast, List.forall_mem_cons, List.flatMap_cons, ← List.append_assoc]
        exact ⟨⟨hrefers.of_extends hmore, hothers⟩, hall,
          fun path r hold => hmore path r (hextends path r hold)⟩
      · rw [compileAll, if_neg hof] at h ⊢
        exact ih hs h

end

/-! ## Recordings -/

/-- The libraries that a record tells the compiler, if it can be used. -/
def referencesOf (a : Assembler) (r : Record) : List Text :=
  match a.read r with
  | .error _ => []
  | .ok (_, arguments) => arguments.references

/-- The libraries that the records of a recording tell the compiler, one record after the other. -/
def asked (a : Assembler) (recording : Recording) : List Text :=
  (recording.recordsOf a.language).flatMap a.referencesOf

theorem flatMap_references_of_describes {records : List Record} {compiled : List Compiled}
    (h : List.Forall₂ a.Describes records compiled) :
    compiled.flatMap (·.2.references) = records.flatMap a.referencesOf := by
  induction h with
  | nil => rfl
  | cons hdescribes _ ih =>
    obtain ⟨i, hread⟩ := hdescribes.read
    rw [List.flatMap_cons, List.flatMap_cons, ih, referencesOf, hread]

end Assembler

/-- What is known of the references of all that is assembled: those of each project have distinct
    handles and are what its arguments name, each where it stands first; any two of them have the
    same handle exactly if they have the same path; and the loader was given each path once, in the
    order in which the records name them first. -/
structure Assembled.SharesReferences (assembled : Assembled) (a : Assembler)
    (recording : Recording) (loads : List Text) : Prop where
  projects : List.Forall₂
    (fun r project => ∃ i arguments, a.read r = .ok (i, arguments)
      ∧ assembled.arguments? project.id = some arguments
      ∧ (project.references.map Reference.handle).Nodup
      ∧ project.references.map Reference.path = arguments.references.eraseDups)
    (recording.recordsOf a.language) assembled.workspace.projects
  handles : ∀ p ∈ assembled.workspace.projects, ∀ q ∈ assembled.workspace.projects,
    ∀ r ∈ p.references, ∀ r' ∈ q.references, r.handle = r'.handle ↔ r.path = r'.path
  loads : loads = (a.asked recording).eraseDups

/-- **The projects of a recording share their references by path**, whatever was assembled
    before. -/
theorem Assembler.assemble_references (a : Assembler) (hcwd : Path.isAbsolute a.disk.cwd = true)
    (recording : Recording) (s : AssemblyState) {assembled : Assembled} {last : AssemblyState}
    (h : a.assemble recording s = (.ok assembled, last)) :
    assembled.SharesReferences a recording last.cache.loads := by
  have hassemble := a.assemble_eq_compileAll recording s
  rcases hall : a.compileAll (fresh s) recording with ⟨error | compiled, after⟩
  · rw [hall] at hassemble
    rw [hassemble] at h
    cases h
  · rw [hall] at hassemble
    obtain ⟨all, hmade, hholds⟩ := hassemble
    rw [hmade] at h
    cases h
    have hcompiled : (a.compileAll (fresh s) recording).1 = .ok compiled := by rw [hall]
    obtain ⟨-, hdescribes⟩ := compileAll_describes a (fresh s) recording compiled hcompiled
    obtain ⟨hrefers, hloaded, -⟩ := compileAll_refers hcwd
      (ReferenceCache.loaded_start a.load s.cache.nextHandle) hcompiled
    rw [hall] at hrefers hloaded
    refine ⟨?_, ?_, ?_⟩
    · rw [hholds.projects, List.forall₂_map_right_iff]
      refine List.forall₂_iff_zip.2 ⟨hdescribes.length_eq, fun {r c} hmem => ?_⟩
      have hc := (List.of_mem_zip hmem).2
      obtain ⟨i, hread⟩ := (List.forall₂_zip hdescribes hmem).read
      have hfound := Capture.lookup_of_mem compiled (Capturer.nodup_ids_compileAll hcompiled) c hc
      rw [← hholds.arguments] at hfound
      exact ⟨i, c.2, hread, hfound, (hrefers c hc).handles, (hrefers c hc).paths⟩
    · rw [hholds.projects]
      simp only [List.forall_mem_map]
      intro c hc d hd r hr r' hr'
      exact ReferenceCache.handle_eq_iff_path_eq hloaded.faithful ((hrefers c hc).kept r hr)
        ((hrefers d hd).kept r' hr')
    · rw [hloaded.loads, List.nil_append, flatMap_references_of_describes hdescribes]
      rfl

/-- A disk with two libraries and two sources. -/
def Capturer.twoLibraries : Disk :=
  { sharingDisk with
    tree := sharingDisk.tree.add ["lib".toText, "D.dll".toText] (.file [0x4D] false) }

/-- Two projects name one library in three spellings, and the second one names another library
    first: they share one handle, and two libraries are loaded. -/
theorem Assembler.assemble_references_spelled :
    let a : Assembler := ⟨Capturer.twoLibraries, Capturer.twoLibraries.loader, csharp⟩
    let recording : Recording :=
      [.ok (Capturer.sharingRecord csharp "csc /r:../lib/C.dll,X=/lib/./C.dll A.cs"),
       .ok (Capturer.sharingRecord csharp "csc /r:/lib/D.dll;/lib/C.dll B.cs")]
    ∃ assembled last, a.assemble recording .initial = (.ok assembled, last)
      ∧ assembled.SharesReferences a recording last.cache.loads
      ∧ assembled.workspace.projects.map (fun p => p.references.map Reference.handle)
        = [[0], [1, 0]]
      ∧ last.cache.loads = ["/lib/C.dll".toText, "/lib/D.dll"] := by
  intro a recording
  have hhandles : (a.assemble recording .initial).1.toOption.map (fun assembled =>
      assembled.workspace.projects.map (fun p => p.references.map Reference.handle))
        = some [[0], [1, 0]] := by
    decide
  have hloads : (a.assemble recording .initial).2.cache.loads
      = ["/lib/C.dll".toText, "/lib/D.dll"] := by
    decide
  rcases hmade : a.assemble recording .initial with ⟨error | assembled, last⟩
  · rw [hmade] at hhandles
    cases hhandles
  · rw [hmade] at hhandles hloads
    exact ⟨assembled, last, rfl,
      assemble_references a (by decide) recording .initial hmade, Option.some.inj hhandles, hloads⟩

end CompileTrace
