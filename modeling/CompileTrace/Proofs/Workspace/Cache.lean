import CompileTrace.Workspace.Reference
import CompileTrace.Proofs.Occurrences
import CompileTrace.Proofs.Path.Normal

set_option autoImplicit false

/-! # The reference cache

The cache keeps libraries by the keys of their paths, but hands the loader the path itself. Paths
in normal form are their own keys (`key_eq_self`), and a cache that is asked for no others stays
*faithful*: each entry is what the loader gives for its key, and has a handle of its own. From a
faithful cache a list of paths is answered as by loading each of them alone, up to handles
(`getAll_faithful`), and the handles tell the same references apart as the paths do
(`handle_eq_iff_path_eq`), so that all faithful caches answer alike (`getAll_alike`). -/

namespace CompileTrace

/-! ## References apart from handles -/

theorem distinctReferences_eq (references : List Reference) :
    distinctReferences references = keepFirstBy Reference.handle references := rfl

/-- A reference with its handle forgotten. -/
def Reference.anonymous (r : Reference) : Reference := { r with handle := 0 }

/-- What a loader gives for a path, with no handle. -/
def Loader.reference (load : Loader) (path : Text) : Except ReferenceError Reference :=
  (load path).map (fun size => ⟨0, path, size⟩)

namespace ReferenceCache

/-! ## Loading -/

/-- A path that the loader knows is answered by any cache. -/
theorem exists_get_eq_ok (cache : ReferenceCache) (cwd : Text) {load : Loader} {path : Text}
    (h : ∃ size, load path = .ok size) :
    ∃ reference, (cache.get cwd load path).1 = .ok reference := by
  obtain ⟨size, hsize⟩ := h
  rw [get]
  split
  · exact ⟨_, rfl⟩
  · rw [hsize]
    exact ⟨_, rfl⟩

/-- Paths that the loader knows are answered by any cache. -/
theorem exists_getAll_eq_ok (cache : ReferenceCache) (cwd : Text) {load : Loader}
    {paths : List Text} (h : ∀ path ∈ paths, ∃ size, load path = .ok size) :
    ∃ references, (cache.getAll cwd load paths).1 = .ok references := by
  induction paths generalizing cache with
  | nil => exact ⟨[], rfl⟩
  | cons path rest ih =>
    obtain ⟨reference, hget⟩ := cache.exists_get_eq_ok cwd (h path List.mem_cons_self)
    obtain ⟨references, hall⟩ := ih (cache.get cwd load path).2
      (fun p hp => h p (List.mem_cons_of_mem _ hp))
    refine ⟨reference :: references, ?_⟩
    rw [getAll]
    rcases hfirst : cache.get cwd load path with ⟨result, after⟩
    rw [hfirst] at hget hall
    obtain rfl : result = .ok reference := hget
    rcases hothers : after.getAll cwd load rest with ⟨results, last⟩
    rw [hothers] at hall
    obtain rfl : results = .ok references := hall
    simp only [hothers]

/-! ## Faithful caches -/

/-- A path in normal form is its own key. -/
theorem key_eq_self (cwd : Text) {path : Text} (h : Path.IsNormal path) : key cwd path = path := by
  rw [key, Path.absolute, h.resolve_eq, h.normalize_eq]

/-- Each entry is what the loader gives for its key and has a handle of its own, below those to
    come. -/
structure Faithful (cache : ReferenceCache) (load : Loader) : Prop where
  loaded : ∀ path r, cache.entries.get? path = some r → r.path = path ∧ load path = .ok r.size
  handles : ∀ p q r r', cache.entries.get? p = some r → cache.entries.get? q = some r' →
    r.handle = r'.handle → p = q
  below : ∀ path r, cache.entries.get? path = some r → r.handle < cache.nextHandle

theorem faithful_start (load : Loader) (nextHandle : Nat) : (start nextHandle).Faithful load :=
  ⟨by simp [start, Table.get?], by simp [start, Table.get?], by simp [start, Table.get?]⟩

/-- Whether a cache has all that another one has. -/
def Extends (after before : ReferenceCache) : Prop :=
  ∀ path r, before.entries.get? path = some r → after.entries.get? path = some r

/-- Each entry has a handle of its own, below those to come. -/
structure Numbered (cache : ReferenceCache) : Prop where
  handles : ∀ p q r r', cache.entries.get? p = some r → cache.entries.get? q = some r' →
    r.handle = r'.handle → p = q
  below : ∀ p r, cache.entries.get? p = some r → r.handle < cache.nextHandle

theorem get?_put_eq_some {entries : Table Reference} {k p : Text} {new r : Reference}
    (h : (entries.put k new).get? p = some r) : (p = k ∧ r = new) ∨ entries.get? p = some r := by
  rw [Table.get?_put] at h
  split at h
  · next hsame => exact Or.inl ⟨hsame.symm, (Option.some.inj h).symm⟩
  · exact Or.inr h

/-- A new entry gets the next handle. -/
theorem Numbered.put {cache : ReferenceCache} (h : cache.Numbered) (k path : Text) (size : Nat)
    (loads : List Text) :
    Numbered
      { entries := cache.entries.put k ⟨cache.nextHandle, path, size⟩
        loads := loads
        nextHandle := cache.nextHandle + 1 } := by
  refine ⟨?_, ?_⟩
  · intro p q r r' hr hr' hhandle
    -- the new handle is above all the others
    rcases get?_put_eq_some hr with ⟨rfl, rfl⟩ | hold
    · rcases get?_put_eq_some hr' with ⟨rfl, rfl⟩ | hold'
      · rfl
      · exact absurd hhandle (Nat.ne_of_gt (h.below q r' hold'))
    · rcases get?_put_eq_some hr' with ⟨rfl, rfl⟩ | hold'
      · exact absurd hhandle (Nat.ne_of_lt (h.below p r hold))
      · exact h.handles p q r r' hold hold' hhandle
  · intro p r hr
    rcases get?_put_eq_some hr with ⟨rfl, rfl⟩ | hold
    · exact Nat.lt_succ_self _
    · exact Nat.lt_succ_of_lt (h.below p r hold)

/-- A load keeps a cache faithful. -/
theorem Faithful.put {cache : ReferenceCache} {load : Loader} (h : cache.Faithful load)
    (path : Text) (size : Nat) (hload : load path = .ok size) :
    Faithful
      { entries := cache.entries.put path ⟨cache.nextHandle, path, size⟩
        loads := cache.loads ++ [path]
        nextHandle := cache.nextHandle + 1 } load := by
  have hnumbered : cache.Numbered := ⟨h.handles, h.below⟩
  have hput := hnumbered.put path path size (cache.loads ++ [path])
  refine ⟨?_, hput.handles, hput.below⟩
  intro p r hr
  rcases get?_put_eq_some hr with ⟨rfl, rfl⟩ | hold
  · exact ⟨rfl, hload⟩
  · exact h.loaded p r hold

variable {cache : ReferenceCache} {load : Loader}

/-- **A faithful cache answers as the loader does**, up to the handle, stays faithful, and keeps
    what it had and what it gives. -/
theorem get_faithful (cwd : Text) {path : Text} (h : cache.Faithful load)
    (hpath : Path.IsNormal path) :
    (cache.get cwd load path).1.map Reference.anonymous = load.reference path
      ∧ (cache.get cwd load path).2.Faithful load
      ∧ (cache.get cwd load path).2.Extends cache
      ∧ ∀ r, (cache.get cwd load path).1 = .ok r →
        (cache.get cwd load path).2.entries.get? r.path = some r := by
  rw [get, key_eq_self cwd hpath]
  cases hentry : cache.entries.get? path with
  | some r =>
    obtain ⟨hr, hload⟩ := h.loaded path r hentry
    refine ⟨?_, h, fun _ _ hold => hold, ?_⟩
    · simp [Loader.reference, hload, Except.map, Reference.anonymous, hr]
    · rintro _ ⟨⟩
      rw [hr]
      exact hentry
  | none =>
    cases hload : load path with
    | error error =>
      refine ⟨?_, ⟨h.loaded, h.handles, h.below⟩, fun _ _ hold => hold, ?_⟩
      · simp [Loader.reference, hload, Except.map]
      · rintro _ ⟨⟩
    | ok size =>
      refine ⟨?_, h.put path size hload, ?_, ?_⟩
      · simp [Loader.reference, hload, Except.map, Reference.anonymous]
      · intro p r hold
        have hne : path ≠ p := by
          rintro rfl
          rw [hentry] at hold
          cases hold
        rw [Table.get?_put, if_neg hne]
        exact hold
      · rintro _ ⟨⟩
        rw [Table.get?_put, if_pos rfl]

/-- **A faithful cache answers a list of paths as the loader does path by path.** -/
theorem getAll_faithful (cwd : Text) {paths : List Text} (h : cache.Faithful load)
    (hpaths : ∀ path ∈ paths, Path.IsNormal path) :
    (cache.getAll cwd load paths).1.map (·.map Reference.anonymous) = paths.mapM load.reference
      ∧ (cache.getAll cwd load paths).2.Faithful load
      ∧ (cache.getAll cwd load paths).2.Extends cache
      ∧ ∀ references, (cache.getAll cwd load paths).1 = .ok references → ∀ r ∈ references,
        (cache.getAll cwd load paths).2.entries.get? r.path = some r := by
  induction paths generalizing cache with
  | nil =>
    refine ⟨rfl, h, fun _ _ hold => hold, ?_⟩
    rintro _ ⟨⟩
    simp
  | cons path rest ih =>
    obtain ⟨hfirst, hfaithful, hextends, hkept⟩ :=
      get_faithful cwd h (hpaths path List.mem_cons_self)
    have hrest := fun p hp => hpaths p (List.mem_cons_of_mem _ hp)
    rw [getAll, List.mapM_cons, ← hfirst]
    rcases hget : cache.get cwd load path with ⟨error | reference, after⟩
    · rw [hget] at hfaithful hextends
      refine ⟨rfl, hfaithful, hextends, ?_⟩
      rintro _ ⟨⟩
    · rw [hget] at hfaithful hextends hkept
      obtain ⟨hothers, hfaithful', hextends', hkept'⟩ := ih hfaithful hrest
      rw [← hothers]
      rcases hall : after.getAll cwd load rest with ⟨error | references, last⟩
      · simp only [hall] at hfaithful' hextends' ⊢
        refine ⟨rfl, hfaithful', fun p r hold => hextends' p r (hextends p r hold), ?_⟩
        rintro _ ⟨⟩
      · simp only [hall] at hfaithful' hextends' hkept' ⊢
        refine ⟨rfl, hfaithful', fun p r hold => hextends' p r (hextends p r hold), ?_⟩
        rintro _ ⟨⟩ r hr
        rcases List.mem_cons.1 hr with rfl | hr
        · exact hextends' _ _ (hkept r rfl)
        · exact hkept' references rfl r hr

/-- What a faithful cache holds has the same handle exactly if it has the same path. -/
theorem handle_eq_iff_path_eq (h : cache.Faithful load) {r r' : Reference}
    (hr : cache.entries.get? r.path = some r) (hr' : cache.entries.get? r'.path = some r') :
    r.handle = r'.handle ↔ r.path = r'.path := by
  constructor
  · exact h.handles _ _ r r' hr hr'
  · intro hpath
    rw [hpath, hr'] at hr
    cases hr
    rfl

/-- **The references of a list of paths without repeated handles are those without repeated
    paths**, up to handles. -/
theorem distinctReferences_faithful (cwd : Text) {paths : List Text} (h : cache.Faithful load)
    (hpaths : ∀ path ∈ paths, Path.IsNormal path) {references : List Reference}
    (hall : (cache.getAll cwd load paths).1 = .ok references) :
    (distinctReferences references).map Reference.anonymous
      = keepFirstBy Reference.path (references.map Reference.anonymous) := by
  obtain ⟨-, hfaithful, -, hkept⟩ := getAll_faithful cwd h hpaths
  rw [distinctReferences_eq]
  refine map_keepFirstBy _ _ _ references (fun r hr r' hr' => ?_)
  exact (handle_eq_iff_path_eq hfaithful (hkept references hall r hr)
    (hkept references hall r' hr')).symm

/-- **Two faithful caches answer a list of paths alike**: with the same failure, or with references
    that are the same up to handles once repeated handles are dropped. -/
theorem getAll_alike (cwd : Text) {cache' : ReferenceCache} {paths : List Text}
    (h : cache.Faithful load) (h' : cache'.Faithful load)
    (hpaths : ∀ path ∈ paths, Path.IsNormal path) :
    (∃ error, (cache.getAll cwd load paths).1 = .error error
        ∧ (cache'.getAll cwd load paths).1 = .error error)
      ∨ ∃ references references', (cache.getAll cwd load paths).1 = .ok references
        ∧ (cache'.getAll cwd load paths).1 = .ok references'
        ∧ (distinctReferences references).map Reference.anonymous
          = (distinctReferences references').map Reference.anonymous := by
  have hload := (getAll_faithful cwd h hpaths).1
  rw [← (getAll_faithful cwd h' hpaths).1] at hload
  cases hall : (cache.getAll cwd load paths).1 with
  | error error =>
    cases hall' : (cache'.getAll cwd load paths).1 with
    | error error' =>
      rw [hall, hall'] at hload
      simp only [Except.map, Except.error.injEq] at hload
      subst hload
      exact Or.inl ⟨_, rfl, rfl⟩
    | ok references' =>
      rw [hall, hall'] at hload
      cases hload
  | ok references =>
    cases hall' : (cache'.getAll cwd load paths).1 with
    | error error' =>
      rw [hall, hall'] at hload
      cases hload
    | ok references' =>
      rw [hall, hall'] at hload
      simp only [Except.map, Except.ok.injEq] at hload
      refine Or.inr ⟨references, references', rfl, rfl, ?_⟩
      rw [distinctReferences_faithful cwd h hpaths hall,
        distinctReferences_faithful cwd h' hpaths hall', hload]

end ReferenceCache

end CompileTrace
