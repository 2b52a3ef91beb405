import CompileTrace.Proofs.Table
import CompileTrace.Proofs.Workspace.Cache
import Mathlib.Data.List.DropRight

set_option autoImplicit false

/-! # Runs of the reference cache

A cache is asked for libraries, asked whether it has them, and cleared, in any order, and its loader
may fail at one time and not at another. What the cache holds is told by the requests since it was
last cleared: the libraries that could be loaded at one of them, each as it was loaded the first
time (`Tracks`). Each request keeps this (`Tracks.step`), and so does a run (`Tracks.run`); what a
run has come to is then read off (`run_accounts`). -/

namespace CompileTrace.ReferenceCache

/-! ## Requests -/

/-- What a cache may be asked to do. The loader is part of a request for a library, since it need
    not answer the same at all times. -/
inductive Request
  | get (load : Loader) (path : Text)
  | contains (path : Text)
  | clear

namespace Request

/-- Whether the cache is cleared. -/
def isClear : Request → Bool
  | clear => true
  | _ => false

/-- The key of the library that is asked for, with its path and its size, if it can be loaded. -/
def loaded? (cwd : Text) : Request → Option (Text × Text × Nat)
  | get load path =>
    match load path with
    | .ok size => some (key cwd path, path, size)
    | .error _ => none
  | _ => none

end Request

/-- The cache after a request. -/
def step (cwd : Text) (cache : ReferenceCache) : Request → ReferenceCache
  | .get load path => (cache.get cwd load path).2
  | .contains _ => cache
  | .clear => cache.clear

/-- The cache after some requests. -/
def run (cwd : Text) (cache : ReferenceCache) (requests : List Request) : ReferenceCache :=
  requests.foldl (step cwd) cache

/-! ## Histories -/

/-- The requests after the last one to clear the cache. -/
def sinceClear (requests : List Request) : List Request :=
  requests.rtakeWhile (fun request => !request.isClear)

/-- The libraries that could be loaded since the cache was last cleared, by their keys. -/
def history (cwd : Text) (requests : List Request) : Table (Text × Nat) :=
  (sinceClear requests).filterMap (Request.loaded? cwd)

/-- The keys of these libraries, each once. -/
def loadedKeys (cwd : Text) (requests : List Request) : List Text :=
  ((history cwd requests).map Prod.fst).eraseDups

section

variable {requests : List Request}

theorem sinceClear_concat_clear : sinceClear (requests ++ [.clear]) = [] :=
  List.rtakeWhile_concat_neg _ _ _ Bool.false_ne_true

theorem sinceClear_concat {request : Request} (h : request.isClear = false) :
    sinceClear (requests ++ [request]) = sinceClear requests ++ [request] :=
  List.rtakeWhile_concat_pos _ _ _ (by rw [h, Bool.not_false])

theorem history_concat_clear (cwd : Text) : history cwd (requests ++ [.clear]) = [] := by
  rw [history, sinceClear_concat_clear, List.filterMap_nil]

theorem history_concat (cwd : Text) (requests : List Request) (request : Request)
    (h : request.isClear = false) :
    history cwd (requests ++ [request])
      = history cwd requests ++ (request.loaded? cwd).toList := by
  rw [history, sinceClear_concat h, List.filterMap_append, ← history]
  cases hloaded : request.loaded? cwd with
  | none => rw [List.filterMap_cons_none hloaded, List.filterMap_nil, Option.toList_none]
  | some entry => rw [List.filterMap_cons_some hloaded, List.filterMap_nil, Option.toList_some]

theorem loadedKeys_of_history {cwd k : Text} {entry : Text × Nat} {more : List Request}
    (h : history cwd more = history cwd requests ++ [(k, entry)]) :
    loadedKeys cwd more
      = if k ∈ loadedKeys cwd requests then loadedKeys cwd requests
        else loadedKeys cwd requests ++ [k] := by
  rw [loadedKeys, h, List.map_append, List.map_singleton, eraseDups_concat, ← loadedKeys]

/-- What a cache knows of the requests that it was asked: the libraries loaded since it was last
    cleared, in their order, each as it was loaded first and with a handle of its own. -/
structure Tracks (cwd : Text) (requests : List Request) (cache : ReferenceCache) : Prop where
  keys : cache.entries.map Prod.fst = loadedKeys cwd requests
  first : ∀ k, (cache.entries.get? k).map (fun r => (r.path, r.size))
    = Table.get? (history cwd requests) k
  numbered : cache.Numbered

theorem tracks_start (cwd : Text) (nextHandle : Nat) : Tracks cwd [] (start nextHandle) :=
  ⟨rfl, fun _ => rfl, by simp [start, Table.get?], by simp [start, Table.get?]⟩

variable {cwd : Text} {cache : ReferenceCache} (h : Tracks cwd requests cache)

include h

/-- A cache has an entry under each key that could be loaded, and under no other. -/
theorem Tracks.isSome_iff (k : Text) :
    (cache.entries.get? k).isSome = true ↔ k ∈ loadedKeys cwd requests := by
  rw [Table.isSome_get?_iff, h.keys]

/-- A request may add nothing to the history and nothing to the cache. -/
theorem Tracks.of_same {more : List Request} {other : ReferenceCache}
    (hhistory : history cwd more = history cwd requests)
    (hentries : other.entries = cache.entries) (hnext : other.nextHandle = cache.nextHandle) :
    Tracks cwd more other := by
  refine ⟨?_, ?_, ?_, ?_⟩
  · rw [hentries, h.keys, loadedKeys, loadedKeys, hhistory]
  · rw [hentries, hhistory]
    exact h.first
  · rw [hentries]
    exact h.numbered.handles
  · rw [hentries, hnext]
    exact h.numbered.below

/-- A library that is there already is not loaded once more. -/
theorem Tracks.of_hit {k : Text} {r : Reference} {entry : Text × Nat} {more : List Request}
    (hentry : cache.entries.get? k = some r)
    (hhistory : history cwd more = history cwd requests ++ [(k, entry)]) :
    Tracks cwd more cache := by
  have hmem : k ∈ loadedKeys cwd requests := (h.isSome_iff _).1 (by rw [hentry, Option.isSome_some])
  refine ⟨?_, fun k' => ?_, h.numbered⟩
  · rw [loadedKeys_of_history hhistory, if_pos hmem, h.keys]
  · rw [hhistory, Table.get?_append, ← h.first]
    by_cases hk : k = k'
    · rw [← hk, hentry, Option.map_some, Option.some_or]
    · simp [Table.get?, hk]

/-- A library that is not there yet comes under its key, with the next handle. -/
theorem Tracks.of_miss {k path : Text} {size : Nat} {more : List Request}
    (hentry : cache.entries.get? k = none)
    (hhistory : history cwd more = history cwd requests ++ [(k, path, size)]) :
    Tracks cwd more
      { entries := cache.entries.put k ⟨cache.nextHandle, path, size⟩
        loads := cache.loads ++ [path]
        nextHandle := cache.nextHandle + 1 } := by
  have hnew : k ∉ loadedKeys cwd requests := by
    rw [← h.isSome_iff, hentry]
    exact Bool.false_ne_true
  refine ⟨?_, fun k' => ?_, h.numbered.put k path size _⟩
  · rw [Table.names_put, h.keys, if_neg hnew, loadedKeys_of_history hhistory, if_neg hnew]
  · rw [hhistory, Table.get?_append, ← h.first, Table.get?_put]
    by_cases hk : k = k'
    · rw [if_pos hk, ← hk, hentry]
      simp [Table.get?]
    · rw [if_neg hk]
      simp [Table.get?, hk]

/-- **A request keeps the cache at what its history tells.** -/
theorem Tracks.step (request : Request) :
    Tracks cwd (requests ++ [request]) (cache.step cwd request) := by
  cases request with
  | clear =>
    refine ⟨?_, fun k => ?_, ?_, ?_⟩
    · rw [loadedKeys, history_concat_clear]
      rfl
    · rw [history_concat_clear]
      rfl
    · rintro k k' r r' ⟨⟩
    · rintro k r ⟨⟩
  | contains path =>
    have hhistory := history_concat cwd requests (.contains path) rfl
    exact h.of_same (hhistory.trans (List.append_nil _)) rfl rfl
  | get load path =>
    have hhistory := history_concat cwd requests (.get load path) rfl
    rw [ReferenceCache.step, get]
    rw [Request.loaded?] at hhistory
    cases hload : load path with
    | error error =>
      rw [hload, Option.toList_none, List.append_nil] at hhistory
      cases hentry : cache.entries.get? (key cwd path) with
      | some r => exact h.of_same hhistory rfl rfl
      | none => exact h.of_same hhistory rfl rfl
    | ok size =>
      rw [hload, Option.toList_some] at hhistory
      cases hentry : cache.entries.get? (key cwd path) with
      | some r => exact h.of_hit hentry hhistory
      | none => exact h.of_miss hentry hhistory

/-- **A run keeps the cache at what its history tells.** -/
theorem Tracks.run (more : List Request) :
    Tracks cwd (requests ++ more) (cache.run cwd more) := by
  induction more generalizing requests cache with
  | nil => rwa [List.append_nil]
  | cons request rest ih =>
    have hrest := ih (h.step request)
    rwa [List.append_assoc, List.singleton_append] at hrest

end

/-! ## Answers -/

section

variable {cache : ReferenceCache} {cwd : Text} {load : Loader} {path : Text}

/-- What is answered is kept. -/
theorem get?_of_get_eq_ok {r : Reference} (h : (cache.get cwd load path).1 = .ok r) :
    (cache.get cwd load path).2.entries.get? (key cwd path) = some r := by
  rw [get] at h ⊢
  cases hentry : cache.entries.get? (key cwd path) with
  | some old =>
    rw [hentry] at h
    cases h
    exact hentry
  | none =>
    cases hload : load path with
    | error error =>
      rw [hentry, hload] at h
      cases h
    | ok size =>
      rw [hentry, hload] at h
      cases h
      simp only [Table.get?_put, if_pos]

/-- A request fails as the loader does, under a key that is not there. -/
theorem get_eq_error_iff (error : ReferenceError) :
    (cache.get cwd load path).1 = .error error
      ↔ cache.entries.get? (key cwd path) = none ∧ load path = .error error := by
  rw [get]
  cases hentry : cache.entries.get? (key cwd path) with
  | some old => simp
  | none =>
    cases hload : load path with
    | error e => simp
    | ok size => simp

/-- A request that fails leaves nothing but a note of the load. -/
theorem snd_get_of_error {error : ReferenceError} (h : (cache.get cwd load path).1 = .error error) :
    (cache.get cwd load path).2 = cache.noteLoad path := by
  obtain ⟨hentry, hload⟩ := (get_eq_error_iff error).1 h
  rw [get, hentry, hload]

theorem loads_get (cache : ReferenceCache) (cwd : Text) (load : Loader) (path : Text) :
    (cache.get cwd load path).2.loads
      = cache.loads ++ if (cache.entries.get? (key cwd path)).isSome then [] else [path] := by
  rw [get]
  cases cache.entries.get? (key cwd path) with
  | some old => simp
  | none => cases load path <;> simp [noteLoad]

/-- Unless it is cleared, a cache keeps what it has. -/
theorem extends_step (request : Request) (h : request.isClear = false) :
    (cache.step cwd request).Extends cache := by
  intro k r hold
  cases request with
  | clear => cases h
  | contains path => exact hold
  | get load path =>
    rw [step, get]
    cases hentry : cache.entries.get? (key cwd path) with
    | some old => exact hold
    | none =>
      cases load path with
      | error error => exact hold
      | ok size =>
        have hne : key cwd path ≠ k := by
          rintro rfl
          rw [hentry] at hold
          cases hold
        simp only [Table.get?_put, if_neg hne, hold]

theorem extends_run {requests : List Request} (h : ∀ request ∈ requests, request.isClear = false) :
    (cache.run cwd requests).Extends cache := by
  induction requests generalizing cache with
  | nil => exact fun _ _ hold => hold
  | cons request rest ih =>
    rw [List.forall_mem_cons] at h
    intro k r hold
    exact ih h.2 k r (extends_step request h.1 k r hold)

end

/-- What a cache does after some requests, told by their history.

* It has as many entries as there are keys that could be loaded since it was last cleared, and has a
  library exactly if its key is among them.
* It gives a path to the loader, as the path is spelled, exactly if its key is not among them.
* It fails exactly if it needs the loader and that fails; nothing but a note of the load is left
  then, and the next request for the key loads anew.
* An answer is what was loaded for the first spelling of its key; and unless the cache is cleared in
  between, two answers have the same handle exactly if their paths have the same key, and then they
  are one. -/
structure Accounts (cwd : Text) (before : List Request) (cache : ReferenceCache) : Prop where
  size : cache.entries.length = (loadedKeys cwd before).length
  contains : ∀ path, cache.contains cwd path = true ↔ key cwd path ∈ loadedKeys cwd before
  loads : ∀ load path, (cache.get cwd load path).2.loads
    = cache.loads ++ if key cwd path ∈ loadedKeys cwd before then [] else [path]
  fails : ∀ load path error, (cache.get cwd load path).1 = .error error
    ↔ key cwd path ∉ loadedKeys cwd before ∧ load path = .error error
  failure : ∀ load path error, (cache.get cwd load path).1 = .error error →
    (cache.get cwd load path).2 = cache.noteLoad path
      ∧ ∀ later other, key cwd other = key cwd path →
        ((cache.get cwd load path).2.get cwd later other).2.loads = cache.loads ++ [path, other]
  first : ∀ load path r, (cache.get cwd load path).1 = .ok r →
    Table.get? (history cwd (before ++ [.get load path])) (key cwd path) = some (r.path, r.size)
  handles : ∀ load path r between later other r', (cache.get cwd load path).1 = .ok r →
    (∀ request ∈ between, request.isClear = false) →
    (((cache.get cwd load path).2.run cwd between).get cwd later other).1 = .ok r' →
      (r.handle = r'.handle ↔ key cwd path = key cwd other)
        ∧ (key cwd path = key cwd other → r' = r)

/-- A load that fails is tried anew. -/
theorem loads_retry {cwd : Text} {cache : ReferenceCache} {load : Loader} {path : Text}
    {error : ReferenceError} (h : (cache.get cwd load path).1 = .error error) (later : Loader)
    {other : Text} (hkey : key cwd other = key cwd path) :
    ((cache.get cwd load path).2.get cwd later other).2.loads = cache.loads ++ [path, other] := by
  obtain ⟨hentry, -⟩ := (get_eq_error_iff error).1 h
  rw [snd_get_of_error h, loads_get, hkey]
  simp [noteLoad, hentry]

section

variable {cwd : Text} {before : List Request} {cache : ReferenceCache}
  (h : Tracks cwd before cache) {load : Loader} {path : Text} {r : Reference}
  (hget : (cache.get cwd load path).1 = .ok r)

include h hget

/-- An answer was loaded for the first spelling of its key. -/
theorem Tracks.first_of_get :
    Table.get? (history cwd (before ++ [.get load path])) (key cwd path)
      = some (r.path, r.size) := by
  have hfirst := (h.step (.get load path)).first (key cwd path)
  rw [ReferenceCache.step, get?_of_get_eq_ok hget, Option.map_some] at hfirst
  exact hfirst.symm

/-- **Two answers of a cache that is not cleared in between are one, or differ in their handles as
    their paths do in their keys.** -/
theorem Tracks.handle_eq_iff {between : List Request}
    (hbetween : ∀ request ∈ between, request.isClear = false) {later : Loader} {other : Text}
    {r' : Reference}
    (hlater : (((cache.get cwd load path).2.run cwd between).get cwd later other).1 = .ok r') :
    (r.handle = r'.handle ↔ key cwd path = key cwd other)
      ∧ (key cwd path = key cwd other → r' = r) := by
  have hnumbered := (((h.step (.get load path)).run between).step (.get later other)).numbered
  -- the first answer is still there when the second one is given
  have hfirst : (((cache.get cwd load path).2.run cwd between).get cwd later other).2.entries.get?
      (key cwd path) = some r :=
    extends_step (.get later other) rfl _ _
      (extends_run hbetween _ _ (get?_of_get_eq_ok hget))
  have hsecond := get?_of_get_eq_ok hlater
  have hone : key cwd path = key cwd other → r' = r := by
    intro hkey
    rw [← hkey, hfirst] at hsecond
    exact (Option.some.inj hsecond).symm
  refine ⟨⟨hnumbered.handles _ _ r r' hfirst hsecond, fun hkey => ?_⟩, hone⟩
  rw [hone hkey]

end

/-- **A cache does what the history of its requests tells**, whatever these are and whichever of its
    loads fail. -/
theorem run_accounts (cwd : Text) (nextHandle : Nat) (before : List Request) :
    Accounts cwd before ((start nextHandle).run cwd before) := by
  have h : Tracks cwd before ((start nextHandle).run cwd before) :=
    (tracks_start cwd nextHandle).run before
  refine ⟨?_, fun path => h.isSome_iff _, fun load path => ?_, fun load path error => ?_,
    ?_, ?_, ?_⟩
  · rw [← h.keys, List.length_map]
  · rw [loads_get]
    simp only [h.isSome_iff]
  · rw [get_eq_error_iff, ← h.isSome_iff, Option.not_isSome_iff_eq_none]
  · exact fun load path error hget =>
      ⟨snd_get_of_error hget, fun later other hkey => loads_retry hget later hkey⟩
  · exact fun load path r hget => h.first_of_get hget
  · exact fun load path r between later other r' hget hbetween hlater =>
      h.handle_eq_iff hget hbetween hlater

/-- A load that fails is tried anew under another spelling; after that the library is there. -/
example :
    let fails : Loader := fun path => .error (.notAFile path)
    let works : Loader := fun _ => .ok 2
    let cache := (start 0).run "/src"
      [.get fails "/lib/C.dll", .get works "../lib/C.dll", .get fails "//lib/C.dll",
       .get fails "/lib/./C.dll"]
    cache.loads = ["/lib/C.dll".toText, "../lib/C.dll", "//lib/C.dll"]
      ∧ cache.entries.map (·.1) = ["/lib/C.dll".toText] := by
  decide

end CompileTrace.ReferenceCache
