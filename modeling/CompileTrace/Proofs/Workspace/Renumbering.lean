import CompileTrace.Proofs.Workspace.Cache
import CompileTrace.Proofs.Workspace.Compilation

set_option autoImplicit false

/-! # Assembly under other numbers

Identities and handles are numbers that are only counted up and compared. Starting to count at
higher numbers therefore changes nothing but the numbers: each step of assembly commutes with
raising them, up to whole recordings (`compileAll_raise`). In particular no failure and no load
depends on where counting starts. -/

namespace CompileTrace

/-- How much higher identities and handles are counted. -/
structure Offset where
  ids : Nat
  handles : Nat

/-! ## Raised numbers -/

/-- The identity with a higher number. -/
def ProjectId.raise (o : Offset) (id : ProjectId) : ProjectId := ⟨id.number + o.ids⟩

/-- The reference with a higher handle. -/
def Reference.raise (o : Offset) (r : Reference) : Reference :=
  { r with handle := r.handle + o.handles }

/-- The project with higher numbers. -/
def Project.raise (o : Offset) (p : Project) : Project :=
  { p with id := p.id.raise o, references := p.references.map (Reference.raise o) }

/-- The project with higher numbers, and its arguments. -/
def Compiled.raise (o : Offset) (c : Compiled) : Compiled := (c.1.raise o, c.2)

/-- The cache with higher handles. -/
def ReferenceCache.raise (o : Offset) (cache : ReferenceCache) : ReferenceCache where
  entries := cache.entries.map (fun entry => (entry.1, entry.2.raise o))
  loads := cache.loads
  nextHandle := cache.nextHandle + o.handles

/-- The state that counts from higher numbers. -/
def AssemblyState.raise (o : Offset) (s : AssemblyState) : AssemblyState :=
  ⟨s.nextId + o.ids, s.cache.raise o⟩

theorem ProjectId.raise_injective (o : Offset) : Function.Injective (ProjectId.raise o) := by
  intro p q h
  have hnumber : p.number + o.ids = q.number + o.ids := congrArg ProjectId.number h
  cases p
  cases q
  simpa using hnumber

/-! ## References -/

namespace Table

variable {α : Type} (f : α → α)

theorem get?_map (table : Table α) (name : Text) :
    get? (table.map (fun entry => (entry.1, f entry.2))) name = (get? table name).map f := by
  induction table with
  | nil => rfl
  | cons entry rest ih =>
    by_cases h : entry.1 = name
    · simp [get?, h]
    · simp [get?, h, ih]

theorem put_map (table : Table α) (name : Text) (value : α) :
    put (table.map (fun entry => (entry.1, f entry.2))) name (f value)
      = (put table name value).map (fun entry => (entry.1, f entry.2)) := by
  induction table with
  | nil => rfl
  | cons entry rest ih =>
    by_cases h : entry.1 = name
    · simp [put, h]
    · simp [put, h, ih]

end Table

namespace ReferenceCache

variable (o : Offset) (cwd : Text) (load : Loader)

theorem get_raise (cache : ReferenceCache) (path : Text) :
    (cache.raise o).get cwd load path
      = ((cache.get cwd load path).1.map (Reference.raise o),
        (cache.get cwd load path).2.raise o) := by
  have hentry : (cache.raise o).entries.get? (key cwd path)
      = (cache.entries.get? (key cwd path)).map (Reference.raise o) :=
    Table.get?_map (Reference.raise o) cache.entries (key cwd path)
  rw [get, get, hentry]
  cases cache.entries.get? (key cwd path) with
  | some reference => rfl
  | none =>
    cases load path with
    | error error => rfl
    | ok size =>
      have hput := Table.put_map (Reference.raise o) cache.entries (key cwd path)
        ⟨cache.nextHandle, path, size⟩
      simp only [Option.map_none, Except.map, raise, ← hput, Prod.mk.injEq, mk.injEq, true_and]
      exact ⟨rfl, rfl, Nat.add_right_comm _ _ _⟩

theorem getAll_raise (cache : ReferenceCache) (paths : List Text) :
    (cache.raise o).getAll cwd load paths
      = ((cache.getAll cwd load paths).1.map (List.map (Reference.raise o)),
        (cache.getAll cwd load paths).2.raise o) := by
  induction paths generalizing cache with
  | nil => rfl
  | cons path rest ih =>
    rw [getAll, getAll, get_raise]
    rcases cache.get cwd load path with ⟨error | reference, after⟩
    · rfl
    · simp only [Except.map, ih after]
      rcases after.getAll cwd load rest with ⟨error | references, last⟩
      · rfl
      · rfl

end ReferenceCache

theorem distinctReferences_raise (o : Offset) (references : List Reference) :
    distinctReferences (references.map (Reference.raise o))
      = (distinctReferences references).map (Reference.raise o) := by
  rw [distinctReferences_eq, distinctReferences_eq]
  refine (map_keepFirstBy _ _ _ references (fun r _ r' _ => ?_)).symm
  exact Nat.add_right_cancel_iff

/-! ## Projects -/

namespace Assembler

variable (a : Assembler) (o : Offset)

theorem build_raise (i : Invocation) (arguments : CompilerArguments) (s : AssemblyState) :
    a.build i arguments (s.raise o)
      = ((a.build i arguments s).1.map (Compiled.raise o),
        (a.build i arguments s).2.raise o) := by
  -- the number of the next identity may be raised before it is counted up or after
  have hnext : ∀ cache : ReferenceCache,
      (⟨s.nextId + o.ids + 1, cache.raise o⟩ : AssemblyState)
        = AssemblyState.raise o ⟨s.nextId + 1, cache⟩ := by
    intro cache
    rw [AssemblyState.raise, Nat.add_right_comm]
  simp only [build, AssemblyState.raise, ReferenceCache.getAll_raise]
  rcases s.cache.getAll a.disk.cwd a.load arguments.references with ⟨error | references, cache⟩
  · simp only [Except.map, hnext]
    rfl
  · simp only [Except.map]
    cases arguments.sources.mapM (a.document i) with
    | error error =>
      simp only [hnext]
      rfl
    | ok documents =>
      simp only [hnext, project, distinctReferences_raise]
      rfl

theorem create_raise (r : Record) (s : AssemblyState) :
    a.create r (s.raise o)
      = ((a.create r s).1.map (Compiled.raise o), (a.create r s).2.raise o) := by
  unfold create
  cases a.read r with
  | error error => rfl
  | ok found => exact build_raise a o found.1 found.2 s

/-- **Counting from higher numbers raises the numbers of all projects** and changes nothing
    else. -/
theorem compileAll_raise (s : AssemblyState) (recording : Recording) :
    a.compileAll (s.raise o) recording
      = ((a.compileAll s recording).1.map (List.map (Compiled.raise o)),
        (a.compileAll s recording).2.raise o) := by
  induction recording generalizing s with
  | nil => rfl
  | cons entry rest ih =>
    cases entry with
    | error error => rfl
    | ok r =>
      by_cases hof : r.isOf a.language = true
      · rw [compileAll, compileAll, if_pos hof, if_pos hof, create_raise]
        rcases a.create r s with ⟨error | c, after⟩
        · rfl
        · simp only [Except.map, ih after]
          rcases a.compileAll after rest with ⟨error | others, last⟩
          · rfl
          · rfl
      · rw [compileAll, compileAll, if_neg hof, if_neg hof]
        exact ih s

end Assembler

end CompileTrace
