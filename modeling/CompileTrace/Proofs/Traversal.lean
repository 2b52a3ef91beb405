set_option autoImplicit false

/-! # Steps and traversals that may fail

What succeeds in several steps succeeds in each of them. A list is traversed with a step that may
fail: what the traversal gives comes from its members one by one, and traversing two lists in turn
is traversing them as one. -/

namespace CompileTrace

variable {ε α β : Type}

/-! ## Steps -/

theorem exists_of_bind_eq_ok {x : Except ε α} {f : α → Except ε β} {b : β}
    (h : x >>= f = .ok b) : ∃ a, x = .ok a ∧ f a = .ok b := by
  cases x with
  | error e => cases h
  | ok a => exact ⟨a, rfl, h⟩

/-- What fails in several steps fails in the first or after it. -/
theorem error_of_bind_eq_error {x : Except ε α} {f : α → Except ε β} {e : ε}
    (h : x >>= f = .error e) : x = .error e ∨ ∃ a, x = .ok a ∧ f a = .error e := by
  cases x with
  | error e' =>
    cases h
    exact Or.inl rfl
  | ok a => exact Or.inr ⟨a, rfl, h⟩

theorem exists_of_mapError_eq_error {ε' : Type} {x : Except ε α} {g : ε → ε'} {e : ε'}
    (h : x.mapError g = .error e) : ∃ e', x = .error e' ∧ g e' = e := by
  cases x with
  | error e' =>
    cases h
    exact ⟨e', rfl, rfl⟩
  | ok a => cases h

theorem exists_of_map_eq_ok {x : Except ε α} {f : α → β} {b : β} (h : x.map f = .ok b) :
    ∃ a, x = .ok a ∧ f a = b := by
  cases x with
  | error e => cases h
  | ok a =>
    cases h
    exact ⟨a, rfl, rfl⟩

theorem exists_map_eq_ok_iff {x : Except ε α} {f : α → β} :
    (∃ b, x.map f = .ok b) ↔ ∃ a, x = .ok a := by
  cases x with
  | error e => simp [Except.map]
  | ok a => simp [Except.map]

theorem map_eq_error_iff {x : Except ε α} {f : α → β} {e : ε} :
    x.map f = .error e ↔ x = .error e := by
  cases x with
  | error e' => simp [Except.map]
  | ok a => simp [Except.map]

theorem eq_ok_of_mapError {ε' : Type} {x : Except ε α} {g : ε → ε'} {a : α}
    (h : x.mapError g = .ok a) : x = .ok a := by
  cases x with
  | error e => cases h
  | ok a' =>
    cases h
    rfl

/-- Two steps that give the same, if anything, both fail or both give it. -/
theorem errors_or_same_of_toOption_eq {x y : Except ε α} (h : x.toOption = y.toOption) :
    (∃ e e', x = .error e ∧ y = .error e') ∨ ∃ a, x = .ok a ∧ y = .ok a := by
  cases x with
  | error e =>
    cases y with
    | error e' => exact Or.inl ⟨e, e', rfl, rfl⟩
    | ok b => cases h
  | ok a =>
    cases y with
    | error e' => cases h
    | ok b =>
      cases h
      exact Or.inr ⟨a, rfl, rfl⟩

/-- What a step gives, if it gives anything, has a property. -/
def Gives (x : Except ε α) (P : α → Prop) : Prop := ∀ a, x = .ok a → P a

theorem gives_error {P : α → Prop} (e : ε) : Gives (.error e) P := by
  intro a h
  cases h

theorem gives_ok {P : α → Prop} {a : α} (h : P a) : Gives (.ok a : Except ε α) P := by
  rintro _ ⟨⟩
  exact h

theorem gives_map {P : β → Prop} (x : Except ε α) {f : α → β} (h : ∀ a, x = .ok a → P (f a)) :
    Gives (x.map f) P := by
  cases x with
  | error e => exact gives_error e
  | ok a => exact gives_ok (h a rfl)

theorem gives_bind {P : β → Prop} (x : Except ε α) {f : α → Except ε β}
    (h : ∀ a, x = .ok a → Gives (f a) P) : Gives (x.bind f) P := by
  cases x with
  | error e => exact gives_error e
  | ok a => exact h a rfl

theorem Gives.imp {P Q : α → Prop} {x : Except ε α} (h : Gives x P) (hPQ : ∀ a, P a → Q a) :
    Gives x Q := fun a ha => hPQ a (h a ha)

/-! ## Traversals -/

variable {f : α → Except ε β}

theorem mapM_cons_eq_ok {x : α} {xs : List α} {results : List β}
    (h : (x :: xs).mapM f = .ok results) :
    ∃ y ys, f x = .ok y ∧ xs.mapM f = .ok ys ∧ results = y :: ys := by
  rw [List.mapM_cons] at h
  obtain ⟨y, hx, h⟩ := exists_of_bind_eq_ok h
  obtain ⟨ys, hxs, h⟩ := exists_of_bind_eq_ok h
  cases h
  exact ⟨y, ys, hx, hxs, rfl⟩

/-- Every result comes from a member. -/
theorem exists_of_mem_mapM {xs : List α} {results : List β} (h : xs.mapM f = .ok results) :
    ∀ y ∈ results, ∃ x ∈ xs, f x = .ok y := by
  induction xs generalizing results with
  | nil =>
    cases h
    simp
  | cons x rest ih =>
    obtain ⟨y, ys, hx, hrest, rfl⟩ := mapM_cons_eq_ok h
    intro z hz
    rcases List.mem_cons.1 hz with rfl | hz
    · exact ⟨x, List.mem_cons_self, hx⟩
    · obtain ⟨w, hw, hfw⟩ := ih hrest z hz
      exact ⟨w, List.mem_cons_of_mem _ hw, hfw⟩

/-- A traversal that succeeds does so at each member. -/
theorem exists_of_mapM_eq_ok {xs : List α} {results : List β} (h : xs.mapM f = .ok results) :
    ∀ x ∈ xs, ∃ y, f x = .ok y := by
  induction xs generalizing results with
  | nil => simp
  | cons x rest ih =>
    obtain ⟨y, ys, hx, hrest, -⟩ := mapM_cons_eq_ok h
    intro z hz
    rcases List.mem_cons.1 hz with rfl | hz
    · exact ⟨y, hx⟩
    · exact ih hrest z hz

/-- A traversal that never fails is a map. -/
theorem mapM_eq_ok_map {xs : List α} (g : α → β) (h : ∀ x ∈ xs, f x = .ok (g x)) :
    xs.mapM f = .ok (xs.map g) := by
  induction xs with
  | nil => rfl
  | cons x rest ih =>
    rw [List.mapM_cons, h x List.mem_cons_self, ih (fun y hy => h y (List.mem_cons_of_mem _ hy))]
    rfl

/-- A traversal in which each step gives some result gives some results. -/
theorem exists_mapM_eq_ok {xs : List α} (h : ∀ x ∈ xs, ∃ y, f x = .ok y) :
    ∃ results, xs.mapM f = .ok results := by
  induction xs with
  | nil => exact ⟨[], rfl⟩
  | cons x rest ih =>
    obtain ⟨y, hy⟩ := h x List.mem_cons_self
    obtain ⟨ys, hys⟩ := ih (fun z hz => h z (List.mem_cons_of_mem _ hz))
    refine ⟨y :: ys, ?_⟩
    rw [List.mapM_cons, hy, hys]
    rfl

/-- **A traversal fails as the first step that does**: all steps before it succeed, and those after
    it do not matter. -/
theorem mapM_eq_error_iff {xs : List α} {e : ε} :
    xs.mapM f = .error e ↔ ∃ before x after, xs = before ++ x :: after
      ∧ (∀ y ∈ before, ∃ z, f y = .ok z) ∧ f x = .error e := by
  induction xs with
  | nil =>
    constructor
    · intro h
      cases h
    · rintro ⟨before, x, after, h, -⟩
      cases before <;> cases h
  | cons y rest ih =>
    rw [List.mapM_cons]
    cases hy : f y with
    | error e' =>
      constructor
      · rintro ⟨⟩
        exact ⟨[], y, rest, rfl, by simp, hy⟩
      · rintro ⟨before, x, after, hsplit, hbefore, hx⟩
        rcases List.cons_eq_append_iff.1 hsplit with ⟨rfl, hcons⟩ | ⟨others, rfl, -⟩
        · cases hcons
          rw [hy] at hx
          cases hx
          rfl
        · obtain ⟨z, hz⟩ := hbefore y List.mem_cons_self
          rw [hy] at hz
          cases hz
    | ok z =>
      have hstep : (do let z ← Except.ok z; let zs ← rest.mapM f; pure (z :: zs)) = .error e
          ↔ rest.mapM f = .error e := by
        cases rest.mapM f with
        | error e' => rfl
        | ok zs => exact ⟨fun h => (by cases h), fun h => (by cases h)⟩
      rw [hstep, ih]
      constructor
      · rintro ⟨before, x, after, rfl, hbefore, hx⟩
        exact ⟨y :: before, x, after, rfl, List.forall_mem_cons.2 ⟨⟨z, hy⟩, hbefore⟩, hx⟩
      · rintro ⟨before, x, after, hsplit, hbefore, hx⟩
        rcases List.cons_eq_append_iff.1 hsplit with ⟨rfl, hcons⟩ | ⟨others, rfl, hrest⟩
        · cases hcons
          rw [hy] at hx
          cases hx
        · exact ⟨others, x, after, hrest, (List.forall_mem_cons.1 hbefore).2, hx⟩

theorem mapM_append_eq_ok {xs ys : List α} {as bs : List β} (hxs : xs.mapM f = .ok as)
    (hys : ys.mapM f = .ok bs) : (xs ++ ys).mapM f = .ok (as ++ bs) := by
  rw [List.mapM_append, hxs, hys]
  rfl

/-- What each step keeps of its member, the traversal keeps of the list. -/
theorem map_of_mapM_eq_ok {γ : Type} (read : β → γ) (written : α → γ)
    (hf : ∀ x y, f x = .ok y → read y = written x) {xs : List α} {results : List β}
    (h : xs.mapM f = .ok results) : results.map read = xs.map written := by
  induction xs generalizing results with
  | nil =>
    cases h
    rfl
  | cons x rest ih =>
    obtain ⟨y, ys, hx, hrest, rfl⟩ := mapM_cons_eq_ok h
    rw [List.map_cons, List.map_cons, hf x y hx, ih hrest]

/-- What each step adds for its member, the traversal adds for the list. -/
theorem flatMap_of_mapM_eq_ok {γ : Type} (read : β → List γ) (written : α → List γ)
    (hf : ∀ x y, f x = .ok y → read y = written x) {xs : List α} {results : List β}
    (h : xs.mapM f = .ok results) : results.flatMap read = xs.flatMap written := by
  rw [List.flatMap_def, List.flatMap_def, map_of_mapM_eq_ok read written hf h]

/-! ## Searches -/

/-- A search among what a filter gives is a search among what it is given. -/
theorem findSome?_filterMap {α β γ : Type} (f : α → Option β) (g : β → Option γ) (xs : List α) :
    (xs.filterMap f).findSome? g = xs.findSome? (fun x => (f x).bind g) := by
  induction xs with
  | nil => rfl
  | cons x rest ih =>
    rw [List.findSome?_cons]
    cases hx : f x with
    | none => rw [List.filterMap_cons_none hx, ih, Option.bind_none]
    | some y => rw [List.filterMap_cons_some hx, List.findSome?_cons, ih, Option.bind_some]

end CompileTrace
