import CompileTrace.Path.Basic
import CompileTrace.Proofs.Text.Fields

set_option autoImplicit false

/-! # The tidy form of absolute paths

An absolute path is in tidy form when it is a root and components with single slashes between them,
none of them empty or a dot. Its root and its components are read back from it
(`root_append_join`, `components_append`), so that tidying leaves it alone (`IsTidy.tidy_eq`). -/

namespace CompileTrace.Path

/-- A component that tidying keeps. -/
structure IsComponent (part : Text) : Prop where
  nonempty : part ≠ []
  ne_dot : part ≠ [char '.']
  no_slash : char '/' ∉ part

/-- An absolute path in tidy form. -/
def IsTidy (path : Text) : Prop :=
  ∃ (root : Text) (parts : List Text), (root = [char '/'] ∨ root = [char '/', char '/'])
    ∧ (∀ part ∈ parts, IsComponent part) ∧ path = root ++ Text.join [char '/'] parts

/-! ## Roots -/

theorem head?_join_ne_slash (parts : List Text) (h : ∀ part ∈ parts, IsComponent part) :
    (Text.join [char '/'] parts).head? ≠ some (char '/') := by
  cases parts with
  | nil => simp [Text.join]
  | cons part rest =>
    obtain ⟨hne, -, hslash⟩ := h part List.mem_cons_self
    cases part with
    | nil => exact absurd rfl hne
    | cons c part' =>
      have hhead : (Text.join [char '/'] ((c :: part') :: rest)).head? = some c := by
        cases rest with
        | nil => rw [Text.join_singleton, List.head?_cons]
        | cons next rest' => simp [Text.join_cons_cons]
      rw [hhead]
      rintro ⟨⟩
      exact hslash List.mem_cons_self

theorem root_append (r s : Text) (hr : r = [char '/'] ∨ r = [char '/', char '/'])
    (hs : s.head? ≠ some (char '/')) :
    root (r ++ s) = r := by
  cases s with
  | nil => rcases hr with rfl | rfl <;> rfl
  | cons c rest =>
    have hc : c ≠ '/' := fun h => hs (by rw [h, List.head?_cons])
    rcases hr with rfl | rfl
    · simp [root, hc]
    · simp [root, hc]

theorem root_append_join (r : Text) (parts : List Text)
    (hr : r = [char '/'] ∨ r = [char '/', char '/'])
    (h : ∀ part ∈ parts, IsComponent part) : root (r ++ Text.join [char '/'] parts) = r :=
  root_append r _ hr (head?_join_ne_slash parts h)

theorem exists_of_isAbsolute {path : Text} (h : isAbsolute path = true) :
    ∃ rest, path = char '/' :: rest := by
  cases path with
  | nil => cases h
  | cons c rest =>
    have hc : c = '/' := by simpa [isAbsolute] using h
    exact ⟨rest, by rw [hc]⟩

theorem root_of_isAbsolute (path : Text) (h : isAbsolute path = true) :
    root path = [char '/'] ∨ root path = [char '/', char '/'] := by
  unfold root
  split
  · exact Or.inl rfl
  · exact Or.inr rfl
  · exact Or.inl rfl
  · next hpath =>
    obtain ⟨rest, hrest⟩ := exists_of_isAbsolute h
    exact absurd hrest (hpath rest)

/-! ## Components -/

theorem components_slash_cons (s : Text) : components (char '/' :: s) = components s := by
  simp [components, Text.fieldsBy, fields_cons_of_sep]

theorem components_join (parts : List Text) (h : ∀ part ∈ parts, IsComponent part) :
    components (Text.join [char '/'] parts) = parts := by
  by_cases hne : parts = []
  · subst hne
    rfl
  · rw [components, Text.fieldsBy_join '/' parts hne (fun part hp => (h part hp).no_slash)]
    refine List.filter_eq_self.2 (fun part hp => ?_)
    simp [(h part hp).nonempty, (h part hp).ne_dot]

theorem components_append (r : Text) (parts : List Text)
    (hr : r = [char '/'] ∨ r = [char '/', char '/'])
    (h : ∀ part ∈ parts, IsComponent part) :
    components (r ++ Text.join [char '/'] parts) = parts := by
  rcases hr with rfl | rfl
  · rw [List.singleton_append, components_slash_cons, components_join parts h]
  · rw [List.cons_append, List.singleton_append, components_slash_cons, components_slash_cons,
      components_join parts h]

/-- Whatever components a path has, tidying keeps them. -/
theorem isComponent_of_mem_components {path part : Text} (h : part ∈ components path) :
    IsComponent part := by
  obtain ⟨hfield, hkept⟩ := List.mem_filter.1 h
  simp only [Bool.and_eq_true, Bool.not_eq_true', List.isEmpty_eq_false_iff, bne_iff_ne] at hkept
  refine ⟨hkept.1, hkept.2, fun hslash => ?_⟩
  have := sep_eq_false_of_mem_fields _ path part hfield '/' hslash
  simp at this

/-! ## Tidying -/

theorem IsTidy.isAbsolute {path : Text} (h : IsTidy path) : isAbsolute path = true := by
  obtain ⟨r, parts, hr, -, rfl⟩ := h
  rcases hr with rfl | rfl <;> rfl

/-- **Tidying leaves alone what is in tidy form.** -/
theorem IsTidy.tidy_eq {path : Text} (h : IsTidy path) : tidy path = path := by
  obtain ⟨r, parts, hr, hparts, rfl⟩ := h
  have hroot : r.isEmpty = false := by rcases hr with rfl | rfl <;> rfl
  rw [tidy, root_append_join r parts hr hparts, components_append r parts hr hparts, ofComponents,
    hroot]
  rfl

end CompileTrace.Path
