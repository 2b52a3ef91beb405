import CompileTrace.Proofs.Path.Tidy

set_option autoImplicit false

/-! # The normal form of absolute paths

An absolute path is in normal form when it is a root and proper components with single slashes
between them: no component is empty, a dot or a double dot. Normalizing an absolute path brings it
into normal form (`isNormal_normalize`) and leaves alone what is in it already
(`IsNormal.normalize_eq`), so that the normal forms are the absolute paths that normalizing leaves
alone (`isNormal_iff`). A path in normal form is the same from every directory
(`IsNormal.resolve_eq`), and no path at all stands for the directory (`IsNormal.resolve_nil`). -/

namespace CompileTrace.Path

/-- A component that stands for going one directory down. -/
structure IsProper (part : Text) : Prop where
  nonempty : part ≠ []
  ne_dot : part ≠ [char '.']
  ne_parent : part ≠ parent
  no_slash : char '/' ∉ part

/-- An absolute path in normal form. -/
def IsNormal (path : Text) : Prop :=
  ∃ (root : Text) (parts : List Text), (root = [char '/'] ∨ root = [char '/', char '/'])
    ∧ (∀ part ∈ parts, IsProper part) ∧ path = root ++ Text.join [char '/'] parts

theorem IsProper.isComponent {part : Text} (h : IsProper part) : IsComponent part :=
  ⟨h.nonempty, h.ne_dot, h.no_slash⟩

theorem areComponents {parts : List Text} (h : ∀ part ∈ parts, IsProper part) :
    ∀ part ∈ parts, IsComponent part := fun part hp => (h part hp).isComponent

/-- Any component of any path is proper or a double dot. -/
theorem isProper_of_mem_components (path part : Text) (h : part ∈ components path)
    (hparent : part ≠ parent) : IsProper part := by
  obtain ⟨hne, hdot, hslash⟩ := isComponent_of_mem_components h
  exact ⟨hne, hdot, hparent, hslash⟩

/-! ## Normalizing -/

theorem pushComponent_of_ne_parent (absolute : Bool) (before : List Text) (part : Text)
    (h : part ≠ parent) : pushComponent absolute before part = part :: before := by
  unfold pushComponent
  rw [if_neg h]

theorem mem_pushComponent {absolute : Bool} {before : List Text} {part p : Text}
    (h : p ∈ pushComponent absolute before part) : p = part ∨ p ∈ before := by
  unfold pushComponent at h
  split at h
  · split at h
    · split at h
      · cases h
      · exact Or.inl (List.mem_singleton.1 h)
    · split at h
      · exact List.mem_cons.1 h
      · exact Or.inr (List.mem_cons_of_mem _ h)
  · exact List.mem_cons.1 h

theorem foldl_pushComponent_of_ne_parent (absolute : Bool) (parts before : List Text)
    (h : ∀ part ∈ parts, part ≠ parent) :
    parts.foldl (pushComponent absolute) before = parts.reverse ++ before := by
  induction parts generalizing before with
  | nil => rfl
  | cons part rest ih =>
    have hpart := pushComponent_of_ne_parent absolute before part (h part List.mem_cons_self)
    rw [List.foldl_cons, hpart, ih _ (fun p hp => h p (List.mem_cons_of_mem _ hp))]
    simp

/-- In an absolute path every double dot takes a component back or is dropped. -/
theorem isProper_of_mem_pushComponent (before : List Text) (part : Text)
    (hbefore : ∀ p ∈ before, IsProper p) (hpart : part ≠ parent → IsProper part) :
    ∀ p ∈ pushComponent true before part, IsProper p := by
  intro p hp
  by_cases hparent : part = parent
  · cases before with
    | nil => simp [pushComponent, hparent] at hp
    | cons last before' =>
      have hlast := (hbefore last List.mem_cons_self).ne_parent
      simp only [pushComponent, if_pos hparent, if_neg hlast] at hp
      exact hbefore p (List.mem_cons_of_mem _ hp)
  · rw [pushComponent_of_ne_parent true before part hparent] at hp
    rcases List.mem_cons.1 hp with rfl | hp
    · exact hpart hparent
    · exact hbefore p hp

theorem isProper_of_mem_collapse (parts : List Text)
    (h : ∀ part ∈ parts, part ≠ parent → IsProper part) :
    ∀ p ∈ collapse true parts, IsProper p := by
  have hfold : ∀ before : List Text, (∀ p ∈ before, IsProper p) →
      ∀ p ∈ parts.foldl (pushComponent true) before, IsProper p := by
    induction parts with
    | nil => exact fun _ hbefore => hbefore
    | cons part rest ih =>
      intro before hbefore
      exact ih (fun p hp => h p (List.mem_cons_of_mem _ hp)) _
        (isProper_of_mem_pushComponent before part hbefore (h part List.mem_cons_self))
  intro p hp
  exact hfold [] (by simp) p (List.mem_reverse.1 hp)

theorem normalize_of_isAbsolute (path : Text) (h : isAbsolute path = true) :
    normalize path = root path ++ Text.join [char '/'] (collapse true (components path)) := by
  have hroot : (root path).isEmpty = false := by
    rcases root_of_isAbsolute path h with hr | hr <;> rw [hr] <;> rfl
  rw [normalize, ofComponents, h, hroot]
  rfl

/-- **Normalizing brings an absolute path into normal form.** -/
theorem isNormal_normalize (path : Text) (h : isAbsolute path = true) :
    IsNormal (normalize path) :=
  ⟨root path, collapse true (components path), root_of_isAbsolute path h,
    isProper_of_mem_collapse _ (isProper_of_mem_components path),
    normalize_of_isAbsolute path h⟩

theorem IsNormal.isAbsolute {path : Text} (h : IsNormal path) : isAbsolute path = true := by
  obtain ⟨r, parts, hr, -, rfl⟩ := h
  rcases hr with rfl | rfl <;> rfl

/-- **Normalizing leaves alone what is in normal form.** -/
theorem IsNormal.normalize_eq {path : Text} (h : IsNormal path) : normalize path = path := by
  rw [normalize_of_isAbsolute path h.isAbsolute]
  obtain ⟨r, parts, hr, hparts, rfl⟩ := h
  have hcollapse : collapse true parts = parts := by
    rw [collapse, foldl_pushComponent_of_ne_parent true parts []
      (fun part hp => (hparts part hp).ne_parent)]
    simp
  rw [root_append_join r parts hr (areComponents hparts),
    components_append r parts hr (areComponents hparts), hcollapse]

/-- The normal forms are the absolute paths that normalizing leaves alone. -/
theorem isNormal_iff (path : Text) :
    IsNormal path ↔ Path.isAbsolute path = true ∧ normalize path = path := by
  constructor
  · exact fun h => ⟨h.isAbsolute, h.normalize_eq⟩
  · rintro ⟨habsolute, hnormalize⟩
    rw [← hnormalize]
    exact isNormal_normalize path habsolute

/-! ## Paths seen from a directory -/

theorem isAbsolute_append (directory rest : Text) (h : isAbsolute directory = true) :
    isAbsolute (directory ++ rest) = true := by
  cases directory with
  | nil => simp [isAbsolute] at h
  | cons c directory' => exact h

theorem isAbsolute_join (directory path : Text) (h : isAbsolute directory = true) :
    isAbsolute (join directory path) = true := by
  unfold join
  split
  · next hpath => exact hpath
  · split
    · exact isAbsolute_append directory path h
    · exact isAbsolute_append directory (char '/' :: path) h

/-- Seen from an absolute directory, every path has a normal form. -/
theorem isNormal_resolve (directory path : Text) (h : isAbsolute directory = true) :
    IsNormal (resolve directory path) :=
  isNormal_normalize _ (isAbsolute_join directory path h)

/-- **A path in normal form is the same from every directory.** -/
theorem IsNormal.resolve_eq {path : Text} (h : IsNormal path) (directory : Text) :
    resolve directory path = path := by
  rw [resolve, join, if_pos h.isAbsolute, h.normalize_eq]

theorem components_append_slash (before after : Text) :
    components (before ++ char '/' :: after) = components before ++ components after := by
  have hfields : fields (· == char '/') (before ++ char '/' :: after)
      = fields (· == char '/') before ++ fields (· == char '/') after :=
    fields_append_sep _ before after '/' rfl
  simp [components, Text.fieldsBy, hfields, List.filter_append]

theorem components_concat_slash (path : Text) : components (path ++ [char '/']) = components path :=
  (components_append_slash path []).trans (List.append_nil _)

/-- The components of a relative path come after those of the directory. -/
theorem components_join_of_relative (directory path : Text) (h : isAbsolute path = false) :
    components (join directory path) = components directory ++ components path := by
  rw [join, if_neg (by simp [h])]
  split
  · next hend =>
    rw [Bool.or_eq_true, List.isEmpty_iff, beq_iff_eq] at hend
    rcases hend with rfl | hlast
    · rfl
    · obtain ⟨before, rfl⟩ := List.getLast?_eq_some_iff.1 hlast
      rw [components_concat_slash, List.append_assoc, List.singleton_append,
        components_append_slash]
  · exact components_append_slash directory path

/-- A slash at the end of a path in normal form is none of its root, unless the path is a root. -/
theorem IsNormal.root_concat_slash {path : Text} (h : IsNormal path)
    (hlast : path.getLast? ≠ some (char '/')) : root (path ++ [char '/']) = root path := by
  obtain ⟨r, parts, hr, hparts, rfl⟩ := h
  have hhead := head?_join_ne_slash parts (areComponents hparts)
  rw [List.append_assoc, root_append r _ hr hhead, root_append r _ hr]
  cases hjoin : Text.join [char '/'] parts with
  | nil =>
    rw [hjoin, List.append_nil] at hlast
    rcases hr with rfl | rfl
    · exact absurd rfl hlast
    · exact absurd rfl hlast
  | cons c rest =>
    rw [hjoin] at hhead
    exact hhead

/-- **No path at all, seen from a directory, is the directory.** -/
theorem IsNormal.resolve_nil {directory : Text} (h : IsNormal directory) :
    resolve directory [] = directory := by
  rw [resolve, join, if_neg (by decide)]
  split
  · rw [List.append_nil, h.normalize_eq]
  · next hlast =>
    rw [Bool.or_eq_true, not_or, beq_iff_eq] at hlast
    rw [normalize_of_isAbsolute _ (isAbsolute_append directory _ h.isAbsolute),
      h.root_concat_slash hlast.2, components_concat_slash,
      ← normalize_of_isAbsolute _ h.isAbsolute, h.normalize_eq]

/-! ## The plain root -/

/-- Under the plain root a path in normal form keeps its components. -/
theorem IsNormal.underPlainRoot_eq {path : Text} (h : IsNormal path) :
    underPlainRoot path = char '/' :: Text.join [char '/'] (components path) := by
  obtain ⟨r, parts, hr, hparts, rfl⟩ := h
  rw [underPlainRoot, root_append_join r parts hr (areComponents hparts),
    components_append r parts hr (areComponents hparts)]
  rcases hr with rfl | rfl <;> rfl

theorem IsNormal.isProper_of_mem_components {path : Text} (h : IsNormal path) :
    ∀ part ∈ components path, IsProper part := by
  obtain ⟨r, parts, hr, hparts, rfl⟩ := h
  rwa [components_append r parts hr (areComponents hparts)]

theorem components_normalize {path : Text} (h : isAbsolute path = true) :
    components (normalize path) = collapse true (components path) := by
  rw [normalize_of_isAbsolute path h, components_append _ _ (root_of_isAbsolute path h)
    (areComponents (isProper_of_mem_collapse _ (isProper_of_mem_components path)))]

/-- Normalizing adds no component. -/
theorem mem_components_of_mem_collapse {absolute : Bool} {parts : List Text} {part : Text}
    (h : part ∈ collapse absolute parts) : part ∈ parts := by
  have hfold : ∀ before : List Text, part ∈ parts.foldl (pushComponent absolute) before →
      part ∈ before ∨ part ∈ parts := by
    clear h
    induction parts with
    | nil => exact fun _ h => Or.inl h
    | cons next rest ih =>
      intro before h
      rcases ih _ h with h | h
      · rcases mem_pushComponent h with rfl | h
        · exact Or.inr List.mem_cons_self
        · exact Or.inl h
      · exact Or.inr (List.mem_cons_of_mem _ h)
  exact (hfold [] (List.mem_reverse.1 h)).resolve_left List.not_mem_nil

/-! ## Separators -/

/-- Proper components are joined without two separators side by side. -/
theorem join_ne_double_slash (parts : List Text) (h : ∀ part ∈ parts, IsProper part)
    (before after : Text) :
    Text.join [char '/'] parts ≠ before ++ char '/' :: char '/' :: after := by
  intro hjoin
  by_cases hne : parts = []
  · subst hne
    simp [Text.join] at hjoin
  · have hparts := Text.fieldsBy_join '/' parts hne (fun part hp => (h part hp).no_slash)
    -- nothing stands between the two separators
    rw [hjoin, Text.fieldsBy, fields_append_sep _ _ _ _ rfl, fields_cons_of_sep _ _ _ rfl] at hparts
    have hmem : [] ∈ parts := by
      rw [← hparts]
      simp
    exact (h [] hmem).nonempty rfl

/-- Two separators side by side stand only at the start of a path in normal form. -/
theorem IsNormal.eq_nil_of_double_slash {before after : Text}
    (h : IsNormal (before ++ char '/' :: char '/' :: after)) : before = [] := by
  obtain ⟨r, parts, hr, hparts, hpath⟩ := h
  cases before with
  | nil => rfl
  | cons c before =>
    rcases hr with rfl | rfl
    · have hjoin : before ++ char '/' :: char '/' :: after = Text.join [char '/'] parts :=
        (List.cons.inj hpath).2
      exact absurd hjoin.symm (join_ne_double_slash parts hparts before after)
    · have hrest :
          before ++ char '/' :: char '/' :: after = char '/' :: Text.join [char '/'] parts :=
        (List.cons.inj hpath).2
      cases before with
      | nil =>
        have hjoin : char '/' :: after = Text.join [char '/'] parts := (List.cons.inj hrest).2
        exact absurd (by rw [← hjoin, List.head?_cons])
          (head?_join_ne_slash parts (areComponents hparts))
      | cons c' before =>
        have hjoin : before ++ char '/' :: char '/' :: after = Text.join [char '/'] parts :=
          (List.cons.inj hrest).2
        exact absurd hjoin.symm (join_ne_double_slash parts hparts before after)

end CompileTrace.Path
