import CompileTrace.Proofs.Path.Normal
import CompileTrace.Proofs.Text.Trimming

set_option autoImplicit false

/-! # A path and its parts

The last slash of a path parts the file name from the directory (`fileName_append_slash`,
`directory_append_slash`), which keeps the slashes at its end only if it has nothing else. A path in
normal form is made of its directory and its file name again (`IsNormal.join_directory_fileName`),
even a root, whose file name is empty. The stem is what a file name has before its last dot, or all
of it if no dot follows anything but dots (`isStem_iff`). -/

namespace CompileTrace.Path

/-! ## The last slash -/

theorem exists_last_slash {path : Text} (h : char '/' ∈ path) :
    ∃ before name, path = before ++ char '/' :: name ∧ char '/' ∉ name := by
  obtain ⟨name, before, hpath, hname⟩ := List.eq_append_cons_of_mem (List.mem_reverse.2 h)
  refine ⟨before.reverse, name.reverse, ?_, by simpa using hname⟩
  rw [← List.reverse_inj, hpath]
  simp

variable {before name : Text}

theorem ne_slash_of_notMem (h : char '/' ∉ name) : ∀ c ∈ name.reverse, decide (c ≠ '/') = true := by
  intro c hc
  rw [List.mem_reverse] at hc
  exact decide_eq_true (fun hslash => h (hslash ▸ hc))

theorem fileName_append_slash (h : char '/' ∉ name) :
    fileName (before ++ char '/' :: name) = name := by
  rw [fileName, List.reverse_append, List.reverse_cons, List.append_assoc,
    List.takeWhile_append_of_pos (ne_slash_of_notMem h), List.singleton_append,
    List.takeWhile_cons_of_neg (by simp), List.append_nil, List.reverse_reverse]

theorem directory_append_slash (h : char '/' ∉ name) :
    directory (before ++ char '/' :: name)
      = if before.all (· == char '/') then before ++ [char '/']
        else before.dropEndWhile (· == char '/') := by
  have hhead : (before ++ char '/' :: name).dropEndWhile (· ≠ char '/') = before ++ [char '/'] := by
    rw [Text.dropEndWhile, List.reverse_append, List.reverse_cons, List.append_assoc,
      List.dropWhile_append_of_pos (ne_slash_of_notMem h), List.singleton_append,
      List.dropWhile_cons_of_neg (by simp)]
    simp
  have hall : (before ++ [char '/']).all (· == char '/') = before.all (· == char '/') := by simp
  have hdrop : Text.dropEndWhile (· == char '/') (before ++ [char '/'])
      = before.dropEndWhile (· == char '/') := by
    rw [Text.dropEndWhile, List.reverse_append, List.reverse_singleton, List.singleton_append,
      List.dropWhile_cons_of_pos (by simp)]
    rfl
  rw [directory, hhead, hall, hdrop]

/-! ## Joining the parts -/

theorem isAbsolute_eq_false (h : char '/' ∉ name) : isAbsolute name = false := by
  rw [Bool.eq_false_iff]
  intro habsolute
  obtain ⟨rest, rfl⟩ := exists_of_isAbsolute habsolute
  exact h List.mem_cons_self

/-- Before its last slash a path in normal form has only slashes, or it ends there in none. -/
theorem IsNormal.getLast?_ne_slash (h : IsNormal (before ++ char '/' :: name))
    (hother : before.all (· == char '/') = false) : before.getLast? ≠ some (char '/') := by
  intro hlast
  obtain ⟨init, rfl⟩ := List.getLast?_eq_some_iff.1 hlast
  -- two slashes side by side stand at the start alone
  rw [List.append_assoc, List.singleton_append] at h
  rw [h.eq_nil_of_double_slash] at hother
  cases hother

/-- **A path in normal form is made of its directory and its file name.** -/
theorem IsNormal.join_directory_fileName {path : Text} (h : IsNormal path) :
    join (directory path) (fileName path) = path := by
  obtain ⟨rest, hrest⟩ := exists_of_isAbsolute h.isAbsolute
  obtain ⟨before, name, rfl, hname⟩ := exists_last_slash (hrest ▸ List.mem_cons_self)
  rw [fileName_append_slash hname, directory_append_slash hname, join,
    if_neg (by simp [isAbsolute_eq_false hname])]
  cases hall : before.all (· == char '/') with
  | true =>
    rw [if_pos rfl, if_pos (by simp)]
    simp
  | false =>
    have hlast := h.getLast?_ne_slash hall
    have hkept : before.dropEndWhile (· == char '/') = before := by
      refine Text.dropEndWhile_eq_self (fun c hc => ?_)
      rw [beq_eq_false_iff_ne]
      rintro rfl
      exact hlast hc
    have hne : before ≠ [] := by
      rintro rfl
      cases hall
    rw [if_neg Bool.false_ne_true, hkept, if_neg]
    simp [hne, hlast]

/-! ## The name of a file -/

/-- Whether a text is the part of a path after its last slash; it is the whole path if that has
    none. -/
structure IsFileName (path name : Text) : Prop where
  plain : char '/' ∉ name
  last : path = name ∨ ∃ before, path = before ++ char '/' :: name

/-- Whether a text is a file name without its extension. The extension begins at the last dot,
    and only a dot that follows something else than dots begins one. -/
inductive LeavesExtension : Text → Text → Prop
  | cut {stem extension : Text} (last : char '.' ∉ extension) (named : ∃ c ∈ stem, c ≠ '.') :
    LeavesExtension (stem ++ char '.' :: extension) stem
  | whole {name : Text}
      (leading : ∀ before after, name = before ++ char '.' :: after → ∀ c ∈ before, c = '.') :
    LeavesExtension name name

/-- Whether a text is the file name of a path without its extension. -/
def IsStem (path stem : Text) : Prop :=
  ∃ name, IsFileName path name ∧ LeavesExtension name stem

theorem fileName_eq_self {path : Text} (h : char '/' ∉ path) : fileName path = path := by
  rw [fileName, List.takeWhile_eq_self_iff.2 (ne_slash_of_notMem h), List.reverse_reverse]

theorem isFileName_iff {path name : Text} : IsFileName path name ↔ name = fileName path := by
  constructor
  · rintro ⟨hplain, rfl | ⟨before, rfl⟩⟩
    · exact (fileName_eq_self hplain).symm
    · exact (fileName_append_slash hplain).symm
  · rintro rfl
    by_cases hslash : char '/' ∈ path
    · obtain ⟨before, name, rfl, hname⟩ := exists_last_slash hslash
      rw [fileName_append_slash hname]
      exact ⟨hname, .inr ⟨before, rfl⟩⟩
    · rw [fileName_eq_self hslash]
      exact ⟨hslash, .inl rfl⟩

/-- What stands before some dot of a text stands before its last one. -/
theorem isPrefix_before_last_dot {before after front back : Text} (hlast : char '.' ∉ after)
    (h : before ++ char '.' :: after = front ++ char '.' :: back) : front <+: before := by
  rcases List.append_eq_append_iff.1 h with ⟨more, hfront, hback⟩ | ⟨more, hbefore, -⟩
  · cases more with
    | nil => simp [hfront]
    | cons c rest =>
      -- the dot after `front` would stand after the last dot
      rw [List.cons_append] at hback
      cases hback
      exact absurd (List.mem_append_right rest List.mem_cons_self) hlast
  · exact ⟨more, hbefore.symm⟩

theorem LeavesExtension.unique {name stem other : Text} (h : LeavesExtension name stem)
    (hother : LeavesExtension name other) : stem = other := by
  cases h with
  | cut hlast hnamed =>
    generalize hname : stem ++ char '.' :: _ = name at hother
    cases hother with
    | cut hlast' _ =>
      have hle := isPrefix_before_last_dot hlast' hname.symm
      have hge := isPrefix_before_last_dot hlast hname
      exact List.IsPrefix.eq_of_length_le hle hge.length_le
    | whole hleading =>
      obtain ⟨c, hc, hne⟩ := hnamed
      exact absurd (hleading _ _ hname.symm c hc) hne
  | whole hleading =>
    cases hother with
    | cut _ hnamed =>
      obtain ⟨c, hc, hne⟩ := hnamed
      exact absurd (hleading _ _ rfl c hc) hne
    | whole _ => rfl

theorem isStem_stem (path : Text) : IsStem path (stem path) := by
  refine ⟨fileName path, isFileName_iff.2 rfl, ?_⟩
  rw [stem]
  generalize fileName path = name
  by_cases hdot : char '.' ∈ name
  · obtain ⟨extension, before, hname, hlast⟩ :=
      List.eq_append_cons_of_mem (List.mem_reverse.2 hdot)
    have hspan : name.reverse.span (· ≠ char '.') = (extension, char '.' :: before) := by
      rw [hname]
      exact span_append (fun c hc => decide_eq_true (fun h => hlast (h ▸ hc))) (by simp)
    have hparts : name = before.reverse ++ char '.' :: extension.reverse := by
      rw [← List.reverse_inj, hname]
      simp
    simp only [hspan]
    split
    · next hall =>
      refine .whole (fun front back hfront c hc => ?_)
      have hshort := isPrefix_before_last_dot (by simpa using hlast) (hparts.symm.trans hfront)
      rw [List.all_eq_true] at hall
      simpa using hall c (List.mem_reverse.1 (hshort.subset hc))
    · next hall =>
      rw [hparts]
      exact .cut (by simpa using hlast) (by simpa using hall)
  · have hplain : ∀ c ∈ name.reverse, decide (c ≠ '.') = true :=
      fun c hc => decide_eq_true (fun h => hdot (h ▸ List.mem_reverse.1 hc))
    have hspan : name.reverse.span (· ≠ char '.') = (name.reverse, []) := by
      simpa using @span_append _ _ _ [] hplain (by simp)
    simp only [hspan]
    refine .whole (fun before after h => absurd ?_ hdot)
    rw [h]
    simp

/-- **The stem of a path is its file name without the extension, and nothing else is.** -/
theorem isStem_iff {path name : Text} : IsStem path name ↔ name = stem path := by
  constructor
  · rintro ⟨fileName, hfile, hleaves⟩
    obtain ⟨other, hother, hstem⟩ := isStem_stem path
    obtain rfl := (isFileName_iff.1 hfile).trans (isFileName_iff.1 hother).symm
    exact hleaves.unique hstem
  · rintro rfl
    exact isStem_stem path

end CompileTrace.Path
