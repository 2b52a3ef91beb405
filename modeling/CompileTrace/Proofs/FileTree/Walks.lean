import CompileTrace.Proofs.FileTree.Trees
import CompileTrace.Proofs.Path.Children
import CompileTrace.Proofs.Path.Usable

set_option autoImplicit false

/-! # Walks

A path of a root and components is walked one component after the other. In a tree the walk arrives
where the components say, or nothing stands there, unless it is refused on the way
(`IsTree.foldlM_step`): out of a directory that may not be entered (`IsClosed`), or for a name too
long for the system that is looked for in a directory (`IsTooLong`). So a path from the root leads
to what stands at its place if the system takes it (`Disk.probe_pathOf`), and a name in a directory
is arrived at through the path of the directory (`IsTree.walk_child`). -/

namespace CompileTrace

namespace FileTree

variable {tree : FileTree}

/-! ## Steps -/

theorem step_of_directory {place : Place} {part : Text}
    (hplace : tree.entryAt? place = some .directory) (hpart : Path.IsProper part) :
    tree.step place part
      = if place ∈ tree.closed then .error .denied
        else if componentLimit < (Path.bytes part).length then .error .nameTooLong
        else if (tree.entryAt? (place ++ [part])).isNone then .error .missing
        else .ok (place ++ [part]) := by
  have hempty : part.isEmpty = false := by simpa using hpart.isComponent.nonempty
  rw [step, hplace]
  simp only [hempty, Bool.false_eq_true, if_false, List.contains_iff_mem, if_neg hpart.ne_dot,
    if_neg hpart.ne_parent]

/-- A name at which something stands is arrived at. -/
theorem IsTree.step_eq_ok (htree : tree.IsTree) {place : Place} {name : Text}
    (h : (tree.entryAt? (place ++ [name])).isSome) (hopen : place ∉ tree.closed) :
    tree.step place name = .ok (place ++ [name]) := by
  have hname := htree.isName h name (by simp)
  rw [step_of_directory (htree.directory_of_concat h) hname.proper, if_neg hopen,
    if_neg (by simp [hname.short]),
    if_neg (fun hnone => Option.isSome_iff_ne_none.1 h (Option.isNone_iff_eq_none.1 hnone))]

theorem foldlM_step_concat (start : Place) (parts : List Text) (part : Text) :
    (parts ++ [part]).foldlM tree.step start
      = (parts.foldlM tree.step start).bind (fun place => tree.step place part) := by
  rw [List.foldlM_append]
  cases parts.foldlM tree.step start with
  | error fault => rfl
  | ok place => exact bind_pure (tree.step place part)

/-! ## Walks that are refused -/

/-- Whether a walk to a place is refused on the way: a name on the way is looked for in a directory
    that is there, and that is refused. -/
def Refuses (tree : FileTree) (refused : Place → Text → Prop) (place : Place) : Prop :=
  ∃ above name, above ++ [name] <+: place ∧ tree.entryAt? above = some .directory
    ∧ refused above name

section

variable {refused : Place → Text → Prop}

theorem refuses_concat {place : Place} {name : Text} :
    tree.Refuses refused (place ++ [name]) ↔ tree.Refuses refused place
      ∨ (tree.entryAt? place = some .directory ∧ refused place name) := by
  constructor
  · rintro ⟨above, name', h, hdirectory, hrefused⟩
    rcases List.prefix_concat_iff.1 h with hsame | h
    · obtain ⟨rfl, hname⟩ := List.append_inj' hsame rfl
      cases hname
      exact Or.inr ⟨hdirectory, hrefused⟩
    · exact Or.inl ⟨above, name', h, hdirectory, hrefused⟩
  · rintro (⟨above, name', h, hdirectory, hrefused⟩ | ⟨hdirectory, hrefused⟩)
    · exact ⟨above, name', h.trans (List.prefix_append _ _), hdirectory, hrefused⟩
    · exact ⟨place, name, List.prefix_rfl, hdirectory, hrefused⟩

/-- What is refused on the way is refused further on. -/
theorem Refuses.of_above {above place : Place} (h : tree.Refuses refused above)
    (habove : above <+: place) : tree.Refuses refused place := by
  obtain ⟨before, name, hname, hrefused⟩ := h
  exact ⟨before, name, hname.trans habove, hrefused⟩

end

/-- A place is too long if a name on the way to it is looked for in a directory and has more bytes
    than a name may have. -/
def IsTooLong (tree : FileTree) (place : Place) : Prop :=
  tree.Refuses (fun _ name => componentLimit < (Path.bytes name).length) place

/-- A place is closed if a directory above it may not be entered. -/
def IsClosed (tree : FileTree) (place : Place) : Prop :=
  tree.Refuses (fun above _ => above ∈ tree.closed) place

/-- A name within the limit makes no place too long. -/
theorem not_isTooLong_concat {place : Place} {name : Text} (h : ¬tree.IsTooLong place)
    (hname : (Path.bytes name).length ≤ componentLimit) : ¬tree.IsTooLong (place ++ [name]) := by
  rw [IsTooLong, refuses_concat]
  rintro (hlong | ⟨-, hlong⟩)
  · exact h hlong
  · exact absurd hname (Nat.not_le.2 hlong)

/-- Where something stands, no name is too long. -/
theorem IsTree.not_isTooLong (htree : tree.IsTree) {place : Place}
    (h : (tree.entryAt? place).isSome) : ¬tree.IsTooLong place := by
  rintro ⟨above, name, habove, -, hlong⟩
  have hname := htree.isName h name (habove.subset (by simp))
  exact absurd hname.short (Nat.not_le.2 hlong)

/-- Where no directory may not be entered, no place is closed. -/
theorem not_isClosed_of_nil (h : tree.closed = []) (place : Place) : ¬tree.IsClosed place := by
  rintro ⟨above, name, -, -, hclosed⟩
  rw [h] at hclosed
  cases hclosed

/-- What keeps a walk from the root from arriving at a place, if something does: a directory that
    may not be entered; else that nothing stands there, which is told as a name too long if there is
    one, and as an absence otherwise. -/
structure IsStopped (tree : FileTree) (place : Place) (fault : FileFault) : Prop where
  closed : tree.IsClosed place → fault = .denied
  tooLong : ¬tree.IsClosed place → tree.IsTooLong place → fault = .nameTooLong
  absent : ¬tree.IsClosed place → ¬tree.IsTooLong place → fault.isAbsence = true

/-- What a walk from the root to a place comes to: it arrives where something stands, unless the
    place is closed, and else it is stopped. -/
def LeadsTo (tree : FileTree) (place : Place) (walk : Except FileFault Place) : Prop :=
  (¬tree.IsClosed place ∧ (tree.entryAt? place).isSome ∧ walk = .ok place)
    ∨ ((tree.IsClosed place ∨ tree.entryAt? place = none)
      ∧ ∃ fault, walk = .error fault ∧ tree.IsStopped place fault)

/-! ### One step further -/

section

variable {init : Place} {last : Text}

/-- Nothing stands below what is no directory. -/
theorem IsTree.entryAt?_below (htree : tree.IsTree) (h : tree.entryAt? init ≠ some .directory) :
    tree.entryAt? (init ++ [last]) = none := by
  by_contra hbelow
  exact h (htree.directory_of_concat (Option.isSome_iff_ne_none.2 hbelow))

/-- Below a file a walk is stopped. -/
theorem IsTree.leadsTo_below_file (htree : tree.IsTree) {content : Bytes} {runnable : Bool}
    (hentry : tree.entryAt? init = some (.file content runnable)) (hopen : ¬tree.IsClosed init) :
    tree.LeadsTo (init ++ [last]) (tree.step init last) := by
  have hdirectory : tree.entryAt? init ≠ some .directory := by
    rw [hentry]
    simp
  have hshort : ¬tree.IsTooLong init := htree.not_isTooLong (by rw [hentry]; rfl)
  have hsame : ∀ {refused}, tree.Refuses refused (init ++ [last]) → tree.Refuses refused init :=
    fun h => (refuses_concat.1 h).resolve_right (fun hbelow => hdirectory hbelow.1)
  exact Or.inr ⟨Or.inr (htree.entryAt?_below hdirectory), .notDirectory, by simp [step, hentry],
    fun h => absurd (hsame h) hopen, fun _ h => absurd (hsame h) hshort, fun _ _ => rfl⟩

/-- From a directory that is arrived at, a walk goes on to what stands in it, or is stopped. -/
theorem IsTree.leadsTo_below_directory (htree : tree.IsTree)
    (hentry : tree.entryAt? init = some .directory) (hopen : ¬tree.IsClosed init)
    (hlast : Path.IsProper last) : tree.LeadsTo (init ++ [last]) (tree.step init last) := by
  have hshort : ¬tree.IsTooLong init := htree.not_isTooLong (by rw [hentry]; rfl)
  have hclosed : tree.IsClosed (init ++ [last]) ↔ init ∈ tree.closed := by
    rw [IsClosed, refuses_concat]
    exact ⟨fun h => (h.resolve_left hopen).2, fun h => Or.inr ⟨hentry, h⟩⟩
  have hlong : tree.IsTooLong (init ++ [last]) ↔ componentLimit < (Path.bytes last).length := by
    rw [IsTooLong, refuses_concat]
    exact ⟨fun h => (h.resolve_left hshort).2, fun h => Or.inr ⟨hentry, h⟩⟩
  rw [step_of_directory hentry hlast]
  by_cases hinitClosed : init ∈ tree.closed
  · rw [if_pos hinitClosed]
    exact Or.inr ⟨Or.inl (hclosed.2 hinitClosed), .denied, rfl, fun _ => rfl,
      fun h => absurd (hclosed.2 hinitClosed) h, fun h => absurd (hclosed.2 hinitClosed) h⟩
  · rw [if_neg hinitClosed]
    have hnotClosed := mt hclosed.1 hinitClosed
    cases hfound : tree.entryAt? (init ++ [last]) with
    | some found =>
      have hsome : (tree.entryAt? (init ++ [last])).isSome := by rw [hfound]; rfl
      have hnotLong := htree.not_isTooLong hsome
      exact Or.inl ⟨hnotClosed, hsome, by rw [if_neg (mt hlong.2 hnotLong)]; rfl⟩
    | none =>
      by_cases hlastLong : componentLimit < (Path.bytes last).length
      · rw [if_pos hlastLong]
        exact Or.inr ⟨Or.inr hfound, .nameTooLong, rfl, fun h => absurd h hnotClosed,
          fun _ _ => rfl, fun _ h => absurd (hlong.2 hlastLong) h⟩
      · rw [if_neg hlastLong]
        exact Or.inr ⟨Or.inr hfound, .missing, rfl, fun h => absurd h hnotClosed,
          fun _ h => absurd (hlong.1 h) hlastLong, fun _ _ => rfl⟩

/-- A walk that was stopped before is stopped for the same reason. -/
theorem IsTree.leadsTo_below_stopped (htree : tree.IsTree) {fault : FileFault}
    (hstops : tree.IsClosed init ∨ tree.entryAt? init = none)
    (hstopped : tree.IsStopped init fault) : tree.LeadsTo (init ++ [last]) (.error fault) := by
  have hdirectory : ¬tree.IsClosed init → tree.entryAt? init ≠ some .directory := by
    intro hopen
    rw [hstops.resolve_left hopen]
    simp
  have hsame : ∀ {refused}, ¬tree.IsClosed init → tree.Refuses refused (init ++ [last])
      → tree.Refuses refused init :=
    fun hopen h => (refuses_concat.1 h).resolve_right (fun hbelow => hdirectory hopen hbelow.1)
  have hclosed : tree.IsClosed (init ++ [last]) ↔ tree.IsClosed init :=
    ⟨fun h => by_contra (fun hopen => hopen (hsame hopen h)),
      fun h => h.of_above (List.prefix_append _ _)⟩
  refine Or.inr ⟨?_, fault, rfl, fun h => hstopped.closed (hclosed.1 h), fun hopen h => ?_,
    fun hopen h => ?_⟩
  · by_cases hinit : tree.IsClosed init
    · exact Or.inl (hclosed.2 hinit)
    · exact Or.inr (htree.entryAt?_below (hdirectory hinit))
  · have hinitOpen := mt hclosed.2 hopen
    exact hstopped.tooLong hinitOpen (hsame hinitOpen h)
  · exact hstopped.absent (mt hclosed.2 hopen)
      (fun hlong => h (hlong.of_above (List.prefix_append _ _)))

end

/-- **A walk from the root arrives where something stands, unless it is closed, and else is
    stopped.** -/
theorem IsTree.foldlM_step (htree : tree.IsTree) {parts : List Text}
    (hparts : ∀ part ∈ parts, Path.IsProper part) :
    tree.LeadsTo parts (parts.foldlM tree.step []) := by
  induction parts using List.reverseRecOn with
  | nil =>
    refine Or.inl ⟨?_, rfl, rfl⟩
    rintro ⟨above, name, h, -⟩
    simpa using List.prefix_nil.1 h
  | append_singleton init last ih =>
    have hlast := hparts last (by simp)
    rw [foldlM_step_concat]
    rcases ih (fun part hpart => hparts part (List.mem_append_left _ hpart)) with
      ⟨hopen, hsome, hinit⟩ | ⟨hstops, fault, hinit, hstopped⟩
    · rw [hinit, Except.bind]
      obtain ⟨entry, hentry⟩ := Option.isSome_iff_exists.1 hsome
      cases entry with
      | file content runnable => exact htree.leadsTo_below_file hentry hopen
      | directory => exact htree.leadsTo_below_directory hentry hopen hlast
    · rw [hinit]
      exact htree.leadsTo_below_stopped hstops hstopped

/-! ## Paths -/

variable {r : Text} {parts : List Text}

/-- The only step of a path without components, which stays where it begins. -/
def stay (r : Text) : Text := if r.isEmpty then [char '.'] else []

/-- The steps of a path are its components, unless there are none. -/
theorem stepsOf_ofComponents (hr : Path.IsRoot r) (h : ∀ part ∈ parts, Path.IsComponent part) :
    stepsOf (Path.ofComponents r parts) = if parts = [] then [stay r] else parts := by
  by_cases hparts : parts = []
  · subst hparts
    rcases hr with rfl | rfl | rfl <;> rfl
  · have hlast := (Path.getLast?_append_join_ne_slash r h hparts).2
    rw [Path.ofComponents_eq (Or.inr hparts), stepsOf, if_neg hparts, if_neg (by simpa using hlast),
      Path.filter_fieldsBy_root hr _ rfl, Text.fieldsBy_join '/' parts hparts
        (fun part hpart => (h part hpart).no_slash), List.append_nil, List.filter_eq_self]
    intro part hpart
    simpa using (h part hpart).nonempty

theorem walk_ofComponents (hr : Path.IsRoot r) (h : ∀ part ∈ parts, Path.IsComponent part)
    (start : Place) :
    tree.walk start (Path.ofComponents r parts)
      = if pathLimit ≤ (Path.bytes (Path.ofComponents r parts)).length then .error .nameTooLong
        else (if parts = [] then [stay r] else parts).foldlM tree.step
          (if r.isEmpty then start else []) := by
  have hempty : (Path.ofComponents r parts).isEmpty = false := by
    simpa using Path.ofComponents_ne_nil r h
  rw [walk, hempty, stepsOf_ofComponents hr h, Path.isAbsolute_ofComponents hr h]
  cases r.isEmpty <;> rfl

theorem step_stay_eq_ok {start place : Place} (h : tree.step start (stay r) = .ok place) :
    place = start := by
  rw [step] at h
  split at h
  · cases h
  · cases h
  · cases r with
    | nil =>
      by_cases hclosed : start ∈ tree.closed
      · simp [stay, hclosed] at h
      · simpa [stay, hclosed, eq_comm] using h
    | cons c rest => simpa [stay, eq_comm] using h

/-- Where a path leads to, its components lead to. -/
theorem foldlM_of_walk (hr : Path.IsRoot r) (h : ∀ part ∈ parts, Path.IsComponent part)
    {start place : Place} (hwalk : tree.walk start (Path.ofComponents r parts) = .ok place) :
    parts.foldlM tree.step (if r.isEmpty then start else []) = .ok place := by
  rw [walk_ofComponents hr h] at hwalk
  split at hwalk
  · cases hwalk
  · by_cases hparts : parts = []
    · subst hparts
      have hstays : tree.step (if r.isEmpty then start else []) (stay r) = .ok place := by
        rw [if_pos rfl, ← List.nil_append [_], foldlM_step_concat] at hwalk
        exact hwalk
      rw [step_stay_eq_ok hstays]
      rfl
    · rwa [if_neg hparts] at hwalk

/-- A name in a directory is arrived at through the path of the directory. -/
theorem IsTree.walk_child (htree : tree.IsTree) {start place : Place} {path name : Text}
    (hwalk : tree.walk start (Path.tidy path) = .ok place)
    (h : (tree.entryAt? (place ++ [name])).isSome) (hopen : place ∉ tree.closed)
    (hroom : (Path.bytes (Path.child (Path.tidy path) name)).length < pathLimit) :
    tree.walk start (Path.child (Path.tidy path) name) = .ok (place ++ [name]) := by
  have hr := Path.isRoot_root path
  have hparts : ∀ part ∈ Path.components path, Path.IsComponent part :=
    fun part hpart => Path.isComponent_of_mem_components hpart
  have hname := (htree.isName h name (by simp)).proper.isComponent
  have hmore : ∀ part ∈ Path.components path ++ [name], Path.IsComponent part :=
    List.forall_mem_append.2 ⟨hparts, by simpa using hname⟩
  have hnonempty : Path.components path ++ [name] ≠ [] := by simp
  rw [Path.tidy, Path.child_ofComponents hr hparts hname] at hroom ⊢
  rw [walk_ofComponents hr hmore, if_neg (Nat.not_le.2 hroom), if_neg hnonempty,
    foldlM_step_concat, foldlM_of_walk hr hparts hwalk]
  exact htree.step_eq_ok h hopen

/-! ## Places -/

/-- The path of a place. -/
def pathOf (place : Place) : Text := Path.ofComponents [char '/'] place

/-- Names that the system can be given, one after the other. -/
def IsTrail (place : Place) : Prop :=
  ∀ name ∈ place, Path.IsProper name ∧ Path.textFault? name = none

variable {place : Place}

theorem IsTrail.of_above {above : Place} (h : IsTrail place) (habove : above <+: place) :
    IsTrail above := fun name hname => h name (habove.subset hname)

theorem IsTrail.isProper (h : IsTrail place) : ∀ name ∈ place, Path.IsProper name :=
  fun name hname => (h name hname).1

theorem IsTrail.usable (h : IsTrail place) : ∀ name ∈ place, Path.textFault? name = none :=
  fun name hname => (h name hname).2

theorem pathOf_eq : pathOf place = [char '/'] ++ Text.join [char '/'] place :=
  Path.ofComponents_eq (Or.inl (List.cons_ne_nil _ _))

theorem root_pathOf (h : IsTrail place) : Path.root (pathOf place) = [char '/'] := by
  rw [pathOf_eq, Path.root_append_join [char '/'] place (Or.inl rfl)
    (Path.areComponents h.isProper)]

theorem components_pathOf (h : IsTrail place) : Path.components (pathOf place) = place := by
  rw [pathOf_eq, Path.components_append [char '/'] place (Or.inl rfl)
    (Path.areComponents h.isProper)]

theorem textFault?_pathOf (h : IsTrail place) : Path.textFault? (pathOf place) = none :=
  (Path.textFault?_ofComponents (by decide)).2 h.usable

theorem child_pathOf (h : IsTrail place) {name : Text} (hname : Path.IsProper name) :
    Path.child (pathOf place) name = pathOf (place ++ [name]) :=
  Path.child_ofComponents (Or.inr (Or.inl rfl)) (Path.areComponents h.isProper) hname.isComponent

theorem walk_pathOf (h : IsTrail place) (start : Place) :
    tree.walk start (pathOf place)
      = if pathLimit ≤ (Path.bytes (pathOf place)).length then .error .nameTooLong
        else place.foldlM tree.step [] := by
  rw [pathOf, walk_ofComponents (Or.inr (Or.inl rfl)) (Path.areComponents h.isProper)]
  by_cases hplace : place = []
  · subst hplace
    rfl
  · rw [if_neg hplace]
    rfl

/-! ## Lengths -/

/-- Whether the system takes the path of a place: neither the path nor a name in it is too long, and
    the directories above may be entered. -/
structure Fits (tree : FileTree) (place : Place) : Prop where
  path : (Path.bytes (pathOf place)).length < pathLimit
  names : ¬tree.IsTooLong place
  entered : ¬tree.IsClosed place

/-- The number of bytes of names with a slash before each. -/
def trailSize (place : Place) : Nat := (Path.bytes (place.flatMap (char '/' :: ·))).length

theorem trailSize_append (a b : Place) : trailSize (a ++ b) = trailSize a + trailSize b := by
  rw [trailSize, List.flatMap_append, Path.bytes_append, List.length_append]
  rfl

/-- A path has a slash before each name, and the root has one by itself. -/
theorem length_bytes_pathOf (place : Place) :
    (Path.bytes (pathOf place)).length = max 1 (trailSize place) := by
  cases place with
  | nil => rfl
  | cons name rest =>
    have hpath : pathOf (name :: rest) = (name :: rest).flatMap (char '/' :: ·) := by
      rw [pathOf_eq, Text.join_cons]
      rfl
    have hpositive : 1 ≤ trailSize (name :: rest) := Nat.succ_le_of_lt (Nat.succ_pos _)
    rw [hpath, max_eq_right hpositive, trailSize]

/-- The system takes the paths above one that it takes. -/
theorem Fits.of_above {above : Place} (h : tree.Fits place) (habove : above <+: place) :
    tree.Fits above where
  path := by
    obtain ⟨rest, rfl⟩ := habove
    have hpath := h.path
    rw [length_bytes_pathOf, trailSize_append] at hpath
    rw [length_bytes_pathOf]
    omega
  names := fun hlong => h.names (hlong.of_above habove)
  entered := fun hclosed => h.entered (hclosed.of_above habove)

/-- A name that fits in a directory fits in those above it. -/
theorem Fits.concat_of_above {above : Place} {name : Text} (h : tree.Fits (place ++ [name]))
    (hname : (Path.bytes name).length ≤ componentLimit) (habove : above <+: place) :
    tree.Fits (above ++ [name]) := by
  have hplace : tree.Fits place := h.of_above (List.prefix_append _ _)
  refine ⟨?_, not_isTooLong_concat (hplace.of_above habove).names hname, ?_⟩
  · obtain ⟨rest, rfl⟩ := habove
    have hpath := h.path
    rw [length_bytes_pathOf, trailSize_append, trailSize_append] at hpath
    rw [length_bytes_pathOf, trailSize_append]
    omega
  · rintro ⟨before, next, hnext, hdirectory, hclosed⟩
    -- the directory that may not be entered is above the longer place too
    have hbefore : before <+: above := by
      rcases List.prefix_concat_iff.1 hnext with hsame | hnext
      · obtain ⟨rfl, -⟩ := List.append_inj' hsame rfl
        exact List.prefix_rfl
      · exact (List.prefix_append before [next]).trans hnext
    obtain ⟨last, hlast⟩ : ∃ last, before ++ [last] <+: place ++ [name] := by
      obtain ⟨rest, hrest⟩ := hbefore.trans habove
      cases rest with
      | nil =>
        rw [List.append_nil] at hrest
        exact ⟨name, hrest ▸ List.prefix_rfl⟩
      | cons last more => exact ⟨last, more ++ [name], by simp [← hrest]⟩
    exact h.entered ⟨before, last, hlast, hdirectory, hclosed⟩

/-- Where something stands, only the length of the path and the directories above count. -/
theorem IsTree.fits_iff (htree : tree.IsTree) (h : (tree.entryAt? place).isSome) :
    tree.Fits place
      ↔ (Path.bytes (pathOf place)).length < pathLimit ∧ ¬tree.IsClosed place :=
  ⟨fun hfits => ⟨hfits.path, hfits.entered⟩,
    fun hfits => ⟨hfits.1, htree.not_isTooLong h, hfits.2⟩⟩

/-- The same holds for a name in a place where something stands. -/
theorem IsTree.fits_concat_iff (htree : tree.IsTree) {name : Text}
    (h : (tree.entryAt? place).isSome) (hname : (Path.bytes name).length ≤ componentLimit) :
    tree.Fits (place ++ [name]) ↔ (Path.bytes (pathOf (place ++ [name]))).length < pathLimit
      ∧ ¬tree.IsClosed (place ++ [name]) :=
  ⟨fun hfits => ⟨hfits.path, hfits.entered⟩,
    fun hfits => ⟨hfits.1, not_isTooLong_concat (htree.not_isTooLong h) hname, hfits.2⟩⟩

end FileTree

namespace Disk

open FileTree

variable {disk : Disk} {place : Place}

/-- **A path from the root leads to what stands at its place.** -/
theorem probe_pathOf (htree : disk.tree.IsTree) (h : IsTrail place)
    (hfits : disk.tree.Fits place) :
    disk.probe (pathOf place) = .ok (disk.tree.entryAt? place) := by
  rw [probe, entry, textFault?_pathOf h]
  simp only [walk_pathOf h, if_neg (Nat.not_le.2 hfits.path)]
  rcases htree.foldlM_step h.isProper with ⟨-, hsome, hwalk⟩ | ⟨hnone, fault, hwalk, hstopped⟩
  · obtain ⟨entry, hentry⟩ := Option.isSome_iff_exists.1 hsome
    rw [hwalk]
    simp only [hentry]
  · rw [hwalk, hnone.resolve_left hfits.entered]
    simp only [if_pos (hstopped.absent hfits.entered hfits.names)]

/-- **A path from the root that the system does not take is refused**: as too long, or because a
    directory above may not be entered. -/
theorem probe_pathOf_of_not_fits (htree : disk.tree.IsTree) (h : IsTrail place)
    (hfits : ¬disk.tree.Fits place) :
    ∃ fault, disk.probe (pathOf place) = .error (.system fault (pathOf place))
      ∧ (fault = .nameTooLong ∨ (fault = .denied ∧ disk.tree.IsClosed place)) := by
  rw [probe, entry, textFault?_pathOf h]
  simp only [walk_pathOf h]
  by_cases hpath : pathLimit ≤ (Path.bytes (pathOf place)).length
  · simp only [if_pos hpath]
    exact ⟨.nameTooLong, rfl, Or.inl rfl⟩
  · simp only [if_neg hpath]
    rcases htree.foldlM_step h.isProper with ⟨hopen, hsome, -⟩ | ⟨-, fault, hwalk, hstopped⟩
    · exact absurd ⟨Nat.not_le.1 hpath, htree.not_isTooLong hsome, hopen⟩ hfits
    · rw [hwalk]
      by_cases hclosed : disk.tree.IsClosed place
      · rw [hstopped.closed hclosed]
        exact ⟨.denied, rfl, Or.inr ⟨rfl, hclosed⟩⟩
      · have hlong : disk.tree.IsTooLong place :=
          not_not.1 (fun hlong => hfits ⟨Nat.not_le.1 hpath, hlong, hclosed⟩)
        rw [hstopped.tooLong hclosed hlong]
        exact ⟨.nameTooLong, rfl, Or.inl rfl⟩

/-- The names that the directory of a place tells are those of the tree. -/
theorem namesIn_pathOf (htree : disk.tree.IsTree) (h : IsTrail place)
    (hfits : disk.tree.Fits place) (hentry : (disk.tree.entryAt? place).isSome) :
    disk.namesIn (pathOf place) = disk.tree.told place := by
  rcases htree.foldlM_step h.isProper with ⟨-, -, hwalk⟩ | ⟨hnone, -⟩
  · rw [namesIn, walk_pathOf h, if_neg (Nat.not_le.2 hfits.path), hwalk]
  · rw [hnone.resolve_left hfits.entered] at hentry
    cases hentry

end Disk

end CompileTrace
