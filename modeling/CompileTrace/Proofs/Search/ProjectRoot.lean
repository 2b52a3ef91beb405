import CompileTrace.Proofs.FileTree.Walks
import CompileTrace.Proofs.Search.Nearest

set_option autoImplicit false

/-! # The root of a project

The root that a search gives is told by the tree alone: the nearest place that tells of a solution,
else of a project, else one with a repository, and else the place to start from
(`FileTree.IsProjectRoot`). The search gives it from every start whose path the system takes, and
the same one from every directory between the two; from any other start it is refused
(`Disk.findsRoot`). -/

namespace CompileTrace

namespace FileTree

variable {tree : FileTree} {place start : Place}

/-! ## Marks -/

/-- Whether an entry with a marking name stands in a place. -/
def Holds (tree : FileTree) (marks : Text → Bool) (place : Place) : Prop :=
  ∃ name, marks name = true ∧ (tree.entryAt? (place ++ [name])).isSome

/-- Whether a place tells of an entry with a marking name: it may be read, and holds one. -/
def Tells (tree : FileTree) (marks : Text → Bool) (place : Place) : Prop :=
  place ∉ tree.unreadable ∧ tree.Holds marks place

theorem any_namesIn_eq_true_iff {marks : Text → Bool} :
    (tree.namesIn place).any marks = true ↔ tree.Holds marks place := by
  rw [List.any_eq_true]
  exact exists_congr (fun name => by rw [mem_namesIn, and_comm])

theorem any_told_eq_true_iff {marks : Text → Bool} :
    (tree.told place).any marks = true ↔ tree.Tells marks place := by
  rw [List.any_eq_true, Tells, Holds, ← exists_and_left]
  exact exists_congr (fun name => by rw [mem_told, and_assoc, and_comm (a := _ = true)])

/-- What is no directory tells no names. -/
theorem IsTree.told_eq_nil (htree : tree.IsTree) (h : tree.entryAt? place ≠ some .directory) :
    tree.told place = [] := by
  rw [List.eq_nil_iff_forall_not_mem]
  intro name hname
  exact h (htree.directory_of_concat (mem_told.1 hname).2)

/-- What marks the root of a project, by its kinds from the strongest to the weakest: a solution or
    a project that its directory tells of, and a repository. -/
def rootMarks (tree : FileTree) : List (Place → Prop) :=
  [tree.Tells (hasOneOf ["sln"]), tree.Tells (hasOneOf projectExtensions),
    tree.Holds (· == repositoryName)]

/-- The root of the project that a place belongs to. -/
def IsProjectRoot (tree : FileTree) (start root : Place) : Prop :=
  IsRootBy tree.rootMarks start root

/-- Whether the system takes all the paths that are looked at from a place upwards: those of the
    places, and, if no solution and no project is found, that of a repository in each. -/
structure HasRoom (tree : FileTree) (start : Place) : Prop where
  fits : tree.Fits start
  repository : IsUnmarked (tree.Tells (hasOneOf ["sln"])) start →
    IsUnmarked (tree.Tells (hasOneOf projectExtensions)) start →
    tree.Fits (start ++ [repositoryName])

theorem find?_told_eq_some_iff {marks : Text → Bool} {found : Place} :
    (above start).find? (fun place => (tree.told place).any marks) = some found
      ↔ IsNearest (tree.Tells marks) start found := by
  rw [find?_above_eq_some_iff]
  simp only [any_told_eq_true_iff]

theorem find?_told_eq_none_iff {marks : Text → Bool} :
    (above start).find? (fun place => (tree.told place).any marks) = none
      ↔ IsUnmarked (tree.Tells marks) start := by
  rw [find?_above_eq_none_iff]
  simp only [any_told_eq_true_iff]

theorem find?_names_eq_some_iff {marks : Text → Bool} {found : Place} :
    (above start).find? (fun place => (tree.namesIn place).any marks) = some found
      ↔ IsNearest (tree.Holds marks) start found := by
  rw [find?_above_eq_some_iff]
  simp only [any_namesIn_eq_true_iff]

theorem find?_names_eq_none_iff {marks : Text → Bool} :
    (above start).find? (fun place => (tree.namesIn place).any marks) = none
      ↔ IsUnmarked (tree.Holds marks) start := by
  rw [find?_above_eq_none_iff]
  simp only [any_namesIn_eq_true_iff]

/-- The paths looked at from a place upwards are those of the places. -/
theorem selfAndAbove_pathOf (h : IsTrail start) :
    Path.selfAndAbove (pathOf start) = (above start).map pathOf := by
  rw [Path.selfAndAbove, root_pathOf h, components_pathOf h, above, List.map_map]
  rfl

theorem isName_repositoryName : IsName repositoryName := by decide

/-- There is room for the search from a place on the way to the root. -/
theorem HasRoom.of_between {root between : Place} (hroom : tree.HasRoom start)
    (hroot : tree.IsProjectRoot start root) (habove : root <+: between)
    (hbetween : between <+: start) : tree.HasRoom between where
  fits := hroom.fits.of_above hbetween
  repository := by
    intro hnoSolution hnoProject
    -- a mark of the first two kinds stands at the root, which is at or above the place between
    rcases hroot with hroot | ⟨hsolution, hroot | ⟨hproject, -⟩⟩
    · exact absurd hroot.isMarked (hnoSolution root habove)
    · exact absurd hroot.isMarked (hnoProject root habove)
    · exact (hroom.repository hsolution hproject).concat_of_above isName_repositoryName.short
        hbetween

theorem isTrail_repositoryName (h : IsTrail place) : IsTrail (place ++ [repositoryName]) := by
  refine List.forall_mem_append.2 ⟨h, fun name hname => ?_⟩
  rw [List.mem_singleton.1 hname]
  exact ⟨isName_repositoryName.proper, isName_repositoryName.usable⟩

end FileTree

namespace Disk

open FileTree

variable {disk : Disk} {place start : Place}

/-! ## Looking upwards -/

theorem holdsOneOf_pathOf (htree : disk.tree.IsTree) (h : IsTrail place)
    (hfits : disk.tree.Fits place) (extensions : List Text) :
    disk.holdsOneOf extensions (pathOf place)
      = .ok ((disk.tree.told place).any (hasOneOf extensions)) := by
  rw [holdsOneOf, probe_pathOf htree h hfits]
  cases hentry : disk.tree.entryAt? place with
  | none =>
    rw [htree.told_eq_nil (by simp [hentry])]
    rfl
  | some entry =>
    cases entry with
    | directory =>
      simp only [namesIn_pathOf htree h hfits (by rw [hentry]; rfl)]
    | file content runnable =>
      rw [htree.told_eq_nil (by simp [hentry])]
      rfl

theorem holdsRepository_pathOf (htree : disk.tree.IsTree) (h : IsTrail place)
    (hfits : disk.tree.Fits (place ++ [repositoryName])) :
    disk.holdsRepository (pathOf place)
      = .ok ((disk.tree.namesIn place).any (· == repositoryName)) := by
  have hmore := isTrail_repositoryName h
  have hsame : (disk.tree.entryAt? (place ++ [repositoryName])).isSome
      = (disk.tree.namesIn place).any (· == repositoryName) := by
    rw [Bool.eq_iff_iff, ← mem_namesIn, List.any_beq', List.contains_iff_mem]
  rw [holdsRepository, child_pathOf h isName_repositoryName.proper,
    probe_pathOf htree hmore hfits, ← hsame]
  rfl

/-- The nearest place with an entry of some extensions is found. -/
theorem firstMarked?_holdsOneOf (htree : disk.tree.IsTree) (h : IsTrail start)
    (hfits : disk.tree.Fits start) (extensions : List Text) :
    firstMarked? (disk.holdsOneOf extensions) ((above start).map pathOf)
      = .ok (((above start).find?
          (fun place => (disk.tree.told place).any (hasOneOf extensions))).map pathOf) := by
  refine firstMarked?_map (fun place hplace => ?_)
  rw [mem_above] at hplace
  exact holdsOneOf_pathOf htree (h.of_above hplace) (hfits.of_above hplace) extensions

/-- The nearest place with a repository is found. -/
theorem firstMarked?_holdsRepository (htree : disk.tree.IsTree) (h : IsTrail start)
    (hfits : disk.tree.Fits (start ++ [repositoryName])) :
    firstMarked? disk.holdsRepository ((above start).map pathOf)
      = .ok (((above start).find?
          (fun place => (disk.tree.namesIn place).any (· == repositoryName))).map pathOf) := by
  refine firstMarked?_map (fun place hplace => ?_)
  rw [mem_above] at hplace
  exact holdsRepository_pathOf htree (h.of_above hplace)
    (hfits.concat_of_above isName_repositoryName.short hplace)

/-- A place whose path is too long is refused before any other is looked at. -/
theorem firstMarked?_of_error {mark : Text → Except FileError Bool} {error : FileError}
    (h : mark (pathOf start) = .error error) :
    firstMarked? mark ((above start).map pathOf) = .error error := by
  have hhead : ∃ rest, above start = start :: rest := by
    induction start using List.reverseRecOn with
    | nil => exact ⟨[], rfl⟩
    | append_singleton init last _ => exact ⟨above init, above_concat init last⟩
  obtain ⟨rest, hrest⟩ := hhead
  rw [hrest, List.map_cons, firstMarked?, h]

/-! ## Where to start -/

/-- A tree that is worked in from one of its directories. -/
structure IsSound (disk : Disk) : Prop where
  tree : disk.tree.IsTree
  cwd : Path.IsNormal disk.cwd
  directory : disk.tree.entryAt? (Path.components disk.cwd) = some .directory

/-- The place that a path stands for, from the working directory. -/
def startPlace (disk : Disk) (path : Text) : Place :=
  Path.components (Path.absolute disk.cwd path)

theorem IsSound.resolvePath_eq (h : disk.IsSound) (path : Text) :
    resolvePath disk path = pathOf (disk.startPlace path) := by
  have hnormal : Path.IsNormal (Path.absolute disk.cwd path) :=
    Path.isNormal_resolve disk.cwd path h.cwd.isAbsolute
  rw [resolvePath, hnormal.underPlainRoot_eq, pathOf_eq]
  rfl

/-- A path that can be followed has a place of names that the system can be given. -/
theorem IsSound.isTrail_startPlace (h : disk.IsSound) {path : Text}
    (hfollow : Path.followFault? path = none) : IsTrail (disk.startPlace path) := by
  have habsolute : Path.isAbsolute (Path.join disk.cwd path) = true :=
    Path.isAbsolute_join disk.cwd path h.cwd.isAbsolute
  intro name hname
  refine ⟨(Path.isNormal_normalize _ habsolute).isProper_of_mem_components name hname, ?_⟩
  have husable := Path.followFault?_eq_none_iff.1 hfollow
  rw [startPlace, Path.absolute, Path.resolve, Path.components_normalize habsolute] at hname
  have hjoin := Path.mem_components_of_mem_collapse hname
  by_cases hpath : Path.isAbsolute path = true
  · rw [Path.join, if_pos hpath] at hjoin
    exact husable name hjoin
  · rw [Path.components_join_of_relative _ _ (by simpa using hpath)] at hjoin
    rcases List.mem_append.1 hjoin with hjoin | hjoin
    · exact (h.tree.isName (by rw [h.directory]; rfl) name hjoin).usable
    · exact husable name hjoin

/-- A place stands for itself. -/
theorem startPlace_pathOf (disk : Disk) (h : IsTrail place) :
    disk.startPlace (pathOf place) = place := by
  have hnormal : Path.IsNormal (pathOf place) :=
    ⟨[char '/'], place, Or.inl rfl, h.isProper, pathOf_eq⟩
  rw [startPlace, Path.absolute, hnormal.resolve_eq, components_pathOf h]

theorem followFault?_pathOf (h : IsTrail place) : Path.followFault? (pathOf place) = none := by
  rw [Path.followFault?_eq_none_iff, components_pathOf h]
  exact h.usable

/-! ## The search -/

/-- The root is found from a start for which there is room. -/
theorem IsSound.exists_findRoot (h : disk.IsSound) {path : Text}
    (hfollow : Path.followFault? path = none) (hroom : disk.tree.HasRoom (disk.startPlace path)) :
    ∃ root, disk.tree.IsProjectRoot (disk.startPlace path) root
      ∧ disk.findRoot path = .ok (pathOf root) := by
  have htrail := h.isTrail_startPlace hfollow
  have hpaths := selfAndAbove_pathOf htrail
  rw [findRoot, hfollow]
  simp only [h.resolvePath_eq, hpaths, firstMarked?_holdsOneOf h.tree htrail hroom.fits, bind,
    Except.bind]
  cases hsolution : (above (disk.startPlace path)).find?
      (fun place => (disk.tree.told place).any (hasOneOf ["sln"])) with
  | some found => exact ⟨found, Or.inl (find?_told_eq_some_iff.1 hsolution), rfl⟩
  | none =>
    have hnoSolution := find?_told_eq_none_iff.1 hsolution
    cases hproject : (above (disk.startPlace path)).find?
        (fun place => (disk.tree.told place).any (hasOneOf projectExtensions)) with
    | some found =>
      exact ⟨found, Or.inr ⟨hnoSolution, Or.inl (find?_told_eq_some_iff.1 hproject)⟩, rfl⟩
    | none =>
      have hnoProject := find?_told_eq_none_iff.1 hproject
      have hrepositoryRoom := hroom.repository hnoSolution hnoProject
      simp only [Option.map_none, firstMarked?_holdsRepository h.tree htrail hrepositoryRoom]
      cases hrepository : (above (disk.startPlace path)).find?
          (fun place => (disk.tree.namesIn place).any (· == repositoryName)) with
      | some found =>
        have hnearest := find?_names_eq_some_iff.1 hrepository
        exact ⟨found, Or.inr ⟨hnoSolution, Or.inr ⟨hnoProject, Or.inl hnearest⟩⟩, rfl⟩
      | none =>
        have hnoRepository := find?_names_eq_none_iff.1 hrepository
        exact ⟨disk.startPlace path,
          Or.inr ⟨hnoSolution, Or.inr ⟨hnoProject, Or.inr ⟨hnoRepository, rfl⟩⟩⟩, rfl⟩

/-- A start for which there is no room is refused: a path is too long, or a directory above one may
    not be entered. -/
theorem IsSound.findRoot_of_not_hasRoom (h : disk.IsSound) {path : Text}
    (hfollow : Path.followFault? path = none)
    (hroom : ¬disk.tree.HasRoom (disk.startPlace path)) :
    ∃ fault refused, disk.findRoot path = .error (.system fault refused)
      ∧ (fault = .nameTooLong
        ∨ (fault = .denied ∧ disk.tree.IsClosed (disk.startPlace path ++ [repositoryName]))) := by
  have htrail := h.isTrail_startPlace hfollow
  have hpaths := selfAndAbove_pathOf htrail
  rw [findRoot, hfollow]
  simp only [h.resolvePath_eq, hpaths]
  by_cases hfits : disk.tree.Fits (disk.startPlace path)
  · -- nothing is found by the first two kinds of marks, and the repository's path is refused
    have hmore := isTrail_repositoryName htrail
    have hnone : IsUnmarked (disk.tree.Tells (hasOneOf ["sln"])) (disk.startPlace path)
        ∧ IsUnmarked (disk.tree.Tells (hasOneOf projectExtensions)) (disk.startPlace path)
        ∧ ¬disk.tree.Fits (disk.startPlace path ++ [repositoryName]) := by
      by_contra hsome
      refine hroom ⟨hfits, fun hnoSolution hnoProject => ?_⟩
      by_contra hlong
      exact hsome ⟨hnoSolution, hnoProject, hlong⟩
    obtain ⟨hnoSolution, hnoProject, hlong⟩ := hnone
    obtain ⟨fault, hprobe, hfault⟩ := probe_pathOf_of_not_fits h.tree hmore hlong
    have hrepository : disk.holdsRepository (pathOf (disk.startPlace path))
        = .error (.system fault (pathOf (disk.startPlace path ++ [repositoryName]))) := by
      rw [holdsRepository, child_pathOf htrail isName_repositoryName.proper, hprobe]
      rfl
    simp only [firstMarked?_holdsOneOf h.tree htrail hfits,
      find?_told_eq_none_iff.2 hnoSolution, find?_told_eq_none_iff.2 hnoProject,
      firstMarked?_of_error hrepository, bind, Except.bind]
    exact ⟨fault, _, rfl, hfault⟩
  · obtain ⟨fault, hprobe, hfault⟩ := probe_pathOf_of_not_fits h.tree htrail hfits
    have hsolution : disk.holdsOneOf ["sln"] (pathOf (disk.startPlace path))
        = .error (.system fault (pathOf (disk.startPlace path))) := by
      rw [holdsOneOf, hprobe]
    simp only [firstMarked?_of_error hsolution, bind, Except.bind]
    exact ⟨fault, _, rfl, hfault.imp_right
      (And.imp_right (fun hclosed => hclosed.of_above (List.prefix_append _ _)))⟩

/-- What the search from a path gives: where there is room the root of the path's place, which is
    found from every place on the way to it too, and a refusal otherwise. A start at which something
    stands has room unless its path or that of a repository in it is too long or leads through a
    directory that may not be entered. -/
structure FindsRoot (disk : Disk) (path : Text) : Prop where
  found : disk.tree.HasRoom (disk.startPlace path) →
    ∃ root, disk.tree.IsProjectRoot (disk.startPlace path) root
      ∧ root <+: disk.startPlace path ∧ disk.findRoot path = .ok (pathOf root)
      ∧ ∀ between, root <+: between → between <+: disk.startPlace path →
        disk.findRoot (pathOf between) = .ok (pathOf root)
  refused : ¬disk.tree.HasRoom (disk.startPlace path) →
    ∃ fault refused, disk.findRoot path = .error (.system fault refused)
      ∧ (fault = .nameTooLong
        ∨ (fault = .denied ∧ disk.tree.IsClosed (disk.startPlace path ++ [repositoryName])))
  unique : ∀ root other, disk.tree.IsProjectRoot (disk.startPlace path) root →
    disk.tree.IsProjectRoot (disk.startPlace path) other → root = other
  room : (disk.tree.entryAt? (disk.startPlace path)).isSome →
    (disk.tree.HasRoom (disk.startPlace path)
      ↔ ((Path.bytes (pathOf (disk.startPlace path))).length < pathLimit
          ∧ ¬disk.tree.IsClosed (disk.startPlace path))
        ∧ (IsUnmarked (disk.tree.Tells (hasOneOf ["sln"])) (disk.startPlace path) →
          IsUnmarked (disk.tree.Tells (hasOneOf projectExtensions)) (disk.startPlace path) →
          (Path.bytes (pathOf (disk.startPlace path ++ [repositoryName]))).length < pathLimit
            ∧ ¬disk.tree.IsClosed (disk.startPlace path ++ [repositoryName])))

/-- **The search gives the nearest directory with a mark of the strongest kind, and the same one
    from every directory on the way to it.** -/
theorem findsRoot (disk : Disk) (h : disk.IsSound) (path : Text)
    (hfollow : Path.followFault? path = none) : disk.FindsRoot path where
  found := by
    intro hroom
    have htrail := h.isTrail_startPlace hfollow
    obtain ⟨root, hroot, hfound⟩ := h.exists_findRoot hfollow hroom
    refine ⟨root, hroot, hroot.isPrefix, hfound, fun between habove hbetween => ?_⟩
    have hbetweenTrail := htrail.of_above hbetween
    have hplace := startPlace_pathOf disk hbetweenTrail
    obtain ⟨other, hother, hfoundOther⟩ := h.exists_findRoot (followFault?_pathOf hbetweenTrail)
      (by rw [hplace]; exact hroom.of_between hroot habove hbetween)
    rw [hplace] at hother
    rw [hfoundOther, hother.unique (hroot.of_between habove hbetween)]
  refused := h.findRoot_of_not_hasRoom hfollow
  unique := fun _ _ hroot hother => hroot.unique hother
  room := by
    intro hentry
    rw [← h.tree.fits_iff hentry,
      ← h.tree.fits_concat_iff hentry isName_repositoryName.short]
    exact ⟨fun hroom => ⟨hroom.fits, hroom.repository⟩, fun hroom => ⟨hroom.1, hroom.2⟩⟩

/-- A project below a solution. -/
def nestedDisk : Disk :=
  ⟨(FileTree.empty.add ["src", "App.sln"] (.file [] false)).add ["src", "lib", "A.csproj"]
    (.file [] false), "/src/lib"⟩

/-- The solution decides, though the project is nearer. -/
theorem findsRoot_nested : nestedDisk.IsSound ∧ Path.followFault? "." = none
    ∧ nestedDisk.tree.HasRoom (nestedDisk.startPlace ".")
    ∧ nestedDisk.findRoot "." = .ok "/src" ∧ nestedDisk.FindsRoot "." := by
  have hsound : nestedDisk.IsSound :=
    ⟨by decide +kernel, (Path.isNormal_iff _).2 (by decide +kernel), by decide +kernel⟩
  have hfollow : Path.followFault? "." = none := by decide +kernel
  have hroot := findsRoot nestedDisk hsound "." hfollow
  have hroom : nestedDisk.tree.HasRoom (nestedDisk.startPlace ".") :=
    (hroot.room (by decide +kernel)).2 ⟨⟨by decide +kernel, not_isClosed_of_nil rfl _⟩,
      fun _ _ => ⟨by decide +kernel, not_isClosed_of_nil rfl _⟩⟩
  exact ⟨hsound, hfollow, hroom, by decide +kernel, hroot⟩

/-- The project decides where the directory of the solution may not be read. -/
example :
    let tree := { nestedDisk.tree with unreadable := [["src".toText]] }
    ({ nestedDisk with tree := tree } : Disk).findRoot "." = .ok "/src/lib" := by decide +kernel

end Disk

/-! ## Paths without room -/

namespace FileTree

/-- A tree of directories, each in the one before. -/
def chain (place : Place) : FileTree :=
  ⟨(List.range place.length).map (fun n => (place.take (n + 1), .directory)), [], []⟩

variable {place : Place}

theorem mem_entries_chain {e : Place × FileEntry} :
    e ∈ (chain place).entries ↔ e.2 = .directory ∧ e.1 ≠ [] ∧ e.1 <+: place := by
  obtain ⟨p, entry⟩ := e
  simp only [chain, List.mem_map, List.mem_range, Prod.mk.injEq]
  constructor
  · rintro ⟨n, hn, rfl, rfl⟩
    refine ⟨rfl, fun hnil => ?_, List.take_prefix _ _⟩
    rcases List.take_eq_nil_iff.1 hnil with hnil | rfl
    · exact Nat.succ_ne_zero n hnil
    · exact absurd hn (Nat.not_lt_zero n)
  · rintro ⟨rfl, hne, hprefix⟩
    have hpositive := List.length_pos_of_ne_nil hne
    have hlength := hprefix.length_le
    refine ⟨p.length - 1, by omega, ?_, rfl⟩
    rw [Nat.sub_add_cancel hpositive]
    exact (List.prefix_iff_eq_take.1 hprefix).symm

/-- Exactly the places on the chain are directories. -/
theorem isSome_entryAt?_chain {p : Place} :
    ((chain place).entryAt? p).isSome ↔ p <+: place := by
  by_cases hp : p = []
  · subst hp
    exact iff_of_true rfl (List.nil_prefix)
  · rw [isSome_entryAt?_iff hp]
    constructor
    · rintro ⟨e, he, rfl⟩
      exact (mem_entries_chain.1 he).2.2
    · intro h
      exact ⟨(p, .directory), mem_entries_chain.2 ⟨rfl, hp, h⟩, rfl⟩

theorem entryAt?_chain {p : Place} (h : p <+: place) :
    (chain place).entryAt? p = some .directory := by
  obtain ⟨entry, hentry⟩ := Option.isSome_iff_exists.1 (isSome_entryAt?_chain.2 h)
  by_cases hp : p = []
  · subst hp
    rfl
  · have hdirectory : entry = .directory :=
      (mem_entries_chain.1 (mem_entries_of_entryAt? hp hentry)).1
    rw [hentry, hdirectory]

theorem isTree_chain (h : ∀ name ∈ place, IsName name) : (chain place).IsTree where
  distinct := by
    rw [chain, List.map_map]
    refine List.Nodup.map_on (fun a ha b hb hsame => ?_) List.nodup_range
    have hlength := congrArg List.length hsame
    simp only [List.mem_range] at ha hb
    simp only [Function.comp_apply, List.length_take] at hlength
    omega
  named := fun e he name hname => h name ((mem_entries_chain.1 he).2.2.subset hname)
  inDirectory := fun e he =>
    entryAt?_chain ((List.dropLast_prefix e.1).trans (mem_entries_chain.1 he).2.2)

/-- A chain is unmarked if its names mark nothing. -/
theorem isUnmarked_chain {marks : Text → Bool} (h : ∀ name ∈ place, marks name = false)
    (start : Place) : IsUnmarked ((chain place).Holds marks) start := by
  rintro above - ⟨name, hmarks, hentry⟩
  have hname : name ∈ place := (isSome_entryAt?_chain.1 hentry).subset (by simp)
  rw [h name hname] at hmarks
  cases hmarks

/-- Names whose path has 4091 bytes. -/
def deepPlace : Place :=
  List.replicate 16 (List.replicate 254 (char 'd')) ++ [List.replicate 10 (char 'd')]

theorem isName_of_mem_deepPlace : ∀ name ∈ deepPlace, IsName name := by
  intro name hname
  rcases List.mem_append.1 hname with hname | hname
  · rw [List.eq_of_mem_replicate hname]
    decide +kernel
  · rw [List.mem_singleton.1 hname]
    decide +kernel

end FileTree

namespace Disk

open FileTree

/-- The root as working directory, above directories whose path is almost too long. -/
def deepDisk : Disk := ⟨chain deepPlace, "/"⟩

/-- The search is refused from a directory without any mark in which the path of a repository is too
    long. -/
theorem findRoot_refused :
    deepDisk.IsSound ∧ deepDisk.probe (pathOf deepPlace) = .ok (some .directory)
      ∧ (∀ marked ∈ deepDisk.tree.rootMarks, IsUnmarked marked deepPlace)
      ∧ ∃ fault refused, deepDisk.findRoot (pathOf deepPlace) = .error (.system fault refused) := by
  have htree : deepDisk.tree.IsTree := isTree_chain isName_of_mem_deepPlace
  have hsound : deepDisk.IsSound :=
    ⟨htree, (Path.isNormal_iff _).2 (by decide +kernel), entryAt?_chain List.nil_prefix⟩
  have htrail : IsTrail deepPlace := fun name hname =>
    ⟨(isName_of_mem_deepPlace name hname).proper, (isName_of_mem_deepPlace name hname).usable⟩
  have hentry : deepDisk.tree.entryAt? deepPlace = some .directory :=
    entryAt?_chain List.prefix_rfl
  have hfits : deepDisk.tree.Fits deepPlace := by
    refine (htree.fits_iff (by rw [hentry]; rfl)).2 ⟨?_, not_isClosed_of_nil rfl _⟩
    rw [length_bytes_pathOf]
    decide +kernel
  have hunmarked : ∀ {marks : Text → Bool}, (∀ name ∈ deepPlace, marks name = false) →
      IsUnmarked (deepDisk.tree.Holds marks) deepPlace := fun h => isUnmarked_chain h deepPlace
  have hnoSolution : IsUnmarked (deepDisk.tree.Tells (hasOneOf ["sln"])) deepPlace :=
    fun place hplace htells => hunmarked (by decide +kernel) place hplace htells.2
  have hnoProject : IsUnmarked (deepDisk.tree.Tells (hasOneOf projectExtensions)) deepPlace :=
    fun place hplace htells => hunmarked (by decide +kernel) place hplace htells.2
  have hplace := startPlace_pathOf deepDisk htrail
  have hroom : ¬deepDisk.tree.HasRoom (deepDisk.startPlace (pathOf deepPlace)) := by
    rw [hplace]
    intro hroom
    have hpath := (hroom.repository hnoSolution hnoProject).path
    rw [length_bytes_pathOf] at hpath
    revert hpath
    decide +kernel
  obtain ⟨fault, refused, hrefused, -⟩ :=
    hsound.findRoot_of_not_hasRoom (followFault?_pathOf htrail) hroom
  refine ⟨hsound, ?_, ?_, fault, refused, hrefused⟩
  · rw [probe_pathOf htree htrail hfits, hentry]
  · simp only [rootMarks, List.forall_mem_cons]
    exact ⟨hnoSolution, hnoProject, hunmarked (by decide +kernel), nofun⟩

end Disk

end CompileTrace
