import CompileTrace.Proofs.FileTree.Walks
import CompileTrace.Search.BuildTarget

set_option autoImplicit false

/-! # Which entry a directory is built from

In a directory the only solution is chosen, or the only project where there is no solution
(`FileTree.IsChoice`). Which entries are looked at is a parameter of the choice: the search looks at
the names alone, so that directories count as files do (`TargetSearch.among_eq_found_iff`). What it
finds is a file if the entry is, and where no directory has the name of a solution or of a project
the choice is one among the files (`Disk.targets_exactly`). -/

namespace CompileTrace

/-- Whether an entry is a file. -/
def FileEntry.IsFile : FileEntry → Prop
  | .file _ _ => True
  | .directory => False

instance : DecidablePred FileEntry.IsFile
  | .file _ _ => isTrue trivial
  | .directory => isFalse id

namespace FileTree

variable {tree : FileTree} {counts : FileEntry → Prop} {place : Place} {extensions : List Text}
  {name : Text}

/-! ## Choices -/

/-- Whether a name in a directory is a candidate: the directory may be read, the name has one of
    some extensions, and the entry that stands at it counts. -/
def IsCandidate (tree : FileTree) (counts : FileEntry → Prop) (place : Place)
    (extensions : List Text) (name : Text) : Prop :=
  place ∉ tree.unreadable ∧ hasOneOf extensions name = true
    ∧ ∃ entry, tree.entryAt? (place ++ [name]) = some entry ∧ counts entry

/-- The only candidate. -/
def IsOnly (tree : FileTree) (counts : FileEntry → Prop) (place : Place) (extensions : List Text)
    (name : Text) : Prop :=
  tree.IsCandidate counts place extensions name
    ∧ ∀ other, tree.IsCandidate counts place extensions other → other = name

/-- The name that is chosen in a directory: its only solution, or, if it has none, its only
    project. -/
def IsChoice (tree : FileTree) (counts : FileEntry → Prop) (place : Place) (name : Text) : Prop :=
  tree.IsOnly counts place solutionExtensions name
    ∨ ((∀ other, ¬tree.IsCandidate counts place solutionExtensions other)
      ∧ tree.IsOnly counts place projectExtensions name)

theorem IsCandidate.mem_told (h : tree.IsCandidate counts place extensions name) :
    name ∈ tree.told place := by
  obtain ⟨hreadable, -, entry, hentry, -⟩ := h
  rw [FileTree.mem_told, hentry]
  exact ⟨hreadable, rfl⟩

section

variable [DecidablePred counts]

instance : Decidable (tree.IsCandidate counts place extensions name) :=
  inferInstanceAs (Decidable (_ ∧ _ ∧ ∃ entry ∈ tree.entryAt? (place ++ [name]), counts entry))

instance : Decidable (tree.IsOnly counts place extensions name) :=
  decidable_of_iff
    (tree.IsCandidate counts place extensions name
      ∧ ∀ other ∈ tree.told place, tree.IsCandidate counts place extensions other → other = name)
    (and_congr_right (fun _ => forall_congr' (fun _ =>
      ⟨fun h hother => h hother.mem_told hother, fun h _ => h⟩)))

instance : Decidable (tree.IsChoice counts place name) :=
  decidable_of_iff
    (tree.IsOnly counts place solutionExtensions name
      ∨ ((∀ other ∈ tree.told place, ¬tree.IsCandidate counts place solutionExtensions other)
        ∧ tree.IsOnly counts place projectExtensions name))
    (or_congr_right (and_congr_left (fun _ => forall_congr' (fun _ =>
      ⟨fun h hother => h hother.mem_told hother, fun h _ => h⟩))))

end

/-- Entries may be counted in another way if the candidates are the same. -/
theorem isChoice_congr {counts' : FileEntry → Prop}
    (h : ∀ name, hasOneOf solutionExtensions name = true ∨ hasOneOf projectExtensions name = true →
      ∀ entry, tree.entryAt? (place ++ [name]) = some entry → (counts entry ↔ counts' entry)) :
    tree.IsChoice counts place name ↔ tree.IsChoice counts' place name := by
  have hsolutions : ∀ name, tree.IsCandidate counts place solutionExtensions name
      ↔ tree.IsCandidate counts' place solutionExtensions name := fun name =>
    and_congr_right (fun _ => and_congr_right (fun hname => exists_congr (fun entry =>
      and_congr_right (fun hentry => h name (Or.inl hname) entry hentry))))
  have hprojects : ∀ name, tree.IsCandidate counts place projectExtensions name
      ↔ tree.IsCandidate counts' place projectExtensions name := fun name =>
    and_congr_right (fun _ => and_congr_right (fun hname => exists_congr (fun entry =>
      and_congr_right (fun hentry => h name (Or.inr hname) entry hentry))))
  simp only [IsChoice, IsOnly, hsolutions, hprojects]

/-- Every name that a directory tells with one of some extensions is a candidate, of whatever kind
    the entry is. -/
theorem mem_filter_told : name ∈ (tree.told place).filter (hasOneOf extensions)
    ↔ tree.IsCandidate (fun _ => True) place extensions name := by
  rw [List.mem_filter, FileTree.mem_told, Option.isSome_iff_exists, and_assoc]
  simp only [IsCandidate, and_true]
  exact and_congr_right (fun _ => and_comm)

theorem filter_told_eq_nil_iff : (tree.told place).filter (hasOneOf extensions) = []
    ↔ ∀ other, ¬tree.IsCandidate (fun _ => True) place extensions other := by
  rw [List.eq_nil_iff_forall_not_mem]
  exact forall_congr' (fun other => not_congr mem_filter_told)

theorem IsTree.filter_told_eq_singleton_iff (htree : tree.IsTree) :
    (tree.told place).filter (hasOneOf extensions) = [name]
      ↔ tree.IsOnly (fun _ => True) place extensions name := by
  have hdistinct := (htree.nodup_told place).filter (hasOneOf extensions)
  simp only [IsOnly, ← mem_filter_told]
  constructor
  · intro h
    simp [h]
  · rintro ⟨hmem, honly⟩
    by_contra hne
    rcases (hdistinct.ne_singleton_iff name).1 hne with hnil | ⟨other, hother, hdiffers⟩
    · rw [hnil] at hmem
      cases hmem
    · exact hdiffers (honly other hother)

end FileTree

/-! ## The search -/

/-- What is found among names: the only solution, or the only project without a solution. -/
theorem TargetSearch.among_eq_found_iff {directory target : Text} {names : List Text} :
    among directory names = .found target ↔ ∃ name, target = Path.child directory name
      ∧ (names.filter (hasOneOf solutionExtensions) = [name]
        ∨ (names.filter (hasOneOf solutionExtensions) = []
          ∧ names.filter (hasOneOf projectExtensions) = [name])) := by
  rw [among]
  rcases names.filter (hasOneOf solutionExtensions) with _ | ⟨solution, _ | ⟨second, rest⟩⟩
  · rcases names.filter (hasOneOf projectExtensions) with _ | ⟨project, _ | ⟨second, rest⟩⟩
    · simp
    · simp [eq_comm]
    · simp
  · simp [eq_comm]
  · simp

namespace Disk

variable {disk : Disk} {path target : Text} {place : Place}

/-- Whether a path leads to the directory at a place. -/
structure IsDirectoryAt (disk : Disk) (path : Text) (place : Place) : Prop where
  isDirectory : disk.isDirectory path = true
  walk : disk.tree.walk (Path.components disk.cwd) path = .ok place

theorem entry_of_isDirectory (h : disk.isDirectory path = true) :
    disk.entry path = .ok .directory := by
  unfold isDirectory at h
  split at h
  · next hentry => exact hentry
  · cases h

theorem exists_entry_of_isFile (h : disk.isFile path = true) :
    ∃ content runnable, disk.entry path = .ok (.file content runnable) := by
  unfold isFile at h
  split at h
  · next content runnable hentry => exact ⟨content, runnable, hentry⟩
  · cases h

/-- A path to a directory leads to a place. -/
theorem exists_isDirectoryAt (h : disk.isDirectory path = true) :
    ∃ place, disk.IsDirectoryAt path place := by
  have hentry := entry_of_isDirectory h
  unfold entry at hentry
  split at hentry
  · cases hentry
  · split at hentry
    · cases hentry
    · next place hwalk => exact ⟨place, h, hwalk⟩

theorem probe_of_entry {entry : FileEntry} (h : disk.entry path = .ok entry) :
    disk.probe path = .ok (some entry) := by rw [probe, h]

theorem probe_of_error {error : FileError} (h : disk.entry path = .error error) :
    (∃ error, disk.probe path = .error error) ∨ disk.probe path = .ok none := by
  rw [probe, h]
  cases error with
  | unusable fault => exact Or.inr rfl
  | system fault refused =>
    by_cases habsence : fault.isAbsence = true
    · exact Or.inr (if_pos habsence)
    · exact Or.inl ⟨_, if_neg habsence⟩

theorem findTarget_of_isFile (h : disk.isFile (Path.tidy path) = true) :
    disk.findTarget path = .ok (.found (Path.tidy path)) := by
  obtain ⟨content, runnable, hentry⟩ := exists_entry_of_isFile h
  rw [findTarget]
  simp only [probe_of_entry hentry]

theorem findTarget_of_isDirectoryAt (h : disk.IsDirectoryAt (Path.tidy path) place) :
    disk.findTarget path
      = .ok (.among (Path.tidy path) (disk.tree.told place)) := by
  rw [findTarget]
  simp only [probe_of_entry (entry_of_isDirectory h.isDirectory), namesIn, h.walk]

/-- What leads to neither a file nor a directory gives no target. -/
theorem findTarget_ne_found (hfile : disk.isFile (Path.tidy path) = false)
    (hdirectory : disk.isDirectory (Path.tidy path) = false) :
    disk.findTarget path ≠ .ok (.found target) := by
  rw [findTarget]
  cases hentry : disk.entry (Path.tidy path) with
  | ok entry =>
    cases entry with
    | file content runnable => simp [isFile, hentry] at hfile
    | directory => simp [isDirectory, hentry] at hdirectory
  | error error =>
    rcases probe_of_error hentry with ⟨error, hprobe⟩ | hprobe
    · simp [hprobe]
    · simp [hprobe]

/-- In a directory the search gives the chosen name's path, entries of every kind being
    candidates. -/
theorem findTarget_eq_found_iff (htree : disk.tree.IsTree)
    (h : disk.IsDirectoryAt (Path.tidy path) place) :
    disk.findTarget path = .ok (.found target)
      ↔ ∃ name, disk.tree.IsChoice (fun _ => True) place name
        ∧ target = Path.child (Path.tidy path) name := by
  rw [findTarget_of_isDirectoryAt h, Except.ok.injEq, TargetSearch.among_eq_found_iff]
  refine exists_congr (fun name => ?_)
  rw [htree.filter_told_eq_singleton_iff, htree.filter_told_eq_singleton_iff,
    FileTree.filter_told_eq_nil_iff, FileTree.IsChoice, and_comm]

/-- A name in a directory is arrived at by its path. -/
theorem entry_child (htree : disk.tree.IsTree) (h : disk.IsDirectoryAt (Path.tidy path) place)
    {name : Text} {entry : FileEntry} (hentry : disk.tree.entryAt? (place ++ [name]) = some entry)
    (hopen : place ∉ disk.tree.closed)
    (hroom : (Path.bytes (Path.child (Path.tidy path) name)).length < FileTree.pathLimit) :
    disk.entry (Path.child (Path.tidy path) name) = .ok entry := by
  have hsome : (disk.tree.entryAt? (place ++ [name])).isSome := by rw [hentry]; rfl
  have hname := htree.isName hsome name (by simp)
  have husable : Path.textFault? (Path.tidy path) = none := by
    have hdirectory := entry_of_isDirectory h.isDirectory
    unfold Disk.entry at hdirectory
    split at hdirectory
    · cases hdirectory
    · next hfault => exact hfault
  rw [Disk.entry, Path.textFault?_child husable hname.proper.isComponent hname.usable]
  simp only [htree.walk_child h.walk hsome hopen hroom, hentry]

/-! ## The outcome -/

/-- Which targets the search gives for a path: for a file itself; for the directory at a place the
    path of the chosen name, which leads to the entry at it if the directory may be entered; and
    none for anything else. In a directory that may not be read nothing is chosen. Where no
    directory has the name of a solution or of a project, the choice is one among the files. -/
structure TargetsExactly (disk : Disk) (path : Text) : Prop where
  file : disk.isFile (Path.tidy path) = true →
    ∀ target, disk.findTarget path = .ok (.found target) ↔ target = Path.tidy path
  place : disk.isDirectory (Path.tidy path) = true →
    ∃ place, disk.IsDirectoryAt (Path.tidy path) place
  directory : ∀ place, disk.IsDirectoryAt (Path.tidy path) place →
    ∀ target, disk.findTarget path = .ok (.found target)
      ↔ ∃ name, disk.tree.IsChoice (fun _ => True) place name
        ∧ target = Path.child (Path.tidy path) name
  entry : ∀ place, disk.IsDirectoryAt (Path.tidy path) place →
    ∀ name entry, disk.tree.entryAt? (place ++ [name]) = some entry →
      place ∉ disk.tree.closed →
      (Path.bytes (Path.child (Path.tidy path) name)).length < FileTree.pathLimit →
      disk.entry (Path.child (Path.tidy path) name) = .ok entry
  files : ∀ place, disk.IsDirectoryAt (Path.tidy path) place →
    (∀ name, hasOneOf solutionExtensions name = true ∨ hasOneOf projectExtensions name = true →
      disk.tree.entryAt? (place ++ [name]) ≠ some .directory) →
    ∀ target, disk.findTarget path = .ok (.found target)
      ↔ ∃ name, disk.tree.IsChoice FileEntry.IsFile place name
        ∧ target = Path.child (Path.tidy path) name
  neither : disk.isFile (Path.tidy path) = false → disk.isDirectory (Path.tidy path) = false →
    ∀ target, disk.findTarget path ≠ .ok (.found target)

/-- **The search for a build target gives a file itself and for a directory the entry that its
    names choose, and that is a file where no directory bears such a name.** -/
theorem targets_exactly (disk : Disk) (htree : disk.tree.IsTree) (path : Text) :
    disk.TargetsExactly path where
  file := by
    intro hfile target
    rw [findTarget_of_isFile hfile, Except.ok.injEq, TargetSearch.found.injEq, eq_comm]
  place := exists_isDirectoryAt
  directory := fun _ h _ => findTarget_eq_found_iff htree h
  entry := fun _ h _ _ hentry hopen hroom => entry_child htree h hentry hopen hroom
  files := by
    intro place h hfiles target
    rw [findTarget_eq_found_iff htree h]
    refine exists_congr (fun name => and_congr_left (fun _ => FileTree.isChoice_congr ?_))
    intro name hname entry hentry
    cases entry with
    | file content runnable => exact iff_of_true trivial trivial
    | directory => exact absurd hentry (hfiles name hname)
  neither := fun hfile hdirectory _ => findTarget_ne_found hfile hdirectory

/-- A directory with a project and its output. -/
def builtDisk : Disk :=
  ⟨(FileTree.empty.add ["src", "App.csproj"] (.file [] false)).add ["src", "bin"] .directory,
    "/src"⟩

/-- The project is the target. -/
theorem targets_exactly_built : builtDisk.tree.IsTree
    ∧ builtDisk.IsDirectoryAt (Path.tidy "/src") ["src"]
    ∧ builtDisk.findTarget "/src" = .ok (.found "/src/App.csproj")
    ∧ builtDisk.TargetsExactly "/src" := by
  have htree : builtDisk.tree.IsTree := by decide +kernel
  have hplace : builtDisk.IsDirectoryAt (Path.tidy "/src") ["src"] := ⟨by decide, by decide⟩
  have hexactly := targets_exactly builtDisk htree "/src"
  exact ⟨htree, hplace, (hexactly.directory ["src"] hplace _).2
    ⟨"App.csproj".toText, by decide +kernel, by decide +kernel⟩, hexactly⟩

/-- A directory with the name of a solution beside a project. -/
def solutionNamedDisk : Disk :=
  ⟨(FileTree.empty.add ["src", "App.csproj"] (.file [] false)).add ["src", "App.sln"] .directory,
    "/src"⟩

/-- The directory hides the project and becomes the target itself, though it is no file. -/
theorem target_of_directory :
    solutionNamedDisk.findTarget "/src" = .ok (.found "/src/App.sln")
      ∧ solutionNamedDisk.isFile "/src/App.sln" = false
      ∧ solutionNamedDisk.tree.IsChoice FileEntry.IsFile ["src"] "App.csproj" := by
  decide +kernel

end Disk

end CompileTrace
