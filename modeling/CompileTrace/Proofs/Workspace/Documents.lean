import CompileTrace.Proofs.Capture.Recordings
import CompileTrace.Proofs.Workspace.Alone

set_option autoImplicit false

/-! # Documents by their paths

A project answers a text with the first document that has it as its name or as its path. The name
is what follows the directory of the project in the path, and may be a path itself: that of another
source, which is then *shadowed*. So a document is found by its path exactly if it is not shadowed,
and none is shadowed if the directory ends in a separator, as long as it is not the root
(`Assembler.document?_filePath`). -/

namespace CompileTrace

/-! ## Names -/

/-- A name is the whole path, or the path is the directory and then the name. -/
theorem documentName_eq_iff (path directory name : Text) :
    documentName path directory = name
      ↔ (directory ≠ [] ∧ path = directory ++ name)
        ∨ path = name ∧ (directory = [] ∨ ¬ directory <+: path) := by
  rw [documentName]
  by_cases hnil : directory = []
  · simp [hnil]
  · rw [if_neg (by simpa using hnil)]
    cases hdrop : path.dropStart? directory with
    | some rest =>
      obtain rfl := Text.dropStart?_eq_some_iff.1 hdrop
      simp [hnil]
    | none =>
      have hbegin : ¬ directory <+: path := by
        rintro ⟨rest, rfl⟩
        rw [Text.dropStart?_append] at hdrop
        cases hdrop
      have hne : path ≠ directory ++ name := fun hpath => hbegin ⟨name, hpath.symm⟩
      simp [hnil, hbegin, hne]

/-- Whether a text stands for a document of a project in a directory, by its path or by its
    name. -/
theorem documentName_or_path_iff (path directory text : Text) :
    (documentName path directory = text ∨ path = text)
      ↔ path = text ∨ directory ≠ [] ∧ path = directory ++ text := by
  rw [documentName_eq_iff]
  tauto

/-! ## Lookups -/

/-- Whether an earlier source of a project is found by the path of another one: the directory of the
    project and then that path is a source, and stands before it. -/
def Shadowed (directory : Text) (sources : List Text) (path : Text) : Prop :=
  directory ≠ [] ∧ sources.idxOf (directory ++ path) < sources.idxOf path

instance (directory : Text) (sources : List Text) (path : Text) :
    Decidable (Shadowed directory sources path) :=
  inferInstanceAs (Decidable (_ ∧ _))

/-- Whether what follows a directory in a path is no absolute path: the directory is none itself, or
    it ends in a separator and is not the root. -/
def Separates (directory : Text) : Prop :=
  Path.isAbsolute directory = false ∨ directory.getLast? = some (char '/') ∧ directory ≠ [char '/']

instance (directory : Text) : Decidable (Separates directory) :=
  inferInstanceAs (Decidable (_ ∨ _))

/-- **A directory that ends in a separator shadows nothing**, unless it is the root. -/
theorem not_shadowed_of_separates {directory path : Text} {sources : List Text}
    (hsources : ∀ source ∈ sources, Path.IsNormal source) (hpath : Path.IsNormal path)
    (h : Separates directory) : ¬ Shadowed directory sources path := by
  rintro ⟨hne, hbefore⟩
  have hmem : directory ++ path ∈ sources :=
    List.idxOf_lt_length_iff.1 (Nat.lt_of_lt_of_le hbefore List.idxOf_le_length)
  have hlonger := hsources _ hmem
  have habsolute : Path.isAbsolute directory = true := by
    obtain ⟨c, rest, rfl⟩ := List.exists_cons_of_ne_nil hne
    exact hlonger.isAbsolute
  rcases h with hrelative | ⟨hlast, hroot⟩
  · rw [habsolute] at hrelative
    cases hrelative
  · -- the separator at its end and the one that the path begins with would stand side by side
    obtain ⟨init, rfl⟩ := List.getLast?_eq_some_iff.1 hlast
    obtain ⟨rest, rfl⟩ := Path.exists_of_isAbsolute hpath.isAbsolute
    rw [List.append_assoc, List.singleton_append] at hlonger
    rw [hlonger.eq_nil_of_double_slash] at hroot
    exact hroot rfl

namespace Project

/-- **The first document that a path stands for** is the one with this path, unless that one is
    shadowed. -/
theorem document?_of_names {p : Project} {directory : Text}
    (hnames : ∀ d ∈ p.documents, d.name = documentName d.filePath directory) {d : Document}
    (hd : d ∈ p.documents) :
    ∃ found, p.document? d.filePath = some found
      ∧ (found.filePath = d.filePath
        ↔ ¬ Shadowed directory (p.documents.map Document.filePath) d.filePath) := by
  have hanswers : ∀ e ∈ p.documents, (e.name = d.filePath || e.filePath = d.filePath) = true
      ↔ e.filePath = d.filePath ∨ directory ≠ [] ∧ e.filePath = directory ++ d.filePath := by
    intro e he
    rw [Bool.or_eq_true, decide_eq_true_iff, decide_eq_true_iff, hnames e he,
      documentName_or_path_iff]
  have hsome : (p.document? d.filePath).isSome = true :=
    List.find?_isSome.2 ⟨d, hd, (hanswers d hd).2 (.inl rfl)⟩
  obtain ⟨found, hfound⟩ := Option.isSome_iff_exists.1 hsome
  refine ⟨found, hfound, ?_⟩
  obtain ⟨hanswer, before, after, hsplit, hbefore⟩ := List.find?_eq_some_iff_append.1 hfound
  have hothers : ∀ path, path = d.filePath ∨ directory ≠ [] ∧ path = directory ++ d.filePath →
      path ∉ before.map Document.filePath := by
    intro path hpath hmem
    obtain ⟨e, he, rfl⟩ := List.mem_map.1 hmem
    have hno := hbefore e he
    rw [(hanswers e (by rw [hsplit]; exact List.mem_append_left _ he)).2 hpath] at hno
    cases hno
  have hplace : ∀ path, path ∉ before.map Document.filePath →
      (p.documents.map Document.filePath).idxOf path
        = before.length + (found.filePath :: after.map Document.filePath).idxOf path := by
    intro path hpath
    rw [hsplit, List.map_append, List.map_cons, List.idxOf_append_of_notMem hpath,
      List.length_map]
  have hfoundPath := (hanswers found (by rw [hsplit]; simp)).1 hanswer
  rw [Shadowed, hplace d.filePath (hothers _ (.inl rfl))]
  constructor
  · rintro hpath ⟨hne, hlt⟩
    rw [hplace _ (hothers _ (.inr ⟨hne, rfl⟩)), ← hpath, List.idxOf_cons_self] at hlt
    omega
  · intro hclear
    refine hfoundPath.resolve_right ?_
    rintro ⟨hne, hpath⟩
    refine hclear ⟨hne, ?_⟩
    have hother : found.filePath ≠ d.filePath := by
      rw [hpath]
      simpa using hne
    rw [hplace _ (hothers _ (.inr ⟨hne, rfl⟩)), ← hpath, List.idxOf_cons_self,
      List.idxOf_cons_ne _ hother]
    omega

end Project

/-! ## Projects that are assembled -/

namespace Assembler

variable {a : Assembler} {r : Record} {s : AssemblyState} {c : Compiled}

/-- The documents of a project are named in the directory of its record. -/
theorem names_of_create (h : (a.create r s).1 = .ok c) :
    ∃ i, a.read r = .ok (i, c.2)
      ∧ ∀ d ∈ c.1.documents, d.name = documentName d.filePath i.projectDirectory := by
  rw [create] at h
  cases hread : a.read r with
  | error error => simp [hread] at h
  | ok found =>
    obtain ⟨i, arguments⟩ := found
    simp only [hread] at h
    obtain ⟨references, documents, -, hdocuments, rfl⟩ := build_eq_ok h
    refine ⟨i, rfl, fun d hd => ?_⟩
    obtain ⟨path, -, hpath⟩ := exists_of_mem_mapM hdocuments d hd
    obtain ⟨text, -, rfl⟩ := exists_of_map_eq_ok hpath
    rfl

/-- **A document is found by its path exactly if it is not shadowed**: something is found in any
    case, and nothing is shadowed if the directory of the project separates. -/
theorem document?_filePath (hcwd : Path.isAbsolute a.disk.cwd = true)
    (h : (a.create r s).1 = .ok c) :
    ∃ i, a.read r = .ok (i, c.2)
      ∧ ∀ d ∈ c.1.documents,
        (∃ found, c.1.document? d.filePath = some found
          ∧ (found.filePath = d.filePath ↔ ¬ Shadowed i.projectDirectory c.2.sources d.filePath))
        ∧ (Separates i.projectDirectory →
          ¬ Shadowed i.projectDirectory c.2.sources d.filePath) := by
  obtain ⟨i, hread, hnames⟩ := names_of_create h
  have hpaths := documents_of_create h
  refine ⟨i, hread, fun d hd => ⟨?_, fun hseparates => ?_⟩⟩
  · rw [← hpaths]
    exact c.1.document?_of_names hnames hd
  · have hnormal : ∀ path ∈ c.2.sources, Path.IsNormal path := fun path hpath =>
      isNormal_of_mem_read hcwd hread path (List.mem_append_left _ hpath)
    have hmem : d.filePath ∈ c.2.sources := by
      rw [← hpaths]
      exact List.mem_map_of_mem hd
    exact not_shadowed_of_separates hnormal (hnormal _ hmem) hseparates

/-- An assembler of a disk where a directory repeats the path of a source under it. -/
def nested : Assembler :=
  let disk : Disk :=
    ⟨(FileTree.empty.add ["src", "App".toText, "src".toText, "A.cs".toText]
        (.file [0x61] false)).add ["src", "A.cs".toText] (.file [0x62] false), "/src"⟩
  ⟨disk, disk.loader, csharp⟩

/-- The record of a project of both sources in a directory. -/
def nestedRecord (directory : Text) : Record :=
  Invocation.record ⟨csharp, "/src/App/App.csproj", directory,
    "csc /noconfig /src/App/src/A.cs /src/A.cs"⟩

/-- With a separator at the end of the directory, each of the two sources is found by its path. -/
theorem document?_filePath_nested :
    ∃ c i, (nested.create (nestedRecord "/src/App/") .initial).1 = .ok c
      ∧ nested.read (nestedRecord "/src/App/") = .ok (i, c.2)
      ∧ c.1.documents.map (·.name) = ["src/A.cs".toText, "/src/A.cs"]
      ∧ ∀ d ∈ c.1.documents, ∃ found, c.1.document? d.filePath = some found
        ∧ found.filePath = d.filePath := by
  have hnames : (nested.create (nestedRecord "/src/App/") .initial).1.toOption.map
      (fun c => c.1.documents.map (·.name)) = some ["src/A.cs".toText, "/src/A.cs"] := by
    decide
  cases hmade : (nested.create (nestedRecord "/src/App/") .initial).1 with
  | error error =>
    rw [hmade] at hnames
    cases hnames
  | ok c =>
    rw [hmade] at hnames
    obtain ⟨i, hread, hfound⟩ := document?_filePath (by decide) hmade
    have hdirectory : i.projectDirectory = "/src/App/" :=
      (Except.ok.inj (read_eq_ok hread).2.1).symm
    have hseparates : Separates i.projectDirectory := by
      rw [hdirectory]
      decide
    refine ⟨c, i, rfl, hread, Option.some.inj hnames, fun d hd => ?_⟩
    obtain ⟨⟨found, hanswer, hiff⟩, hclear⟩ := hfound d hd
    exact ⟨found, hanswer, hiff.2 (hclear hseparates)⟩

/-- Without one, the path of the second source is the name of the first, which is found instead. -/
theorem document?_filePath_shadowed :
    let first : Text := "/src/App/src/A.cs"
    let second : Text := "/src/A.cs"
    ∃ c, (nested.create (nestedRecord "/src/App") .initial).1 = .ok c
      ∧ c.1.documents.map Document.filePath = [first, second]
      ∧ (c.1.document? second).map Document.filePath = some first := by
  intro first second
  have hfound : (nested.create (nestedRecord "/src/App") .initial).1.toOption.map (fun c =>
      (c.1.documents.map Document.filePath, (c.1.document? second).map Document.filePath))
        = some ([first, second], some first) := by
    decide
  cases hmade : (nested.create (nestedRecord "/src/App") .initial).1 with
  | error error =>
    rw [hmade] at hfound
    cases hfound
  | ok c =>
    rw [hmade] at hfound
    exact ⟨c, rfl, Prod.mk.inj (Option.some.inj hfound)⟩

end Assembler

end CompileTrace
