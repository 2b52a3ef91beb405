import CompileTrace.FileTree.Basic
import CompileTrace.Proofs.Path.Normal
import Mathlib.Data.List.Nodup

set_option autoImplicit false

/-! # Trees and the names in them

What a system gives as a tree is more than a list of entries: each place is taken once, each entry
has a name that the system can be given, and it stands in a directory (`FileTree.IsTree`). The names
in a directory are then those at which something stands (`mem_namesIn`), each told once
(`IsTree.nodup_namesIn`), and a directory tells them if it may be read (`mem_told`). -/

namespace CompileTrace.FileTree

/-- A name that an entry can have. -/
structure IsName (name : Text) : Prop where
  proper : Path.IsProper name
  usable : Path.textFault? name = none
  short : (Path.bytes name).length ≤ componentLimit

/-- Entries that a system can hold. -/
structure IsTree (tree : FileTree) : Prop where
  distinct : (tree.entries.map Prod.fst).Nodup
  named : ∀ e ∈ tree.entries, ∀ name ∈ e.1, IsName name
  inDirectory : ∀ e ∈ tree.entries, tree.entryAt? e.1.dropLast = some .directory

instance (name : Text) : Decidable (IsName name) :=
  decidable_of_iff
    ((name ≠ [] ∧ name ≠ [char '.'] ∧ name ≠ Path.parent ∧ char '/' ∉ name)
      ∧ Path.textFault? name = none
      ∧ (Path.bytes name).length ≤ componentLimit)
    ⟨fun ⟨⟨hne, hdot, hparent, hslash⟩, husable, hshort⟩ =>
      ⟨⟨hne, hdot, hparent, hslash⟩, husable, hshort⟩,
    fun ⟨⟨hne, hdot, hparent, hslash⟩, husable, hshort⟩ =>
      ⟨⟨hne, hdot, hparent, hslash⟩, husable, hshort⟩⟩

instance (tree : FileTree) : Decidable tree.IsTree :=
  decidable_of_iff
    ((tree.entries.map Prod.fst).Nodup ∧ (∀ e ∈ tree.entries, ∀ name ∈ e.1, IsName name)
      ∧ ∀ e ∈ tree.entries, tree.entryAt? e.1.dropLast = some .directory)
    ⟨fun ⟨hdistinct, hnamed, hdirectory⟩ => ⟨hdistinct, hnamed, hdirectory⟩,
    fun ⟨hdistinct, hnamed, hdirectory⟩ => ⟨hdistinct, hnamed, hdirectory⟩⟩

variable {tree : FileTree}

/-! ## Entries -/

theorem entryAt?_eq_lookup {place : Place} (h : place ≠ []) :
    tree.entryAt? place = tree.entries.lookup place := by
  rw [entryAt?, if_neg (by simpa using h)]

theorem mem_entries_of_entryAt? {place : Place} {entry : FileEntry} (h : place ≠ [])
    (hentry : tree.entryAt? place = some entry) : (place, entry) ∈ tree.entries := by
  rw [entryAt?_eq_lookup h] at hentry
  obtain ⟨before, after, hsplit, -⟩ := List.lookup_eq_some_iff.1 hentry
  simp [hsplit]

theorem exists_of_isSome_entryAt? {place : Place} (h : place ≠ [])
    (hentry : (tree.entryAt? place).isSome) : ∃ e ∈ tree.entries, e.1 = place := by
  obtain ⟨entry, hentry⟩ := Option.isSome_iff_exists.1 hentry
  exact ⟨(place, entry), mem_entries_of_entryAt? h hentry, rfl⟩

theorem isSome_entryAt?_iff {place : Place} (h : place ≠ []) :
    (tree.entryAt? place).isSome ↔ ∃ e ∈ tree.entries, e.1 = place := by
  refine ⟨exists_of_isSome_entryAt? h, ?_⟩
  rintro ⟨e, he, rfl⟩
  rw [entryAt?_eq_lookup h, Option.isSome_iff_ne_none]
  intro hnone
  simpa using List.lookup_eq_none_iff.1 hnone e he

/-- Something stands in a directory only. -/
theorem IsTree.directory_of_concat (htree : tree.IsTree) {place : Place} {name : Text}
    (h : (tree.entryAt? (place ++ [name])).isSome) : tree.entryAt? place = some .directory := by
  obtain ⟨e, he, hplace⟩ := exists_of_isSome_entryAt? (by simp) h
  have habove := htree.inDirectory e he
  rwa [hplace, List.dropLast_concat] at habove

theorem IsTree.isName (htree : tree.IsTree) {place : Place} (h : (tree.entryAt? place).isSome) :
    ∀ name ∈ place, IsName name := by
  by_cases hne : place = []
  · simp [hne]
  · obtain ⟨e, he, rfl⟩ := exists_of_isSome_entryAt? hne h
    exact htree.named e he

/-! ## Names in a directory -/

theorem namesIn_entry (e : Place × FileEntry) (place : Place) (name : Text) :
    (if e.1.dropLast = place then e.1.getLast? else none) = some name
      ↔ e.1 = place ++ [name] := by
  constructor
  · intro h
    split at h
    · next hplace => rw [← hplace, List.dropLast_append_getLast? name h]
    · cases h
  · intro h
    simp [h]

/-- The names in a directory are those at which something stands. -/
theorem mem_namesIn {place : Place} {name : Text} :
    name ∈ tree.namesIn place ↔ (tree.entryAt? (place ++ [name])).isSome := by
  rw [namesIn, List.mem_filterMap, isSome_entryAt?_iff (by simp)]
  exact exists_congr (fun e => and_congr_right (fun _ => namesIn_entry e place name))

/-- **Each name in a directory is told once.** -/
theorem IsTree.nodup_namesIn (htree : tree.IsTree) (place : Place) :
    (tree.namesIn place).Nodup := by
  refine List.Pairwise.filterMap _ ?_ (List.pairwise_map.1 htree.distinct)
  intro e e' hne name hname name' hname'
  rw [namesIn_entry] at hname hname'
  rintro rfl
  exact hne (hname.trans hname'.symm)

/-- The names that a directory tells are those at which something stands, if it may be read. -/
theorem mem_told {place : Place} {name : Text} :
    name ∈ tree.told place
      ↔ place ∉ tree.unreadable ∧ (tree.entryAt? (place ++ [name])).isSome := by
  rw [told, ← mem_namesIn]
  split
  · next hunreadable => simp [List.contains_iff_mem.1 hunreadable]
  · next hreadable => simp [mt List.contains_iff_mem.2 hreadable]

theorem IsTree.nodup_told (htree : tree.IsTree) (place : Place) : (tree.told place).Nodup := by
  rw [told]
  split
  · exact List.nodup_nil
  · exact htree.nodup_namesIn place

end CompileTrace.FileTree
