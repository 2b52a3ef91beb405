import CompileTrace.Proofs.Path.Tidy
import Mathlib.Data.List.Induction

set_option autoImplicit false

/-! # One component more

A path, relative or absolute, is made of a root and components (`Path.ofComponents`). What is read
from it are these again, and a child of it has one component more (`child_ofComponents`), which is
how names in a directory become paths. -/

namespace CompileTrace.Path

/-- What a path can begin with. -/
def IsRoot (r : Text) : Prop := r = [] ∨ r = [char '/'] ∨ r = [char '/', char '/']

theorem isRoot_root (path : Text) : IsRoot (root path) := by
  unfold root
  split
  · exact Or.inr (Or.inl rfl)
  · exact Or.inr (Or.inr rfl)
  · exact Or.inr (Or.inl rfl)
  · exact Or.inl rfl

variable {r : Text} {parts : List Text}

/-! ## Reading -/

theorem root_join (h : ∀ part ∈ parts, IsComponent part) :
    root (Text.join [char '/'] parts) = [] := by
  have hhead := head?_join_ne_slash parts h
  cases hjoin : Text.join [char '/'] parts with
  | nil => rfl
  | cons c rest =>
    rw [hjoin, List.head?_cons] at hhead
    have hc : c ≠ '/' := fun hc => hhead (by rw [hc])
    simp [root, hc]

theorem root_of_isRoot (hr : IsRoot r) (h : ∀ part ∈ parts, IsComponent part) :
    root (r ++ Text.join [char '/'] parts) = r := by
  rcases hr with rfl | hr
  · exact root_join h
  · exact root_append_join r parts hr h

/-- The slashes of a root make empty fields alone. -/
theorem filter_fieldsBy_root (hr : IsRoot r) (keep : Text → Bool) (hkeep : keep [] = false)
    (s : Text) : ((r ++ s).fieldsBy (· == char '/')).filter keep
      = (s.fieldsBy (· == char '/')).filter keep := by
  have hslash : ∀ s : Text, (Text.fieldsBy (· == char '/') (char '/' :: s)).filter keep
      = (s.fieldsBy (· == char '/')).filter keep := by
    intro s
    rw [Text.fieldsBy, fields_cons_of_sep (· == char '/') '/' s rfl,
      List.filter_cons_of_neg (by simp [hkeep])]
    rfl
  rcases hr with rfl | rfl | rfl
  · rfl
  · exact hslash s
  · exact (hslash (char '/' :: s)).trans (hslash s)

theorem components_of_isRoot (hr : IsRoot r) (h : ∀ part ∈ parts, IsComponent part) :
    components (r ++ Text.join [char '/'] parts) = parts :=
  (filter_fieldsBy_root hr _ rfl _).trans (components_join parts h)

theorem isAbsolute_of_isRoot (hr : IsRoot r) (h : ∀ part ∈ parts, IsComponent part) :
    isAbsolute (r ++ Text.join [char '/'] parts) = !r.isEmpty := by
  rcases hr with rfl | rfl | rfl
  · exact beq_eq_false_iff_ne.2 (head?_join_ne_slash parts h)
  · rfl
  · rfl

/-! ## Writing -/

theorem ofComponents_eq (h : r ≠ [] ∨ parts ≠ []) :
    ofComponents r parts = r ++ Text.join [char '/'] parts := by
  refine if_neg (fun hempty => ?_)
  simp only [Bool.and_eq_true, List.isEmpty_iff] at hempty
  exact h.elim (fun hr => hr hempty.1) (fun hparts => hparts hempty.2)

theorem getLast?_join_ne_slash (h : ∀ part ∈ parts, IsComponent part) :
    (Text.join [char '/'] parts).getLast? ≠ some (char '/') := by
  have hname : ∀ (before name : Text), IsComponent name →
      (before ++ name).getLast? ≠ some (char '/') := by
    intro before name hname hlast
    rw [List.getLast?_append_of_ne_nil _ hname.nonempty] at hlast
    exact hname.no_slash (List.mem_of_getLast? hlast)
  induction parts using List.reverseRecOn with
  | nil => simp [Text.join]
  | append_singleton init last ih =>
    have hlast := h last (by simp)
    by_cases hinit : init = []
    · rw [hinit, List.nil_append, Text.join_singleton]
      exact hname [] last hlast
    · rw [Text.join_concat [char '/'] last hinit, ← List.append_assoc]
      exact hname _ last hlast

/-- A path with a component ends in no slash. -/
theorem getLast?_append_join_ne_slash (r : Text) (h : ∀ part ∈ parts, IsComponent part)
    (hparts : parts ≠ []) : r ++ Text.join [char '/'] parts ≠ []
      ∧ (r ++ Text.join [char '/'] parts).getLast? ≠ some (char '/') := by
  have hjoin : Text.join [char '/'] parts ≠ [] := by
    intro hnil
    have hread := components_join parts h
    rw [hnil] at hread
    exact hparts hread.symm
  refine ⟨by simp [hjoin], ?_⟩
  rw [List.getLast?_append_of_ne_nil _ hjoin]
  exact getLast?_join_ne_slash h

theorem ofComponents_ne_nil (r : Text) (h : ∀ part ∈ parts, IsComponent part) :
    ofComponents r parts ≠ [] := by
  by_cases hne : r ≠ [] ∨ parts ≠ []
  · rw [ofComponents_eq hne]
    by_cases hparts : parts = []
    · have hr := hne.resolve_right (fun h => h hparts)
      simp [hr]
    · exact (getLast?_append_join_ne_slash r h hparts).1
  · simp only [not_or, not_not] at hne
    obtain ⟨rfl, rfl⟩ := hne
    exact List.cons_ne_nil _ _

theorem isAbsolute_ofComponents (hr : IsRoot r) (h : ∀ part ∈ parts, IsComponent part) :
    isAbsolute (ofComponents r parts) = !r.isEmpty := by
  by_cases hne : r ≠ [] ∨ parts ≠ []
  · rw [ofComponents_eq hne, isAbsolute_of_isRoot hr h]
  · simp only [not_or, not_not] at hne
    obtain ⟨rfl, rfl⟩ := hne
    rfl

/-- A name after a path is its last component. -/
theorem join_ofComponents (hr : IsRoot r) (h : ∀ part ∈ parts, IsComponent part) {name : Text}
    (hname : IsComponent name) (hne : r ≠ [] ∨ parts ≠ []) :
    join (ofComponents r parts) name = r ++ Text.join [char '/'] (parts ++ [name]) := by
  have hrelative : isAbsolute name = false := by
    have hsingle : ∀ part ∈ [name], IsComponent part := by simpa using hname
    have hempty := isAbsolute_of_isRoot (Or.inl rfl) hsingle
    rwa [List.nil_append, Text.join_singleton] at hempty
  rw [join, if_neg (by simp [hrelative]), ofComponents_eq hne]
  by_cases hparts : parts = []
  · subst hparts
    rcases hr with rfl | rfl | rfl
    · simp at hne
    · simp [Text.join]
    · simp [Text.join]
  · obtain ⟨hempty, hlast⟩ := getLast?_append_join_ne_slash r h hparts
    rw [if_neg, Text.join_concat [char '/'] name hparts, List.append_assoc, List.singleton_append]
    rw [Bool.or_eq_true, List.isEmpty_iff, beq_iff_eq]
    exact not_or.2 ⟨hempty, hlast⟩

/-- **A child of a path has one component more.** -/
theorem child_ofComponents (hr : IsRoot r) (h : ∀ part ∈ parts, IsComponent part) {name : Text}
    (hname : IsComponent name) :
    child (ofComponents r parts) name = ofComponents r (parts ++ [name]) := by
  have hmore : ∀ part ∈ parts ++ [name], IsComponent part := by
    intro part hpart
    rcases List.mem_append.1 hpart with hpart | hpart
    · exact h part hpart
    · exact List.mem_singleton.1 hpart ▸ hname
  by_cases hne : r ≠ [] ∨ parts ≠ []
  · have hdot : ofComponents r parts ≠ [char '.'] := by
      rw [ofComponents_eq hne]
      intro hdot
      have hroot := root_of_isRoot hr h
      have hread := components_of_isRoot hr h
      rw [hdot] at hroot hread
      exact hne.elim (fun hr => hr hroot.symm) (fun hparts => hparts hread.symm)
    rw [child, if_neg hdot, join_ofComponents hr h hname hne, tidy, root_of_isRoot hr hmore,
      components_of_isRoot hr hmore]
  · simp only [not_or, not_not] at hne
    obtain ⟨rfl, rfl⟩ := hne
    rw [List.nil_append, ofComponents_eq (Or.inr (List.cons_ne_nil _ _)), Text.join_singleton]
    rfl

end CompileTrace.Path
