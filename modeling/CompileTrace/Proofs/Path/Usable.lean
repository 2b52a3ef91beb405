import CompileTrace.Path.Encoded
import CompileTrace.Proofs.Path.Children
import CompileTrace.Proofs.Path.Normal

set_option autoImplicit false

/-! # Texts that the system can be given

A text can be given to the system if each of its characters can (`textFault?_eq_none_iff`), so that
a path can be if its components can (`textFault?_ofComponents`), and it can then be followed
component by component (`followFault?_eq_none_iff`). -/

namespace CompileTrace.Path

theorem bytes_append (a b : Text) : bytes (a ++ b) = bytes a ++ bytes b := List.flatMap_append

/-- A text can be given to the system if all its characters have bytes and none is null. -/
theorem textFault?_eq_none_iff {s : Text} :
    textFault? s = none ↔ ∀ c ∈ s, hasNoBytes c = false ∧ c ≠ '\x00' := by
  rw [textFault?, List.span_eq_takeWhile_dropWhile]
  cases hrest : s.dropWhile (fun c => !hasNoBytes c) with
  | nil =>
    have hbytes : ∀ c ∈ s, hasNoBytes c = false := by
      simpa using List.dropWhile_eq_nil_iff.1 hrest
    by_cases hnull : char '\x00' ∈ s
    · simp only [List.contains_eq_mem, decide_eq_true hnull, if_true, reduceCtorEq, false_iff]
      exact fun h => (h _ hnull).2 rfl
    · simp only [List.contains_eq_mem, decide_eq_false hnull, Bool.false_eq_true, if_false,
        true_iff]
      exact fun c hc => ⟨hbytes c hc, fun h => hnull (h ▸ hc)⟩
  | cons c rest =>
    have hfault : hasNoBytes c = true := by
      have := List.head?_dropWhile_not (fun c => !hasNoBytes c) s
      rw [hrest] at this
      simpa using this
    have hmem : c ∈ s := (List.dropWhile_suffix _).subset (hrest ▸ List.mem_cons_self)
    simp only [reduceCtorEq, false_iff]
    intro h
    rw [(h c hmem).1] at hfault
    cases hfault

theorem textFault?_append {a b : Text} :
    textFault? (a ++ b) = none ↔ textFault? a = none ∧ textFault? b = none := by
  simp only [textFault?_eq_none_iff, List.forall_mem_append]

theorem textFault?_join {parts : List Text} :
    textFault? (Text.join [char '/'] parts) = none ↔ ∀ part ∈ parts, textFault? part = none := by
  induction parts with
  | nil => simp [Text.join, textFault?_eq_none_iff]
  | cons part rest ih =>
    have hslash : textFault? [char '/'] = none := by decide
    cases rest with
    | nil => simp [Text.join_singleton]
    | cons next rest =>
      rw [Text.join_cons_cons, textFault?_append, textFault?_append, ih, List.forall_mem_cons]
      simp [hslash]

/-- A path can be given to the system if its components can. -/
theorem textFault?_ofComponents {r : Text} (hr : textFault? r = none) {parts : List Text} :
    textFault? (ofComponents r parts) = none ↔ ∀ part ∈ parts, textFault? part = none := by
  by_cases h : r.isEmpty && parts.isEmpty
  · have hparts : parts = [] := by simp_all
    rw [ofComponents, if_pos h, hparts]
    simp only [List.not_mem_nil, false_imp_iff, implies_true, iff_true]
    decide
  · rw [ofComponents, if_neg h, textFault?_append, textFault?_join, and_iff_right hr]

theorem textFault?_root (path : Text) : textFault? (root path) = none := by
  unfold root
  split <;> decide

/-- A child can be given to the system if the directory and the name can. -/
theorem textFault?_child {path name : Text} (h : textFault? (tidy path) = none)
    (hname : IsComponent name) (husable : textFault? name = none) :
    textFault? (child (tidy path) name) = none := by
  rw [tidy, textFault?_ofComponents (textFault?_root path)] at h
  have hparts : ∀ part ∈ components path, IsComponent part :=
    fun _ hpart => isComponent_of_mem_components hpart
  rw [tidy, child_ofComponents (isRoot_root path) hparts hname,
    textFault?_ofComponents (textFault?_root path), List.forall_mem_append]
  exact ⟨h, by simpa using husable⟩

/-! ## Paths that are followed -/

/-- A component that is followed is given to the system in a path. -/
theorem textFault?_of_stepFault? {r : Text} (hr : textFault? r = none) {rest : List Text} :
    ∀ {parts : List Text}, stepFault? r parts rest = none →
      ∀ part ∈ rest, textFault? part = none := by
  induction rest with
  | nil => simp
  | cons part rest ih =>
    intro parts h
    rw [stepFault?] at h
    by_cases hparent : part = parent
    · rw [if_pos hparent] at h
      refine List.forall_mem_cons.2 ⟨?_, ih h⟩
      rw [hparent]
      decide
    · rw [if_neg hparent] at h
      split at h
      · cases h
      · next hnext =>
        rw [textFault?_ofComponents hr, pushComponent_of_ne_parent _ _ _ hparent] at hnext
        exact List.forall_mem_cons.2 ⟨hnext part (by simp), ih h⟩

theorem stepFault?_eq_none {r : Text} (hr : textFault? r = none) {rest : List Text}
    (hrest : ∀ part ∈ rest, textFault? part = none) :
    ∀ {parts : List Text}, (∀ part ∈ parts, textFault? part = none) →
      stepFault? r parts rest = none := by
  induction rest with
  | nil => exact fun _ => rfl
  | cons part rest ih =>
    intro parts hparts
    obtain ⟨hpart, hrest⟩ := List.forall_mem_cons.1 hrest
    have hnext : ∀ p ∈ pushComponent (!r.isEmpty) parts part, textFault? p = none := by
      intro p hp
      rcases mem_pushComponent hp with rfl | hp
      · exact hpart
      · exact hparts p hp
    have hpath : textFault? (ofComponents r (pushComponent (!r.isEmpty) parts part).reverse)
        = none := by
      rw [textFault?_ofComponents hr]
      exact fun p hp => hnext p (List.mem_reverse.1 hp)
    rw [stepFault?, ih hrest hnext]
    simp only [hpath, ite_self]

theorem textFault?_take_root (path : Text) : textFault? ((root path).take 1) = none := by
  unfold root
  split <;> decide

/-- A path can be followed exactly if its components can be given to the system. -/
theorem followFault?_eq_none_iff {path : Text} :
    followFault? path = none ↔ ∀ part ∈ components path, textFault? part = none :=
  ⟨textFault?_of_stepFault? (textFault?_take_root path),
    fun h => stepFault?_eq_none (textFault?_take_root path) h (by simp)⟩

end CompileTrace.Path
