import CompileTrace.Proofs.Traversal

set_option autoImplicit false

/-! # Interleavings

Two lists are interleaved to one that holds the members of both, each list in its own order. What
is done to a list member by member respects interleavings, and so does a traversal that may fail:
it succeeds on an interleaving if and only if it does on both lists (`Interleaving.mapM_ok`,
`Interleaving.exists_mapM`). -/

namespace CompileTrace

/-- Whether the last list holds the members of the other two, those of each in their order. -/
inductive Interleaving {α : Type} : List α → List α → List α → Prop
  | nil : Interleaving [] [] []
  | left {x : α} {xs ys zs : List α} (h : Interleaving xs ys zs) :
    Interleaving (x :: xs) ys (x :: zs)
  | right {y : α} {xs ys zs : List α} (h : Interleaving xs ys zs) :
    Interleaving xs (y :: ys) (y :: zs)

namespace Interleaving

variable {α β ε : Type} {xs ys zs : List α}

/-! ## Building interleavings -/

theorem left_only (xs : List α) : Interleaving xs [] xs := by
  induction xs with
  | nil => exact .nil
  | cons x rest ih => exact .left ih

theorem right_only (ys : List α) : Interleaving [] ys ys := by
  induction ys with
  | nil => exact .nil
  | cons y rest ih => exact .right ih

/-- What comes later is interleaved on its own. -/
theorem append {xs' ys' zs' : List α} (h : Interleaving xs ys zs) (h' : Interleaving xs' ys' zs') :
    Interleaving (xs ++ xs') (ys ++ ys') (zs ++ zs') := by
  induction h with
  | nil => exact h'
  | left _ ih => exact .left ih
  | right _ ih => exact .right ih

theorem of_append (xs ys : List α) : Interleaving xs ys (xs ++ ys) := by
  simpa using (left_only xs).append (right_only ys)

/-! ## Members -/

/-- An interleaving loses no member and has none twice. -/
theorem perm (h : Interleaving xs ys zs) : zs.Perm (xs ++ ys) := by
  induction h with
  | nil => exact List.Perm.refl []
  | left _ ih => exact ih.cons _
  | @right y xs ys zs _ ih => exact (ih.cons y).trans List.perm_middle.symm

theorem flatMap (f : α → List β) (h : Interleaving xs ys zs) :
    Interleaving (xs.flatMap f) (ys.flatMap f) (zs.flatMap f) := by
  induction h with
  | nil => exact .nil
  | @left x xs ys zs _ ih => exact (left_only (f x)).append ih
  | @right y xs ys zs _ ih => exact (right_only (f y)).append ih

theorem filterMap (f : α → Option β) (h : Interleaving xs ys zs) :
    Interleaving (xs.filterMap f) (ys.filterMap f) (zs.filterMap f) := by
  induction h with
  | nil => exact .nil
  | @left x xs ys zs _ ih =>
    rw [List.filterMap_cons, List.filterMap_cons]
    cases f x with
    | none => exact ih
    | some b => exact .left ih
  | @right y xs ys zs _ ih =>
    rw [List.filterMap_cons, List.filterMap_cons]
    cases f y with
    | none => exact ih
    | some b => exact .right ih

/-! ## Traversals that may fail -/

/-- A traversal that succeeds on an interleaving succeeds on both lists, and what it gives is
    interleaved alike. -/
theorem mapM_ok {f : α → Except ε β} {results : List β} (h : Interleaving xs ys zs)
    (hok : zs.mapM f = .ok results) :
    ∃ lefts rights, xs.mapM f = .ok lefts ∧ ys.mapM f = .ok rights
      ∧ Interleaving lefts rights results := by
  induction h generalizing results with
  | nil =>
    cases hok
    exact ⟨[], [], rfl, rfl, .nil⟩
  | @left x xs ys zs _ ih =>
    obtain ⟨b, bs, hx, hzs, rfl⟩ := mapM_cons_eq_ok hok
    obtain ⟨lefts, rights, hxs, hys, hmerged⟩ := ih hzs
    refine ⟨b :: lefts, rights, ?_, hys, .left hmerged⟩
    rw [List.mapM_cons, hx, hxs]
    rfl
  | @right y xs ys zs _ ih =>
    obtain ⟨b, bs, hy, hzs, rfl⟩ := mapM_cons_eq_ok hok
    obtain ⟨lefts, rights, hxs, hys, hmerged⟩ := ih hzs
    refine ⟨lefts, b :: rights, hxs, ?_, .right hmerged⟩
    rw [List.mapM_cons, hy, hys]
    rfl

/-- A traversal that succeeds on both lists succeeds on each of their interleavings. -/
theorem exists_mapM {f : α → Except ε β} {lefts rights : List β} (h : Interleaving xs ys zs)
    (hxs : xs.mapM f = .ok lefts) (hys : ys.mapM f = .ok rights) :
    ∃ results, zs.mapM f = .ok results := by
  refine exists_mapM_eq_ok (fun z hz => ?_)
  rcases List.mem_append.1 (h.perm.mem_iff.1 hz) with hz | hz
  · exact exists_of_mapM_eq_ok hxs z hz
  · exact exists_of_mapM_eq_ok hys z hz

end Interleaving

end CompileTrace
