import Mathlib.Data.List.Basic
import Mathlib.Data.List.Induction
import Mathlib.Data.List.Nodup

set_option autoImplicit false

/-! # First occurrences

Erasing the duplicates of a list keeps each item once, where it stands first: one more item comes
at the end, or nowhere if it was there before (`eraseDups_concat`), so that what is left stands in
the order of first occurrence (`pairwise_idxOf_eraseDups`). More generally the first item of each
kind can be kept, where a mark tells the kinds apart (`keepFirstBy`). -/

namespace CompileTrace

/-! ## Without duplicates -/

section

variable {α : Type} [BEq α] [LawfulBEq α]

/-- One more item comes at the end, or nowhere if it was there before. -/
theorem eraseDups_concat (items : List α) (x : α) :
    (items ++ [x]).eraseDups
      = if x ∈ items.eraseDups then items.eraseDups else items.eraseDups ++ [x] := by
  rw [List.eraseDups_append]
  by_cases h : x ∈ items
  · simp [List.removeAll, h]
  · simp [List.removeAll, h, List.eraseDups_cons]

/-- **What is left without duplicates stands in the order of first occurrence.** -/
theorem pairwise_idxOf_eraseDups (items : List α) :
    items.eraseDups.Pairwise (fun x y => items.idxOf x < items.idxOf y) := by
  induction items using List.reverseRecOn with
  | nil => simp
  | append_singleton init last ih =>
    -- what stood in the list before stays where it stood
    have hplace : ∀ x ∈ init.eraseDups, (init ++ [last]).idxOf x = init.idxOf x :=
      fun x hx => List.idxOf_append_of_mem (List.mem_eraseDups.1 hx)
    have hbefore : init.eraseDups.Pairwise
        (fun x y => (init ++ [last]).idxOf x < (init ++ [last]).idxOf y) := by
      refine ih.imp_of_mem (fun {x y} hx hy hlt => ?_)
      rwa [hplace x hx, hplace y hy]
    rw [eraseDups_concat]
    split
    · exact hbefore
    · next hnew =>
      refine List.pairwise_append.2 ⟨hbefore, List.pairwise_singleton _ _, ?_⟩
      intro x hx y hy
      rw [List.mem_singleton.1 hy, hplace x hx,
        List.idxOf_append_of_notMem (fun hlast => hnew (List.mem_eraseDups.2 hlast))]
      calc init.idxOf x
        _ < init.length := List.idxOf_lt_length_iff.2 (List.mem_eraseDups.1 hx)
        _ ≤ init.length + [last].idxOf last := Nat.le_add_right _ _

theorem nodup_eraseDups (items : List α) : items.eraseDups.Nodup :=
  (pairwise_idxOf_eraseDups items).imp (fun hlt heq => absurd hlt (by simp [heq]))

end

/-! ## Keeping the first of a kind -/

section

variable {α α' β γ : Type} [DecidableEq β] [DecidableEq γ]

/-- The kept items with one more, unless its mark is there already. -/
def keepNew (mark : α → β) (kept : List α) (x : α) : List α :=
  if mark x ∈ kept.map mark then kept else kept ++ [x]

/-- The items without those whose mark was there before. -/
def keepFirstBy (mark : α → β) (items : List α) : List α := items.foldl (keepNew mark) []

theorem keepFirstBy_concat (mark : α → β) (items : List α) (x : α) :
    keepFirstBy mark (items ++ [x]) = keepNew mark (keepFirstBy mark items) x := by
  rw [keepFirstBy, List.foldl_append]
  rfl

theorem nodup_keepNew (mark : α → β) (kept : List α) (x : α) (h : (kept.map mark).Nodup) :
    ((keepNew mark kept x).map mark).Nodup := by
  unfold keepNew
  split
  · exact h
  · next hnew =>
    rw [List.map_append, List.map_singleton, List.nodup_append]
    refine ⟨h, by simp, ?_⟩
    rintro _ hold _ hx rfl
    exact hnew (List.mem_singleton.1 hx ▸ hold)

/-- The kept items have distinct marks. -/
theorem nodup_keepFirstBy (mark : α → β) (items : List α) :
    ((keepFirstBy mark items).map mark).Nodup := by
  induction items using List.reverseRecOn with
  | nil => exact List.nodup_nil
  | append_singleton init last ih =>
    rw [keepFirstBy_concat]
    exact nodup_keepNew mark _ last ih

theorem mem_keepNew (mark : α → β) (kept : List α) (x : α) :
    ∀ y ∈ keepNew mark kept x, y = x ∨ y ∈ kept := by
  intro y hy
  unfold keepNew at hy
  split at hy
  · exact Or.inr hy
  · exact (List.mem_append.1 hy).symm.imp_left List.mem_singleton.1

theorem map_keepNew (f : α → β) (g : α' → γ) (change : α → α') (kept : List α) (x : α)
    (h : ∀ y ∈ kept, g (change y) = g (change x) ↔ f y = f x) :
    (keepNew f kept x).map change = keepNew g (kept.map change) (change x) := by
  have hmem : g (change x) ∈ (kept.map change).map g ↔ f x ∈ kept.map f := by
    simp only [List.mem_map, exists_exists_and_eq_and]
    constructor
    · rintro ⟨y, hy, hsame⟩
      exact ⟨y, hy, (h y hy).1 hsame⟩
    · rintro ⟨y, hy, hsame⟩
      exact ⟨y, hy, (h y hy).2 hsame⟩
  unfold keepNew
  by_cases hseen : f x ∈ kept.map f
  · rw [if_pos hseen, if_pos (hmem.2 hseen)]
  · rw [if_neg hseen, if_neg (fun hg => hseen (hmem.1 hg)), List.map_append, List.map_singleton]

/-- Items may be changed before or after the first ones are kept, if the marks tell the same items
    apart before and after. -/
theorem map_keepFirstBy (f : α → β) (g : α' → γ) (change : α → α') (items : List α)
    (h : ∀ x ∈ items, ∀ y ∈ items, g (change x) = g (change y) ↔ f x = f y) :
    (keepFirstBy f items).map change = keepFirstBy g (items.map change) := by
  -- what is kept are items too, so that the marks tell it apart from what is to come
  have hfold : ∀ todo kept : List α, (∀ x ∈ todo, x ∈ items) → (∀ x ∈ kept, x ∈ items) →
      (todo.foldl (keepNew f) kept).map change
        = (todo.map change).foldl (keepNew g) (kept.map change) := by
    intro todo
    induction todo with
    | nil => exact fun _ _ _ => rfl
    | cons x rest ih =>
      intro kept htodo hkept
      have hx := htodo x List.mem_cons_self
      have hrest := fun y hy => htodo y (List.mem_cons_of_mem _ hy)
      have hmore : ∀ y ∈ keepNew f kept x, y ∈ items := by
        intro y hy
        rcases mem_keepNew f kept x y hy with rfl | hy
        · exact hx
        · exact hkept y hy
      rw [List.foldl_cons, List.map_cons, List.foldl_cons, ih _ hrest hmore,
        map_keepNew f g change kept x (fun y hy => h y (hkept y hy) x hx)]
  exact hfold items [] (fun _ hx => hx) (by simp)

theorem mem_of_mem_keepFirstBy (mark : α → β) (items : List α) :
    ∀ y ∈ keepFirstBy mark items, y ∈ items := by
  induction items using List.reverseRecOn with
  | nil => simp [keepFirstBy]
  | append_singleton init last ih =>
    intro y hy
    rw [keepFirstBy_concat] at hy
    rcases mem_keepNew mark _ last y hy with rfl | hkept
    · simp
    · exact List.mem_append_left _ (ih y hkept)

/-- Among items of distinct marks, a mark finds the one that it belongs to. -/
theorem find?_mark_eq_some_iff {mark : α → β} {items : List α} (h : (items.map mark).Nodup) {m : β}
    {x : α} : items.find? (fun y => mark y = m) = some x ↔ x ∈ items ∧ mark x = m := by
  constructor
  · intro hfound
    exact ⟨List.mem_of_find?_eq_some hfound, by simpa using List.find?_some hfound⟩
  · rintro ⟨hx, rfl⟩
    cases hfound : items.find? (fun y => mark y = mark x) with
    | none => simpa using List.find?_eq_none.1 hfound x hx
    | some other =>
      have hother := List.mem_of_find?_eq_some hfound
      have hsame : mark other = mark x := by simpa using List.find?_some hfound
      rw [List.inj_on_of_nodup_map h hother hx hsame]

/-- Items that are their own marks are kept where they stand first. -/
theorem keepFirstBy_id [BEq β] [LawfulBEq β] (items : List β) :
    keepFirstBy id items = items.eraseDups := by
  induction items using List.reverseRecOn with
  | nil => rfl
  | append_singleton init last ih =>
    rw [keepFirstBy_concat, ih, eraseDups_concat, keepNew, List.map_id, id]
    by_cases hold : last ∈ init.eraseDups
    · rw [if_pos hold, if_pos hold]
    · rw [if_neg hold, if_neg hold]

end

end CompileTrace
