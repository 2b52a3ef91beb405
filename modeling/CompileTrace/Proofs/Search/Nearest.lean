import CompileTrace.Search.ProjectRoot
import Mathlib.Data.List.Induction
import Mathlib.Data.List.Infix

set_option autoImplicit false

/-! # The nearest marked place

From a place upwards, the nearest one with a mark is the longest of the marked places that it stands
under (`IsNearest`), and looking at one place after the other finds it (`find?_above_eq_some_iff`).
Where there are marks of several kinds the strongest decides, however far it is (`IsRootBy`). There
is at most one root (`IsRootBy.unique`), and it is the same from every place on the way
to it (`IsRootBy.of_between`). -/

namespace CompileTrace

/-- The longest of the marked places at or above a place. -/
structure IsNearest (marked : Place → Prop) (start found : Place) : Prop where
  above : found <+: start
  isMarked : marked found
  nearest : ∀ other, other <+: start → marked other → other <+: found

/-- No marked place at or above a place. -/
def IsUnmarked (marked : Place → Prop) (start : Place) : Prop :=
  ∀ place, place <+: start → ¬marked place

variable {marked : Place → Prop} {start found between : Place} {name : Text}

theorem IsNearest.unique {other : Place} (h : IsNearest marked start found)
    (hother : IsNearest marked start other) : found = other :=
  antisymm (hother.nearest found h.above h.isMarked)
    (h.nearest other hother.above hother.isMarked)

theorem IsNearest.not_isUnmarked (h : IsNearest marked start found) : ¬IsUnmarked marked start :=
  fun hnone => hnone found h.above h.isMarked

/-- **What is nearest from a place is nearest from every place on the way to it.** -/
theorem IsNearest.of_between (h : IsNearest marked start found) (hfound : found <+: between)
    (hbetween : between <+: start) : IsNearest marked between found where
  above := hfound
  isMarked := h.isMarked
  nearest := fun other hother hmarked => h.nearest other (hother.trans hbetween) hmarked

theorem IsUnmarked.of_above (h : IsUnmarked marked start) (hbetween : between <+: start) :
    IsUnmarked marked between := fun place hplace => h place (hplace.trans hbetween)

/-! ## One step up -/

theorem isNearest_nil_iff : IsNearest marked [] found ↔ found = [] ∧ marked [] := by
  constructor
  · intro h
    have hnil := List.prefix_nil.1 h.above
    exact ⟨hnil, hnil ▸ h.isMarked⟩
  · rintro ⟨rfl, hmarked⟩
    exact ⟨List.prefix_rfl, hmarked, fun _ hother _ => hother⟩

/-- A marked place is nearest to itself. -/
theorem isNearest_of_marked (h : marked start) : IsNearest marked start found ↔ found = start := by
  have hself : IsNearest marked start start := ⟨List.prefix_rfl, h, fun _ hother _ => hother⟩
  constructor
  · exact fun hfound => hfound.unique hself
  · rintro rfl
    exact hself

/-- From a place without a mark the search goes on above it. -/
theorem isNearest_concat (h : ¬marked (start ++ [name])) :
    IsNearest marked (start ++ [name]) found ↔ IsNearest marked start found := by
  have habove : ∀ place, place <+: start ++ [name] → marked place → place <+: start := by
    intro place hplace hmarked
    rcases List.prefix_concat_iff.1 hplace with rfl | hplace
    · exact absurd hmarked h
    · exact hplace
  constructor
  · intro hfound
    exact hfound.of_between (habove found hfound.above hfound.isMarked) (List.prefix_append _ _)
  · intro hfound
    exact ⟨hfound.above.trans (List.prefix_append _ _), hfound.isMarked,
      fun other hother hmarked => hfound.nearest other (habove other hother hmarked) hmarked⟩

/-! ## Marks of several kinds -/

/-- The nearest place with a mark of the strongest kind that there is, and the place itself without
    any mark; the kinds stand from the strongest to the weakest. -/
def IsRootBy : List (Place → Prop) → Place → Place → Prop
  | [], start, root => root = start
  | marked :: weaker, start, root =>
    IsNearest marked start root ∨ (IsUnmarked marked start ∧ IsRootBy weaker start root)

variable {kinds : List (Place → Prop)} {root : Place}

theorem IsRootBy.isPrefix (h : IsRootBy kinds start root) : root <+: start := by
  induction kinds with
  | nil => exact h ▸ List.prefix_rfl
  | cons marked weaker ih => exact h.elim IsNearest.above (fun h => ih h.2)

theorem IsRootBy.unique {other : Place} (h : IsRootBy kinds start root)
    (hother : IsRootBy kinds start other) : root = other := by
  induction kinds with
  | nil => exact h.trans hother.symm
  | cons marked weaker ih =>
    rcases h with h | ⟨hnone, h⟩
    · exact h.unique (hother.resolve_right (fun hother => h.not_isUnmarked hother.1))
    · exact ih h (hother.resolve_left (fun hother => hother.not_isUnmarked hnone)).2

/-- **The root of a place is the root of every place on the way to it.** -/
theorem IsRootBy.of_between (h : IsRootBy kinds start root) (hroot : root <+: between)
    (hbetween : between <+: start) : IsRootBy kinds between root := by
  induction kinds with
  | nil => exact antisymm hroot (h ▸ hbetween)
  | cons marked weaker ih =>
    exact h.imp (fun h => h.of_between hroot hbetween)
      (fun h => ⟨h.1.of_above hbetween, ih h.2⟩)

/-! ## Looking upwards -/

/-- A place and the places above it, from the nearest up to the root. -/
def above (place : Place) : List Place :=
  (List.range (place.length + 1)).map (fun n => place.take (place.length - n))

theorem above_concat (place : Place) (name : Text) :
    above (place ++ [name]) = (place ++ [name]) :: above place := by
  rw [above, List.length_append, List.length_singleton, List.range_succ_eq_map, List.map_cons,
    List.map_map, Nat.sub_zero, List.take_of_length_le (by simp), above]
  refine congrArg _ (List.map_congr_left (fun n _ => ?_))
  rw [Function.comp_apply, Nat.succ_eq_add_one, Nat.add_sub_add_right,
    List.take_append_of_le_length (Nat.sub_le _ _)]

theorem mem_above {place other : Place} : other ∈ above place ↔ other <+: place := by
  induction place using List.reverseRecOn with
  | nil => simp [above]
  | append_singleton init last ih =>
    rw [above_concat, List.mem_cons, ih, List.prefix_concat_iff]

/-- **Looking at one place after the other finds the nearest one.** -/
theorem find?_above_eq_some_iff {mark : Place → Bool} :
    (above start).find? mark = some found
      ↔ IsNearest (fun place => mark place = true) start found := by
  induction start using List.reverseRecOn with
  | nil =>
    rw [isNearest_nil_iff]
    by_cases h : mark [] = true
    · simp [above, h, eq_comm]
    · simp [above, h]
  | append_singleton init last ih =>
    rw [above_concat]
    by_cases h : mark (init ++ [last]) = true
    · rw [List.find?_cons_of_pos h, isNearest_of_marked h, Option.some.injEq, eq_comm]
    · rw [List.find?_cons_of_neg h, isNearest_concat h, ih]

theorem find?_above_eq_none_iff {mark : Place → Bool} :
    (above start).find? mark = none ↔ IsUnmarked (fun place => mark place = true) start := by
  rw [List.find?_eq_none]
  exact forall_congr' (fun place => by rw [mem_above])

/-- Paths are looked at like places if their marks can be read. -/
theorem firstMarked?_map {mark : Text → Except FileError Bool} {holds : Place → Bool}
    {path : Place → Text} {places : List Place}
    (h : ∀ place ∈ places, mark (path place) = .ok (holds place)) :
    firstMarked? mark (places.map path) = .ok ((places.find? holds).map path) := by
  induction places with
  | nil => rfl
  | cons place rest ih =>
    have hplace := h place List.mem_cons_self
    have hrest := ih (fun p hp => h p (List.mem_cons_of_mem _ hp))
    rw [List.map_cons, firstMarked?, hplace]
    cases hmarked : holds place with
    | true => simp [hmarked]
    | false => simpa [hmarked] using hrest

end CompileTrace
