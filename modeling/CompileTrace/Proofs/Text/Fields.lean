import CompileTrace.Text.Basic
import Mathlib.Data.List.Basic
import Mathlib.Data.List.TakeDrop
import Mathlib.Data.List.TakeWhile

set_option autoImplicit false

/-! # Fields and joins

Cutting a text into fields and joining texts with a separator undo each other as long as no part
holds the separator (`fieldsBy_join`). Cutting once, at the first separator, is told by what stands
before it (`cutAt?_append`). -/

namespace CompileTrace

/-! ## Fields of a list -/

section

variable {α : Type} (sep : α → Bool)

theorem fields_cons_of_sep (x : α) (items : List α) (hx : sep x = true) :
    fields sep (x :: items) = [] :: fields sep items := by
  simp [fields, hx]

theorem fields_ne_nil (items : List α) : fields sep items ≠ [] := by
  cases items with
  | nil => simp [fields]
  | cons x rest =>
    simp only [fields, List.foldr_cons]
    split
    · simp
    · split <;> simp

theorem fields_cons_of_not_sep (x : α) (items field : List α) (others : List (List α))
    (hx : sep x = false) (h : fields sep items = field :: others) :
    fields sep (x :: items) = (x :: field) :: others := by
  unfold fields at h ⊢
  rw [List.foldr_cons, h, hx]
  rfl

/-- A separator parts the fields before it from those after it. -/
theorem fields_append_sep (before after : List α) (x : α) (hx : sep x = true) :
    fields sep (before ++ x :: after) = fields sep before ++ fields sep after := by
  induction before with
  | nil => exact fields_cons_of_sep sep x after hx
  | cons y rest ih =>
    rw [List.cons_append]
    cases hy : sep y with
    | true =>
      rw [fields_cons_of_sep sep y _ hy, fields_cons_of_sep sep y _ hy, ih, List.cons_append]
    | false =>
      obtain ⟨field, others, hfields⟩ := List.exists_cons_of_ne_nil (fields_ne_nil sep rest)
      have hall : fields sep (rest ++ x :: after) = field :: (others ++ fields sep after) := by
        rw [ih, hfields, List.cons_append]
      rw [fields_cons_of_not_sep sep y rest field others hy hfields,
        fields_cons_of_not_sep sep y _ field _ hy hall, List.cons_append]

/-- A list without separators is its only field. -/
theorem fields_eq_singleton (items : List α) (h : ∀ x ∈ items, sep x = false) :
    fields sep items = [items] := by
  induction items with
  | nil => rfl
  | cons x rest ih =>
    exact fields_cons_of_not_sep sep x rest rest [] (h x List.mem_cons_self)
      (ih (fun y hy => h y (List.mem_cons_of_mem _ hy)))

/-- No field holds a separator. -/
theorem sep_eq_false_of_mem_fields (items : List α) :
    ∀ field ∈ fields sep items, ∀ x ∈ field, sep x = false := by
  induction items with
  | nil =>
    intro field hfield x hx
    rw [show fields sep ([] : List α) = [[]] from rfl, List.mem_singleton] at hfield
    subst hfield
    simp at hx
  | cons y rest ih =>
    intro field hfield x hx
    cases hy : sep y with
    | true =>
      rw [fields_cons_of_sep sep y rest hy] at hfield
      rcases List.mem_cons.1 hfield with rfl | hfield
      · simp at hx
      · exact ih field hfield x hx
    | false =>
      obtain ⟨first, others, hfields⟩ := List.exists_cons_of_ne_nil (fields_ne_nil sep rest)
      rw [fields_cons_of_not_sep sep y rest first others hy hfields] at hfield
      rcases List.mem_cons.1 hfield with rfl | hfield
      · rcases List.mem_cons.1 hx with rfl | hx
        · exact hy
        · exact ih first (by simp [hfields]) x hx
      · exact ih field (by simp [hfields, hfield]) x hx

end

/-! ## Spans -/

section

variable {α : Type} {p : α → Bool}

/-- What follows the items that `p` holds of begins with one that it does not hold of. -/
theorem span_append {body rest : List α} (inside : ∀ x ∈ body, p x = true)
    (boundary : ∀ x ∈ rest.head?, p x = false) : (body ++ rest).span p = (body, rest) := by
  rw [List.span_eq_takeWhile_dropWhile, List.takeWhile_append_of_pos inside,
    List.dropWhile_append_of_pos inside]
  cases rest with
  | nil => simp
  | cons x rest' =>
    have hx := boundary x rfl
    rw [List.takeWhile_cons_of_neg (by simp [hx]), List.dropWhile_cons_of_neg (by simp [hx]),
      List.append_nil]

theorem append_of_span {items body rest : List α} (h : items.span p = (body, rest)) :
    items = body ++ rest ∧ ∀ x ∈ body, p x = true := by
  rw [List.span_eq_takeWhile_dropWhile] at h
  cases h
  exact ⟨List.takeWhile_append_dropWhile.symm, fun _ hx => List.mem_takeWhile_imp hx⟩

end

namespace Text

/-! ## Joins -/

theorem join_singleton (sep part : Text) : join sep [part] = part :=
  List.intercalate_singleton

theorem join_cons_cons (sep part next : Text) (rest : List Text) :
    join sep (part :: next :: rest) = part ++ sep ++ join sep (next :: rest) :=
  List.intercalate_cons_cons

/-- A join is its first part and then the others, each after a separator. -/
theorem join_cons (sep part : Text) (rest : List Text) :
    join sep (part :: rest) = part ++ rest.flatMap (sep ++ ·) := by
  induction rest generalizing part with
  | nil => simp [join_singleton]
  | cons next rest' ih =>
    rw [join_cons_cons, ih next, List.flatMap_cons, List.append_assoc, List.append_assoc]

theorem join_concat (sep part : Text) {parts : List Text} (hne : parts ≠ []) :
    join sep (parts ++ [part]) = join sep parts ++ (sep ++ part) := by
  obtain ⟨first, rest, rfl⟩ := List.exists_cons_of_ne_nil hne
  rw [List.cons_append, join_cons, join_cons, List.flatMap_append, List.flatMap_singleton,
    List.append_assoc]

/-- Joined parts are the fields again if none of them holds the separator. -/
theorem fieldsBy_join (c : CodePoint) (parts : List Text) (hne : parts ≠ [])
    (h : ∀ part ∈ parts, c ∉ part) : (join [c] parts).fieldsBy (· == c) = parts := by
  have hfield : ∀ part ∈ parts, fields (· == c) part = [part] := by
    intro part hpart
    refine fields_eq_singleton _ part (fun x hx => beq_eq_false_iff_ne.2 ?_)
    rintro rfl
    exact h part hpart hx
  clear h
  induction parts with
  | nil => exact absurd rfl hne
  | cons part rest ih =>
    have hpart := hfield part List.mem_cons_self
    cases rest with
    | nil => rw [join_singleton, fieldsBy, hpart]
    | cons next rest' =>
      have hrest := ih (by simp) (fun p hp => hfield p (List.mem_cons_of_mem _ hp))
      rw [fieldsBy] at hrest
      rw [join_cons_cons, fieldsBy, List.append_assoc, List.singleton_append,
        fields_append_sep _ _ _ _ (by simp), hpart, hrest, List.singleton_append]

/-! ## Cutting once -/

theorem cutAt?_eq_none (c : CodePoint) (s : Text) (h : c ∉ s) : cutAt? c s = none := by
  have hspan : s.dropWhile (· ≠ c) = [] := by
    rw [List.dropWhile_eq_nil_iff]
    intro x hx
    have hne : x ≠ c := by
      rintro rfl
      exact h hx
    simpa using hne
  rw [cutAt?, List.span_eq_takeWhile_dropWhile, hspan]

theorem cutAt?_append (c : CodePoint) (before after : Text) (h : c ∉ before) :
    cutAt? c (before ++ c :: after) = some (before, after) := by
  have hbefore : ∀ x ∈ before, decide (x ≠ c) = true := by
    intro x hx
    have hne : x ≠ c := by
      rintro rfl
      exact h hx
    simpa using hne
  rw [cutAt?, List.span_eq_takeWhile_dropWhile, List.takeWhile_append_of_pos hbefore,
    List.dropWhile_append_of_pos hbefore]
  simp

/-- A cut leaves out the first separator and nothing else. -/
theorem eq_append_of_cutAt? {c : CodePoint} {s before after : Text}
    (h : cutAt? c s = some (before, after)) : s = before ++ c :: after ∧ c ∉ before := by
  by_cases hc : c ∈ s
  · obtain ⟨first, rest, rfl, hfirst⟩ := List.eq_append_cons_of_mem hc
    rw [cutAt?_append c first rest hfirst] at h
    cases h
    exact ⟨rfl, hfirst⟩
  · rw [cutAt?_eq_none c s hc] at h
    cases h

/-- A beginning is dropped from a text that has it. -/
theorem dropStart?_eq_some_iff {s start rest : Text} :
    s.dropStart? start = some rest ↔ s = start ++ rest := by
  rw [dropStart?, List.isPrefixOf?_eq_some_iff_append_eq]
  exact eq_comm

theorem dropStart?_append (start rest : Text) : (start ++ rest).dropStart? start = some rest :=
  dropStart?_eq_some_iff.2 rfl

end Text

end CompileTrace
