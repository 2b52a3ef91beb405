import CompileTrace.Proofs.Occurrences
import CompileTrace.Table

set_option autoImplicit false

/-! # Tables made of pairs

A table that is made of pairs has each name once, where it stood first (`names_ofList`), and with
the value that was given for it last (`get?_ofList`). As its names are distinct, a table is told by
them and by what it answers for each (`get?_of_mem`). -/

namespace CompileTrace.Table

variable {α : Type}

/-! ## Lookups -/

theorem get?_append (first second : Table α) (name : Text) :
    get? (first ++ second) name = (get? first name).or (get? second name) := by
  induction first with
  | nil => rfl
  | cons pair rest ih =>
    obtain ⟨n, value⟩ := pair
    by_cases h : n = name
    · simp [get?, h]
    · simpa [get?, h] using ih

theorem isSome_get?_iff (table : Table α) (name : Text) :
    (get? table name).isSome = true ↔ name ∈ table.map Prod.fst := by
  induction table with
  | nil => simp [get?]
  | cons pair rest ih =>
    obtain ⟨n, value⟩ := pair
    by_cases h : n = name
    · simp [get?, h]
    · simp [get?, h, ih, Ne.symm h]

/-- A table whose names are distinct answers with what it holds. -/
theorem get?_of_mem {table : Table α} (h : (table.map Prod.fst).Nodup) :
    ∀ pair ∈ table, get? table pair.1 = some pair.2 := by
  induction table with
  | nil => simp
  | cons first rest ih =>
    rw [List.map_cons, List.nodup_cons] at h
    intro pair hpair
    rcases List.mem_cons.1 hpair with rfl | hpair
    · simp [get?]
    · have hne : first.1 ≠ pair.1 := fun heq => h.1 (heq ▸ List.mem_map_of_mem hpair)
      rw [get?, if_neg hne, ih h.2 pair hpair]

/-! ## Tables made of pairs -/

theorem putAll_append (table : Table α) (pairs more : List (Text × α)) :
    putAll table (pairs ++ more) = putAll (putAll table pairs) more := by
  rw [putAll, List.foldl_append]
  rfl

theorem ofList_concat (pairs : List (Text × α)) (pair : Text × α) :
    ofList (pairs ++ [pair]) = put (ofList pairs) pair.1 pair.2 :=
  putAll_append [] pairs [pair]

/-- The names are those of the pairs, in the order in which they come first. -/
theorem names_ofList (pairs : List (Text × α)) :
    (ofList pairs).map Prod.fst = (pairs.map Prod.fst).eraseDups := by
  induction pairs using List.reverseRecOn with
  | nil => simp [ofList, putAll]
  | append_singleton init pair ih =>
    rw [ofList_concat, names_put, ih, List.map_append, List.map_singleton, eraseDups_concat]

/-- Names are not put twice. -/
theorem nodup_names_ofList (pairs : List (Text × α)) :
    ((ofList pairs).map Prod.fst).Nodup := by
  rw [names_ofList]
  exact nodup_eraseDups _

/-- The value of a name is the last that was given for it. -/
theorem get?_ofList (pairs : List (Text × α)) (name : Text) :
    get? (ofList pairs) name = get? pairs.reverse name := by
  induction pairs using List.reverseRecOn with
  | nil => rfl
  | append_singleton init pair ih =>
    rw [ofList_concat, get?_put, ih, List.reverse_concat]
    rfl

end CompileTrace.Table
