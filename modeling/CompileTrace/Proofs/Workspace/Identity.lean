import CompileTrace.Proofs.Number.Digits
import CompileTrace.Proofs.Occurrences
import CompileTrace.Proofs.Text.Fields
import CompileTrace.Workspace.Basic
import Mathlib.Data.List.SplitLengths

set_option autoImplicit false

/-! # Identities as text

The hyphens in the text of an identity stand between its digits, so that leaving them out gives the
digits back, and identities are told apart by their texts (`ProjectId.text_injective`). A workspace
is therefore searched by text as it is by identity (`Workspace.find?_text`). The text of an identity
of 128 bits is its canonical one: no other text is made of such groups of small digits and writes
its number (`ProjectId.isCanonical_iff`). -/

namespace CompileTrace

namespace ProjectId

/-- Without the hyphens, there are the digits again. -/
theorem filter_hyphenate (widths : List Nat) (digits : Text) (h : char '-' ∉ digits) :
    (hyphenate widths digits).filter (· ≠ char '-') = digits := by
  have hkept : ∀ part : Text, (∀ c ∈ part, c ∈ digits) → part.filter (· ≠ char '-') = part := by
    intro part hpart
    refine List.filter_eq_self.2 (fun c hc => decide_eq_true ?_)
    rintro rfl
    exact h (hpart _ hc)
  -- each group is kept as it is, and the hyphen after it is left out
  fun_induction hyphenate widths digits with
  | case1 digits width w widths ih =>
    have hrest := ih (fun hmem => h (List.mem_of_mem_drop hmem))
      (fun part hpart => hkept part (fun c hc => List.mem_of_mem_drop (hpart c hc)))
    rw [List.filter_append, hkept _ (fun c hc => List.mem_of_mem_take hc),
      List.filter_cons_of_neg (by simp), hrest, List.take_append_drop]
  | case2 widths digits hshort => exact hkept digits (fun _ hc => hc)

/-- Identities are told apart by their texts. -/
theorem text_injective {a b : ProjectId} (h : a.text = b.text) : a = b := by
  have hdigits : ∀ id : ProjectId, id.text.filter (· ≠ char '-') = hexDigits 32 id.number := by
    intro id
    refine filter_hyphenate groupWidths _ (fun hmem => ?_)
    have hhex := Text.isHexDigit_of_mem_hexDigits hmem
    revert hhex
    decide
  have hnumbers := congrArg (List.filter (· ≠ char '-')) h
  rw [hdigits, hdigits] at hnumbers
  exact congrArg ProjectId.mk (Text.hexDigits_injective 32 hnumbers)

/-! ## The canonical text -/

/-- Whether a text is the canonical one of an identity: groups of eight, three times four and
    twelve hexadecimal digits without capital letters, with a hyphen between each two, that write
    its number. -/
def IsCanonical (id : ProjectId) (s : Text) : Prop :=
  ∃ groups : List Text, groups.map List.length = [8, 4, 4, 4, 12]
    ∧ (∀ group ∈ groups, ∀ c ∈ group, Text.isSmallHexDigit c = true)
    ∧ Text.hexNumber? groups.flatten = some id.number ∧ s = Text.join [char '-'] groups

/-- Groups with hyphens between them are cut out of their digits again by their lengths. -/
theorem hyphenate_flatten {groups : List Text} (h : groups ≠ []) :
    hyphenate (groups.map List.length) groups.flatten = Text.join [char '-'] groups := by
  induction groups with
  | nil => exact absurd rfl h
  | cons group rest ih =>
    cases rest with
    | nil => simp [hyphenate, Text.join_singleton]
    | cons next rest =>
      have hrest := ih (List.cons_ne_nil _ _)
      rw [List.map_cons, List.map_cons, List.flatten_cons, hyphenate, List.take_left,
        List.drop_left, ← List.map_cons, hrest, Text.join_cons_cons]
      simp

theorem hexNumber?_eq_foldl {digits : Text} (h : digits ≠ []) :
    Text.hexNumber? digits = digits.foldl (readDigit 16 hexValue?) (some 0) := by
  rw [Text.hexNumber?, if_neg (by simpa using h)]
  rfl

theorem length_digits {id : ProjectId} (h : id.number < 2 ^ 128) :
    (hexDigits 32 id.number).length = 32 := Text.length_hexDigits (by decide) h

/-- Only one text is canonical for an identity: its digits are those of its number. -/
theorem IsCanonical.eq_text {id : ProjectId} {s : Text} (hs : id.IsCanonical s)
    (h : id.number < 2 ^ 128) : s = id.text := by
  obtain ⟨groups, hwidths, hsmall, hnumber, rfl⟩ := hs
  have htotal : groups.flatten.length = 32 := by
    rw [List.length_flatten, hwidths]
    rfl
  have hne : groups.flatten ≠ [] := by
    intro hnil
    rw [hnil] at htotal
    cases htotal
  rw [hexNumber?_eq_foldl hne] at hnumber
  have hsmallAll : ∀ c ∈ groups.flatten, Text.isSmallHexDigit c = true := by
    intro c hc
    obtain ⟨group, hgroup, hc⟩ := List.mem_flatten.1 hc
    exact hsmall group hgroup c hc
  have hdigits : groups.flatten = hexDigits 32 id.number :=
    Text.eq_of_foldl_readDigit (htotal.trans (length_digits h).symm) hsmallAll
      (fun _ hc => Text.isSmallHexDigit_of_mem_hexDigits hc) hnumber
      (Text.foldl_readDigit_hexDigits 32 id.number)
  have hgroups : groups ≠ [] := by
    rintro rfl
    exact hne rfl
  rw [← hyphenate_flatten hgroups, hwidths, hdigits]
  rfl

/-- The text of an identity is canonical. -/
theorem isCanonical_text {id : ProjectId} (h : id.number < 2 ^ 128) : id.IsCanonical id.text := by
  have hlength := length_digits h
  have hne : hexDigits 32 id.number ≠ [] := by
    intro hnil
    rw [hnil] at hlength
    cases hlength
  have hflatten : (groupWidths.splitLengths (hexDigits 32 id.number)).flatten
      = hexDigits 32 id.number := List.flatten_splitLengths _ _ (by rw [hlength]; decide)
  have hwidths := List.map_splitLengths_length (hexDigits 32 id.number) groupWidths
    (by rw [hlength]; decide)
  have hgroups : groupWidths.splitLengths (hexDigits 32 id.number) ≠ [] := by
    intro hnil
    rw [hnil] at hwidths
    cases hwidths
  refine ⟨groupWidths.splitLengths (hexDigits 32 id.number), hwidths, ?_, ?_, ?_⟩
  · intro group hgroup c hc
    have hdigit : c ∈ hexDigits 32 id.number := by
      rw [← hflatten]
      exact List.mem_flatten_of_mem hgroup hc
    exact Text.isSmallHexDigit_of_mem_hexDigits hdigit
  · rw [hflatten, hexNumber?_eq_foldl hne, Text.foldl_readDigit_hexDigits]
  · rw [← hyphenate_flatten hgroups, hwidths, hflatten]
    rfl

/-- **The text of an identity of 128 bits is its canonical text, and it has no other.** -/
theorem isCanonical_iff {id : ProjectId} (h : id.number < 2 ^ 128) {s : Text} :
    id.IsCanonical s ↔ s = id.text := by
  constructor
  · exact fun hs => hs.eq_text h
  · rintro rfl
    exact isCanonical_text h

end ProjectId

namespace Workspace

theorem get?_eq_some_iff (w : Workspace) (id : ProjectId) (project : Project) :
    w.get? id = some project ↔ project ∈ w.projects ∧ project.id = id :=
  find?_mark_eq_some_iff w.distinct

theorem find?_eq_some_iff (w : Workspace) (idText : Text) (project : Project) :
    w.find? idText = some project ↔ project ∈ w.projects ∧ project.id.text = idText := by
  have htexts : (w.projects.map (fun p => p.id.text)).Nodup := by
    have := w.distinct.map (fun _ _ h => ProjectId.text_injective h)
    rwa [List.map_map] at this
  exact find?_mark_eq_some_iff htexts

/-- Other texts find nothing. -/
theorem find?_eq_none {w : Workspace} {idText : Text}
    (h : ∀ project ∈ w.projects, project.id.text ≠ idText) : w.find? idText = none :=
  List.find?_eq_none.2 (fun project hproject => by simpa using h project hproject)

end Workspace

end CompileTrace
