import CompileTrace.Text.Blank
import CompileTrace.Text.Word
import Mathlib.Data.List.TakeWhile

set_option autoImplicit false

/-! # Trimming

A text is trimmed if no blank stands at its ends (`trim_eq_self_iff`), and trimming makes it so
(`trim_trim`). No character of a word is a blank (`isBlank_eq_false_of_isWord`), so that blanks and
words are told apart by their first character. -/

namespace CompileTrace

/-! ## Blanks and words -/

/-- Whether no code point is in ranges of both lists. -/
def disjointRanges (ranges others : List CodeRange) : Bool :=
  ranges.all (fun r => others.all (fun o => decide (r.2 < o.1) || decide (o.2 < r.1)))

theorem inRanges_eq_false_of_disjoint {ranges others : List CodeRange}
    (h : disjointRanges ranges others = true) {c : CodePoint} (hc : inRanges others c = true) :
    inRanges ranges c = false := by
  rw [Bool.eq_false_iff]
  intro hboth
  obtain ⟨r, hr, hlow, hhigh⟩ := (inRanges_iff ranges c).1 hboth
  obtain ⟨o, ho, hlow', hhigh'⟩ := (inRanges_iff others c).1 hc
  have hapart := List.all_eq_true.1 (List.all_eq_true.1 h r hr) o ho
  simp only [Bool.or_eq_true, decide_eq_true_eq] at hapart
  omega

theorem isBlank_eq_false_of_isWord {c : CodePoint} (h : isWord c = true) : isBlank c = false :=
  inRanges_eq_false_of_disjoint (by decide +kernel) h

theorem isLineBoundary_eq_false_of_isBlank_eq_false {c : CodePoint} (h : isBlank c = false) :
    isLineBoundary c = false := by
  rw [Bool.eq_false_iff] at h ⊢
  exact fun hboundary => h (isBlank_of_isLineBoundary c hboundary)

namespace Text

/-! ## Blanks at the ends -/

/-- A text keeps its start if it does not begin with what is dropped there. -/
theorem dropWhile_eq_self {p : CodePoint → Bool} {s : Text} (h : ∀ c ∈ s.head?, p c = false) :
    s.dropWhile p = s := by
  cases s with
  | nil => rfl
  | cons c rest => rw [List.dropWhile_cons_of_neg (by simp [h c (by simp)])]

/-- A text keeps its end if it does not end in what is dropped there. -/
theorem dropEndWhile_eq_self {p : CodePoint → Bool} {s : Text} (h : ∀ c ∈ s.getLast?, p c = false) :
    s.dropEndWhile p = s := by
  rw [← List.head?_reverse] at h
  rw [dropEndWhile, dropWhile_eq_self h, List.reverse_reverse]

theorem head?_dropWhile_isBlank (s : Text) :
    ∀ c ∈ (s.dropWhile isBlank).head?, isBlank c = false := by
  intro c hc
  have hnot := List.head?_dropWhile_not isBlank s
  rw [Option.mem_def.1 hc] at hnot
  simpa using hnot

theorem trimEnd_eq_self {s : Text} (h : ∀ c ∈ s.getLast?, isBlank c = false) : s.trimEnd = s :=
  dropEndWhile_eq_self h

theorem getLast?_trimEnd (s : Text) : ∀ c ∈ s.trimEnd.getLast?, isBlank c = false := by
  rw [trimEnd, dropEndWhile, List.getLast?_reverse]
  exact head?_dropWhile_isBlank s.reverse

/-- What is left after trimming the end is the start of the text. -/
theorem trimEnd_isPrefix (s : Text) : s.trimEnd <+: s := by
  have hsuffix := List.dropWhile_suffix (l := s.reverse) isBlank
  rw [← List.reverse_prefix, List.reverse_reverse] at hsuffix
  exact hsuffix

/-- No blank stands at the ends of a trimmed text. -/
theorem trim_ends (s : Text) :
    (∀ c ∈ s.trim.head?, isBlank c = false) ∧ ∀ c ∈ s.trim.getLast?, isBlank c = false := by
  refine ⟨fun c hc => ?_, getLast?_trimEnd _⟩
  -- the trimmed text begins as the text without the blanks at its start does
  obtain ⟨rest, hrest⟩ := trimEnd_isPrefix s.trimStart
  have hfirst : s.trimStart.head? = some c := by
    rw [← hrest, List.head?_append, show s.trimStart.trimEnd.head? = some c from hc, Option.some_or]
  exact head?_dropWhile_isBlank s c hfirst

/-- **A text is trimmed if no blank stands at its ends.** -/
theorem trim_eq_self_iff (s : Text) :
    s.trim = s ↔
      (∀ c ∈ s.head?, isBlank c = false) ∧ ∀ c ∈ s.getLast?, isBlank c = false := by
  constructor
  · intro h
    have hends := trim_ends s
    rwa [h] at hends
  · rintro ⟨hfirst, hlast⟩
    rw [trim, trimStart, dropWhile_eq_self hfirst, trimEnd_eq_self hlast]

theorem trim_trim (s : Text) : s.trim.trim = s.trim := (trim_eq_self_iff _).2 (trim_ends s)

/-- A text that does not begin with a blank is not trimmed away. -/
theorem trim_ne_nil {s : Text} (hne : s ≠ []) (hfirst : ∀ c ∈ s.head?, isBlank c = false) :
    s.trim ≠ [] := by
  obtain ⟨c, rest, rfl⟩ := List.exists_cons_of_ne_nil hne
  intro hnil
  rw [trim, trimStart, dropWhile_eq_self hfirst, trimEnd, dropEndWhile,
    List.reverse_eq_nil_iff, List.dropWhile_eq_nil_iff] at hnil
  have hblank := hnil c (by simp)
  rw [hfirst c rfl] at hblank
  cases hblank

/-- Trimming adds no characters. -/
theorem mem_of_mem_trim {s : Text} {c : CodePoint} (h : c ∈ s.trim) : c ∈ s :=
  (List.dropWhile_suffix isBlank).subset ((trimEnd_isPrefix s.trimStart).subset h)

end Text

end CompileTrace
