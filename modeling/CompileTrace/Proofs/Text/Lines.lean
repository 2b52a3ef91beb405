import CompileTrace.Proofs.Text.Fields
import CompileTrace.Text.Blank
import Mathlib.Data.List.Induction

set_option autoImplicit false

/-! # Lines of a text

A line feed parts the lines of a text: what stands before it has lines of its own and what stands
after it has lines of its own, apart from lines that are empty (`flatMap_lines_append`). For the
text before the line feed may end in a boundary of its own: then the two bound an empty line or, if
the first is a carriage return, are one boundary.

No line holds a boundary (`isLineBoundary_of_mem_lines`), and a text that holds none is its only
line (`lines_eq_singleton`). -/

namespace CompileTrace.Text

namespace LineScan

/-- A scan at the start of a text. -/
def start : LineScan := ⟨[], false, []⟩

/-- The lines that a scan has found if the text ends here. -/
def found (scan : LineScan) : List Text :=
  (if scan.current.isEmpty then scan.finished else scan.current.reverse :: scan.finished).reverse

/-- A scan that has finished some more lines before. -/
def after (scan : LineScan) (earlier : List Text) : LineScan :=
  { scan with finished := scan.finished ++ earlier }

theorem next_after (scan : LineScan) (earlier : List Text) (c : CodePoint) :
    (scan.after earlier).next c = (scan.next c).after earlier := by
  unfold next after
  split
  · rfl
  · split <;> rfl

/-- What was finished before does not matter to the rest. -/
theorem foldl_next_after (scan : LineScan) (earlier : List Text) (s : Text) :
    s.foldl next (scan.after earlier) = (s.foldl next scan).after earlier := by
  induction s generalizing scan with
  | nil => rfl
  | cons c rest ih => rw [List.foldl_cons, next_after, ih, List.foldl_cons]

theorem found_after (scan : LineScan) (earlier : List Text) :
    (scan.after earlier).found = earlier.reverse ++ scan.found := by
  unfold found after
  split <;> simp

/-- After a carriage return no line is under way. -/
def Clean (scan : LineScan) : Prop := scan.afterReturn = true → scan.current = []

theorem clean_next (scan : LineScan) (c : CodePoint) : (scan.next c).Clean := by
  unfold next Clean
  split
  · simp
  · split <;> simp

theorem clean_foldl_next (s : Text) : (s.foldl next start).Clean := by
  induction s using List.reverseRecOn with
  | nil => simp [Clean, start]
  | append_singleton s c _ =>
    rw [List.foldl_append, List.foldl_cons, List.foldl_nil]
    exact clean_next _ c

/-- A line feed ends the line under way, if there is one: then a scan begins anew after lines that
    are those found, but perhaps for an empty one. -/
theorem next_lineFeed {β : Type} (scan : LineScan) (hclean : scan.Clean) (f : Text → List β)
    (hf : f [] = []) :
    ∃ earlier, scan.next '\n' = start.after earlier
      ∧ earlier.reverse.flatMap f = scan.found.flatMap f := by
  cases hreturn : scan.afterReturn with
  | true =>
    -- the line feed belongs to the boundary before it
    refine ⟨scan.finished, ?_, ?_⟩
    · simp [next, hreturn, hclean hreturn, after, start]
    · simp [found, hclean hreturn]
  | false =>
    have hboundary : isLineBoundary '\n' = true := by decide
    refine ⟨scan.current.reverse :: scan.finished, ?_, ?_⟩
    · simp [next, hreturn, hboundary, after, start]
    · cases hcurrent : scan.current with
      | nil => simp [found, hcurrent, hf]
      | cons c rest => simp [found, hcurrent]

/-- Characters that are no boundaries go to the line under way. -/
theorem foldl_next_of_no_boundary (scan : LineScan) (hreturn : scan.afterReturn = false) (s : Text)
    (h : ∀ c ∈ s, isLineBoundary c = false) :
    s.foldl next scan = { scan with current := s.reverse ++ scan.current } := by
  induction s generalizing scan with
  | nil => rfl
  | cons c rest ih =>
    have hnext : scan.next c = { scan with current := c :: scan.current } := by
      simp [next, hreturn, h c List.mem_cons_self]
    rw [List.foldl_cons, hnext,
      ih { scan with current := c :: scan.current } hreturn
        (fun d hd => h d (List.mem_cons_of_mem _ hd)),
      List.reverse_cons, List.append_assoc, List.singleton_append]

/-- No boundary stands in the line under way or in a finished line. -/
structure Bounded (scan : LineScan) : Prop where
  current : ∀ c ∈ scan.current, isLineBoundary c = false
  finished : ∀ line ∈ scan.finished, ∀ c ∈ line, isLineBoundary c = false

theorem Bounded.next {scan : LineScan} (h : scan.Bounded) (c : CodePoint) :
    (scan.next c).Bounded := by
  unfold LineScan.next
  split
  · exact ⟨h.current, h.finished⟩
  · split
    · refine ⟨by simp, fun line hline => ?_⟩
      rcases List.mem_cons.1 hline with rfl | hline
      · exact fun d hd => h.current d (List.mem_reverse.1 hd)
      · exact h.finished line hline
    · next hboundary =>
      refine ⟨fun d hd => ?_, h.finished⟩
      rcases List.mem_cons.1 hd with rfl | hd
      · exact Bool.eq_false_iff.2 hboundary
      · exact h.current d hd

theorem bounded_foldl_next (s : Text) : (s.foldl LineScan.next start).Bounded := by
  induction s using List.reverseRecOn with
  | nil => exact ⟨by simp [start], by simp [start]⟩
  | append_singleton s c ih =>
    rw [List.foldl_append, List.foldl_cons, List.foldl_nil]
    exact ih.next c

end LineScan

theorem lines_eq_found (s : Text) : s.lines = (s.foldl LineScan.next LineScan.start).found := rfl

/-- A text without boundaries is one line. -/
theorem lines_eq_singleton {s : Text} (hne : s ≠ []) (h : ∀ c ∈ s, isLineBoundary c = false) :
    s.lines = [s] := by
  rw [lines_eq_found, LineScan.foldl_next_of_no_boundary LineScan.start rfl s h]
  simp [LineScan.found, LineScan.start, hne]

theorem isLineBoundary_of_mem_lines {s line : Text} (h : line ∈ s.lines) :
    ∀ c ∈ line, isLineBoundary c = false := by
  have hbounded := LineScan.bounded_foldl_next s
  rw [lines_eq_found, LineScan.found, List.mem_reverse] at h
  split at h
  · exact hbounded.finished line h
  · rcases List.mem_cons.1 h with rfl | h
    · exact fun c hc => hbounded.current c (List.mem_reverse.1 hc)
    · exact hbounded.finished line h

/-- **A line feed parts the lines of a text**, as long as empty lines do not count. -/
theorem flatMap_lines_append {β : Type} (f : Text → List β) (hf : f [] = []) (s t : Text) :
    (lines (s ++ char '\n' :: t)).flatMap f = s.lines.flatMap f ++ t.lines.flatMap f := by
  obtain ⟨earlier, hnext, hearlier⟩ :=
    LineScan.next_lineFeed _ (LineScan.clean_foldl_next s) f hf
  rw [lines_eq_found, List.foldl_append, List.foldl_cons, hnext, LineScan.foldl_next_after,
    LineScan.found_after, List.flatMap_append, hearlier, ← lines_eq_found, ← lines_eq_found]

/-- The lines of texts that are put together as lines are theirs one after the other. -/
theorem flatMap_lines_unlines {β : Type} (f : Text → List β) (hf : f [] = []) (parts : List Text) :
    (lines (unlines parts)).flatMap f = parts.flatMap (fun part => part.lines.flatMap f) := by
  induction parts with
  | nil => rfl
  | cons part rest ih =>
    cases rest with
    | nil => simp [unlines, join_singleton]
    | cons next rest' =>
      rw [unlines, join_cons_cons, List.append_assoc, List.flatMap_cons, ← ih]
      exact flatMap_lines_append f hf part _

end CompileTrace.Text
