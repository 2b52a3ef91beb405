import CompileTrace.Text.Newline
import CompileTrace.Proofs.Text.Fields

set_option autoImplicit false

/-! # The lines of a file

A file is read line by line once its newlines are unified. Each line feed and each carriage return
ends a line, so that what stands before one and what stands after it have lines of their own, apart
from lines that are empty (`flatMap_fileLines_append`): a line feed right after a carriage return
ends no further line. A text without either is its only line (`fileLines_eq_singleton`).

Whatever a file ends its lines by, its text is the same when they are unified
(`unifyNewlines_withLineEnding`), and no carriage return is left in it
(`return_notMem_unifyNewlines`). -/

namespace CompileTrace.Text

/-- The lines of a file with a given text; what follows the last newline is a line too. -/
def fileLines (s : Text) : List Text := s.unifyNewlines.fieldsBy (· == char '\n')

/-- Whether a character ends a line of a file, alone or with another one. -/
def isNewline (c : CodePoint) : Bool := c == '\n' || c == '\r'

/-! ## Newlines one by one -/

/-- The text with its newlines unified, where the character before it was a carriage return or
    not. -/
def unifyFrom (afterReturn : Bool) : Text → Text
  | [] => []
  | c :: rest =>
    if c = '\r' then char '\n' :: unifyFrom true rest
    else if c = '\n' ∧ afterReturn then unifyFrom false rest
    else c :: unifyFrom false rest

theorem found_foldl_next (s : Text) (afterReturn : Bool) (found : Text) :
    (s.foldl NewlineScan.next ⟨afterReturn, found⟩).found.reverse
      = found.reverse ++ unifyFrom afterReturn s := by
  induction s generalizing afterReturn found with
  | nil => simp [unifyFrom]
  | cons c rest ih =>
    rw [List.foldl_cons, NewlineScan.next, unifyFrom]
    split
    · rw [ih, List.reverse_cons, List.append_assoc, List.singleton_append]
    · split
      · rw [ih]
      · rw [ih, List.reverse_cons, List.append_assoc, List.singleton_append]

theorem unifyNewlines_eq_unifyFrom (s : Text) : s.unifyNewlines = unifyFrom false s := by
  rw [unifyNewlines, found_foldl_next, List.reverse_nil, List.nil_append]

theorem unifyFrom_return (afterReturn : Bool) (s : Text) :
    unifyFrom afterReturn (char '\r' :: s) = char '\n' :: unifyFrom true s := by
  rw [unifyFrom, if_pos rfl]

theorem unifyFrom_lineFeed (s : Text) :
    unifyFrom false (char '\n' :: s) = char '\n' :: unifyFrom false s := by
  simp [unifyFrom]

theorem unifyFrom_lineFeed_afterReturn (s : Text) :
    unifyFrom true (char '\n' :: s) = unifyFrom false s := by
  simp [unifyFrom]

theorem unifyFrom_of_no_newline (s : Text) (h : ∀ c ∈ s, isNewline c = false) :
    unifyFrom false s = s := by
  induction s with
  | nil => rfl
  | cons c rest ih =>
    have hc : c ≠ '\n' ∧ c ≠ '\r' := by simpa [isNewline] using h c List.mem_cons_self
    rw [unifyFrom, if_neg hc.2, if_neg (fun hboth => hc.1 hboth.1),
      ih (fun d hd => h d (List.mem_cons_of_mem _ hd))]

/-- A text without newlines is its only line. -/
theorem fileLines_eq_singleton {s : Text} (h : ∀ c ∈ s, isNewline c = false) :
    fileLines s = [s] := by
  rw [fileLines, unifyNewlines_eq_unifyFrom, unifyFrom_of_no_newline s h, fieldsBy]
  refine fields_eq_singleton _ s (fun c hc => ?_)
  have hboth := h c hc
  rw [isNewline, Bool.or_eq_false_iff] at hboth
  exact hboth.1

/-! ## Two texts in turn -/

/-- After a text the next one is read as after a carriage return or not; it is only if the text
    ends in one, which has become a line feed. -/
theorem exists_unifyFrom_append (afterReturn : Bool) (s : Text) :
    ∃ atEnd, (∀ t, unifyFrom afterReturn (s ++ t) = unifyFrom afterReturn s ++ unifyFrom atEnd t)
      ∧ (atEnd = true →
        (s = [] ∧ afterReturn = true) ∨ ∃ u, unifyFrom afterReturn s = u ++ [char '\n']) := by
  induction s generalizing afterReturn with
  | nil => exact ⟨afterReturn, fun t => rfl, fun hend => Or.inl ⟨rfl, hend⟩⟩
  | cons c rest ih =>
    by_cases hreturn : c = '\r'
    · subst hreturn
      obtain ⟨atEnd, happend, hlast⟩ := ih true
      refine ⟨atEnd, fun t => ?_, fun hend => Or.inr ?_⟩
      · rw [List.cons_append, unifyFrom_return, unifyFrom_return, happend, List.cons_append]
      · rw [unifyFrom_return]
        rcases hlast hend with ⟨rfl, -⟩ | ⟨u, hu⟩
        · exact ⟨[], rfl⟩
        · exact ⟨char '\n' :: u, by rw [hu, List.cons_append]⟩
    · obtain ⟨atEnd, happend, hlast⟩ := ih false
      -- the character is kept, or it is the line feed of a newline that has been kept before
      have hkept : ∃ kept, ∀ t,
          unifyFrom afterReturn (c :: (rest ++ t)) = kept ++ unifyFrom false (rest ++ t) := by
        by_cases hdropped : c = '\n' ∧ afterReturn = true
        · exact ⟨[], fun t => by rw [unifyFrom, if_neg hreturn, if_pos hdropped, List.nil_append]⟩
        · exact ⟨[c], fun t => by
            rw [unifyFrom, if_neg hreturn, if_neg hdropped, List.singleton_append]⟩
      obtain ⟨kept, hkept⟩ := hkept
      have hrest := hkept []
      rw [List.append_nil] at hrest
      refine ⟨atEnd, fun t => ?_, fun hend => Or.inr ?_⟩
      · rw [List.cons_append, hkept, hrest, happend, List.append_assoc]
      · rcases hlast hend with ⟨-, hfalse⟩ | ⟨u, hu⟩
        · cases hfalse
        · exact ⟨kept ++ u, by rw [hrest, hu, List.append_assoc]⟩

section

variable {β : Type} (f : Text → List β)

theorem flatMap_fieldsBy_append (c : CodePoint) (s t : Text) :
    ((s ++ c :: t).fieldsBy (· == c)).flatMap f
      = (s.fieldsBy (· == c)).flatMap f ++ (t.fieldsBy (· == c)).flatMap f := by
  rw [fieldsBy, fields_append_sep _ _ _ _ (by simp), List.flatMap_append]
  rfl

variable (hf : f [] = [])

include hf

theorem flatMap_fieldsBy_nil (c : CodePoint) : (fieldsBy (· == c) []).flatMap f = [] := by
  simp [fieldsBy, fields, hf]

/-- What follows a carriage return may begin with the line feed that belongs to it. -/
theorem flatMap_unifyFrom_true (s : Text) :
    ((unifyFrom true s).fieldsBy (· == char '\n')).flatMap f
      = ((unifyFrom false s).fieldsBy (· == char '\n')).flatMap f := by
  cases s with
  | nil => rfl
  | cons c rest =>
    by_cases hfeed : c = '\n'
    · subst hfeed
      have hsplit := flatMap_fieldsBy_append f '\n' [] (unifyFrom false rest)
      rw [List.nil_append, flatMap_fieldsBy_nil f hf, List.nil_append] at hsplit
      rw [unifyFrom_lineFeed_afterReturn, unifyFrom_lineFeed, hsplit]
    · simp [unifyFrom, hfeed]

/-- **A newline parts the lines of a file**, as long as empty lines do not count. -/
theorem flatMap_fileLines_append {c : CodePoint} (hc : isNewline c = true) (s t : Text) :
    (fileLines (s ++ c :: t)).flatMap f = (fileLines s).flatMap f ++ (fileLines t).flatMap f := by
  obtain ⟨atEnd, happend, hlast⟩ := exists_unifyFrom_append false s
  simp only [fileLines, unifyNewlines_eq_unifyFrom, happend]
  rw [isNewline, Bool.or_eq_true, beq_iff_eq, beq_iff_eq] at hc
  rcases hc with rfl | rfl
  · cases atEnd with
    | false => rw [unifyFrom_lineFeed, flatMap_fieldsBy_append]
    | true =>
      -- the line feed belongs to the carriage return that the text before it ends in
      obtain ⟨-, hfalse⟩ | ⟨u, hu⟩ := hlast rfl
      · cases hfalse
      · rw [unifyFrom_lineFeed_afterReturn, hu, List.append_assoc, List.singleton_append,
          flatMap_fieldsBy_append, flatMap_fieldsBy_append, flatMap_fieldsBy_nil f hf,
          List.append_nil]
  · rw [unifyFrom_return, flatMap_fieldsBy_append, flatMap_unifyFrom_true f hf]

end

end CompileTrace.Text

namespace CompileTrace

/-! ## Line endings -/

/-- How the lines of a file end. -/
inductive LineEnding
  | lineFeed
  | returnAndLineFeed
  | carriageReturn
  deriving DecidableEq, Repr

/-- What ends a line. -/
def LineEnding.text : LineEnding → Text
  | lineFeed => [char '\n']
  | returnAndLineFeed => [char '\r', char '\n']
  | carriageReturn => [char '\r']

theorem LineEnding.allChars_text (ending : LineEnding) : ending.text.AllChars := by
  cases ending <;> decide

namespace Text

/-- A text with its lines ended in a given way. -/
def withLineEnding (ending : LineEnding) (s : Text) : Text :=
  s.flatMap (fun c => if c = char '\n' then ending.text else [c])

variable {ending : LineEnding}

theorem withLineEnding_lineFeed (s : Text) :
    withLineEnding ending (char '\n' :: s) = ending.text ++ withLineEnding ending s := by
  simp [withLineEnding]

theorem withLineEnding_cons {c : CodePoint} (h : c ≠ '\n') (s : Text) :
    withLineEnding ending (c :: s) = c :: withLineEnding ending s := by
  simp [withLineEnding, h]

/-- A text is there again when its newlines are unified, whatever they were written as; a line feed
    alone may not come after a carriage return. -/
theorem unifyFrom_withLineEnding {s : Text} (hs : char '\r' ∉ s) {afterReturn : Bool}
    (hafter : ending = .lineFeed → afterReturn = false) :
    unifyFrom afterReturn (withLineEnding ending s) = s := by
  induction s generalizing afterReturn with
  | nil => rfl
  | cons c rest ih =>
    obtain ⟨hc, hrest⟩ : c ≠ '\r' ∧ char '\r' ∉ rest := by simpa [eq_comm] using hs
    by_cases hfeed : c = '\n'
    · rw [hfeed, withLineEnding_lineFeed]
      cases ending with
      | lineFeed =>
        rw [hafter rfl]
        show unifyFrom false (char '\n' :: withLineEnding .lineFeed rest) = char '\n' :: rest
        rw [unifyFrom_lineFeed, ih hrest (fun _ => rfl)]
      | returnAndLineFeed =>
        show unifyFrom afterReturn
          (char '\r' :: char '\n' :: withLineEnding .returnAndLineFeed rest)
          = char '\n' :: rest
        rw [unifyFrom_return, unifyFrom_lineFeed_afterReturn, ih hrest (fun _ => rfl)]
      | carriageReturn =>
        show unifyFrom afterReturn (char '\r' :: withLineEnding .carriageReturn rest)
          = char '\n' :: rest
        rw [unifyFrom_return, ih hrest (by simp)]
    · have hother : ¬ (c = '\n' ∧ afterReturn = true) := fun h => hfeed h.1
      rw [withLineEnding_cons hfeed, unifyFrom, if_neg hc, if_neg hother, ih hrest (fun _ => rfl)]

/-- **Unifying newlines takes back any line ending.** -/
theorem unifyNewlines_withLineEnding (ending : LineEnding) {s : Text} (hs : char '\r' ∉ s) :
    (withLineEnding ending s).unifyNewlines = s := by
  rw [unifyNewlines_eq_unifyFrom, unifyFrom_withLineEnding hs (fun _ => rfl)]

/-- **No carriage return is left when newlines are unified.** -/
theorem return_notMem_unifyNewlines (s : Text) : char '\r' ∉ s.unifyNewlines := by
  have hfrom : ∀ (s : Text) (afterReturn : Bool), char '\r' ∉ unifyFrom afterReturn s := by
    intro s
    induction s with
    | nil => intro afterReturn; simp [unifyFrom]
    | cons c rest ih =>
      intro afterReturn
      rw [unifyFrom]
      split
      · simp [ih]
      · next hc =>
        split
        · exact ih false
        · simp [ih, Ne.symm hc]
  rw [unifyNewlines_eq_unifyFrom]
  exact hfrom s false

end Text

end CompileTrace
