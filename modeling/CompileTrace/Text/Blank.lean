import CompileTrace.Text.CodeRange

set_option autoImplicit false

/-! # Blanks and line boundaries

A blank is a space, a control that separates (tab to carriage return, the four information
separators, next line) or a space of another script. Trimming removes blanks at both ends.

A line boundary is a line feed, vertical tab, form feed, carriage return, one of three
information separators, next line, or a line or paragraph separator; a carriage return with the
line feed after it is one boundary. -/

namespace CompileTrace

/-- The code points of the blanks. -/
def blankRanges : List CodeRange :=
  [(0x09, 0x0D), (0x1C, 0x20), (0x85, 0x85), (0xA0, 0xA0), (0x1680, 0x1680), (0x2000, 0x200A),
   (0x2028, 0x2029), (0x202F, 0x202F), (0x205F, 0x205F), (0x3000, 0x3000)]

/-- Whether a character is a blank. -/
def isBlank (c : CodePoint) : Bool := inRanges blankRanges c

/-- The code points of the line boundaries. -/
def lineBoundaryRanges : List CodeRange :=
  [(0x0A, 0x0D), (0x1C, 0x1E), (0x85, 0x85), (0x2028, 0x2029)]

/-- Whether a character ends a line. -/
def isLineBoundary (c : CodePoint) : Bool := inRanges lineBoundaryRanges c

/-- A line boundary is a blank, so that trimming a line removes none of its text. -/
theorem isBlank_of_isLineBoundary (c : CodePoint) (h : isLineBoundary c = true) :
    isBlank c = true := by
  simp only [isLineBoundary, lineBoundaryRanges, isBlank, blankRanges, inRanges, List.any_cons,
    List.any_nil, Bool.or_false, Bool.or_eq_true, Bool.and_eq_true, decide_eq_true_eq] at h ⊢
  omega

namespace Text

/-- The text without the blanks at its start. -/
def trimStart (s : Text) : Text := s.dropWhile isBlank

/-- The text without the characters at its end that `p` holds of. -/
def dropEndWhile (p : CodePoint → Bool) (s : Text) : Text := (s.reverse.dropWhile p).reverse

/-- The text without the blanks at its end. -/
def trimEnd (s : Text) : Text := s.dropEndWhile isBlank

/-- The text without the blanks at its two ends. -/
def trim (s : Text) : Text := s.trimStart.trimEnd

/-- Whether a text has nothing but blanks. -/
def isAllBlank (s : Text) : Bool := s.all isBlank

/-! ## Lines -/

/-- What reading a text line by line has found so far: the line under way, back to front, whether
    the text read so far ended in a carriage return, and the finished lines, last first. -/
structure LineScan where
  current : Text
  afterReturn : Bool
  finished : List Text

/-- Reads one more character: a boundary finishes the line under way, and a line feed right after
    a carriage return belongs to the boundary before it. -/
def LineScan.next (scan : LineScan) (c : CodePoint) : LineScan :=
  if c = '\n' ∧ scan.afterReturn then { scan with afterReturn := false }
  else if isLineBoundary c then
    { current := [], afterReturn := c = '\r', finished := scan.current.reverse :: scan.finished }
  else { scan with current := c :: scan.current, afterReturn := false }

/-- The lines of a text without their boundaries; an empty rest after the last boundary is no
    line. -/
def lines (s : Text) : List Text :=
  let scan := s.foldl LineScan.next ⟨[], false, []⟩
  (if scan.current.isEmpty then scan.finished else scan.current.reverse :: scan.finished).reverse

end Text

end CompileTrace
