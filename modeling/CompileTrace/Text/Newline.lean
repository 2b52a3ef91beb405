import CompileTrace.Text.Basic

set_option autoImplicit false

/-! # Newlines

Files end their lines by a line feed, by a carriage return, or by both together. Unifying gives a
text in which every line ends by a line feed. -/

namespace CompileTrace

/-- A text whose newlines are being unified: whether the last character was a carriage return,
    and the text so far, back to front. -/
structure NewlineScan where
  afterReturn : Bool
  found : Text

/-- Reads one more character: a carriage return becomes a line feed, and a line feed right after
    it is dropped. -/
def NewlineScan.next (scan : NewlineScan) (c : CodePoint) : NewlineScan :=
  if c = '\r' then ⟨true, char '\n' :: scan.found⟩
  else if c = '\n' ∧ scan.afterReturn then ⟨false, scan.found⟩
  else ⟨false, c :: scan.found⟩

/-- The text with a line feed for each newline. -/
def Text.unifyNewlines (s : Text) : Text := (s.foldl NewlineScan.next ⟨false, []⟩).found.reverse

end CompileTrace
