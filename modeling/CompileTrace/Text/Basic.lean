import CompileTrace.Text.CodePoint

set_option autoImplicit false

/-! # Text

A text is a list of code points. Command lines, paths, sources and messages are texts, so that
every operation on them is a function on lists. A string literal may stand wherever a text is
expected, for its characters. -/

namespace CompileTrace

/-- A text is the list of its code points. -/
abbrev Text := List CodePoint

/-- The text of some characters. -/
def Text.ofChars (s : List Char) : Text := s.map char

end CompileTrace

/-- The text of the characters of a string. -/
def String.toText (s : String) : CompileTrace.Text := CompileTrace.Text.ofChars s.toList

@[simp] theorem String.toText_eq (s : String) : s.toText = CompileTrace.Text.ofChars s.toList := rfl

namespace CompileTrace

instance : Coe String Text := ⟨String.toText⟩

namespace Text

@[simp] theorem ofChars_nil : ofChars [] = [] := rfl

@[simp] theorem ofChars_cons (c : Char) (s : List Char) : ofChars (c :: s) = char c :: ofChars s :=
  rfl

@[simp] theorem ofChars_append (s t : List Char) : ofChars (s ++ t) = ofChars s ++ ofChars t :=
  List.map_append

@[simp] theorem length_ofChars (s : List Char) : (ofChars s).length = s.length :=
  List.length_map _

theorem ofChars_injective {s t : List Char} (h : ofChars s = ofChars t) : s = t :=
  (List.map_inj_right (fun _ _ => CodePoint.char.inj)).1 h

/-- Whether a text has characters only, and no half of a pair. -/
def AllChars (s : Text) : Prop := ∀ c ∈ s, c.isHalf = false

instance (s : Text) : Decidable s.AllChars := inferInstanceAs (Decidable (∀ c ∈ s, _))

theorem allChars_iff (s : Text) : s.AllChars ↔ ∃ chars, s = ofChars chars := by
  constructor
  · intro h
    induction s with
    | nil => exact ⟨[], rfl⟩
    | cons c rest ih =>
      obtain ⟨hc, hrest⟩ := List.forall_mem_cons.1 h
      obtain ⟨chars, rfl⟩ := ih hrest
      cases c with
      | char c => exact ⟨c :: chars, rfl⟩
      | half h => cases hc
  · rintro ⟨chars, rfl⟩ c hc
    obtain ⟨d, -, rfl⟩ := List.mem_map.1 hc
    rfl

theorem allChars_ofChars (s : List Char) : (ofChars s).AllChars := (allChars_iff _).2 ⟨s, rfl⟩

theorem allChars_append {s t : Text} : (s ++ t).AllChars ↔ s.AllChars ∧ t.AllChars :=
  List.forall_mem_append

end Text

/-- The fields of a list between the items that `sep` holds of; there is one more field than there
    are separators. -/
def fields {α : Type} (sep : α → Bool) (items : List α) : List (List α) :=
  items.foldr
    (fun item found =>
      if sep item then [] :: found
      else match found with
        | [] => [[item]]
        | field :: rest => (item :: field) :: rest)
    [[]]

namespace Text

/-! ## Cutting a text at a separator -/

/-- The fields between the characters that `sep` holds of; there is one more field than there are
    separators. -/
def fieldsBy (sep : CodePoint → Bool) (s : Text) : List Text := fields sep s

/-- The text before the first `c` and the text after it, if the text holds a `c`. -/
def cutAt? (c : CodePoint) (s : Text) : Option (Text × Text) :=
  match s.span (· ≠ c) with
  | (_, []) => none
  | (before, _ :: after) => some (before, after)

/-- The rest of the text after a given beginning, if the text begins so. -/
def dropStart? (s start : Text) : Option Text := start.isPrefixOf? s

/-- Whether the text ends in a given way. -/
def endsWith (s ending : Text) : Bool := ending.isSuffixOf s

/-- The text without a part wherever it occurs, looked for from the start; so many characters of
    an occurrence found before are still to be left out. -/
def removeFrom (part : Text) : Nat → Text → Text
  | _, [] => []
  | found + 1, _ :: rest => removeFrom part found rest
  | 0, c :: rest =>
    if part.isPrefixOf (c :: rest) then removeFrom part (part.length - 1) rest
    else c :: removeFrom part 0 rest

/-- The text without a part wherever it occurs. -/
def remove (part s : Text) : Text := removeFrom part 0 s

/-! ## Putting texts together -/

/-- The texts in order with a separator between each two. -/
def join (sep : Text) (parts : List Text) : Text := List.intercalate sep parts

/-- The texts as lines with a line feed between each two. -/
def unlines (lines : List Text) : Text := join "\n" lines

/-! ## Numbers as text -/

/-- The decimal digits of a natural number. -/
def ofNat (n : Nat) : Text := ofChars (Nat.toDigits 10 n)

/-- The decimal digits of an integer, after a minus sign if it is negative. -/
def ofInt : Int → Text
  | .ofNat n => ofNat n
  | .negSucc n => char '-' :: ofNat (n + 1)

/-- A text filled up with zeros on the left to a given length. -/
def padZeros (width : Nat) (s : Text) : Text := List.replicate (width - s.length) (char '0') ++ s

end Text

end CompileTrace
