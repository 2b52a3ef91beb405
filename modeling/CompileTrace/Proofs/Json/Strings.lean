import CompileTrace.Json.Reader
import CompileTrace.Json.Writer
import CompileTrace.Proofs.Number.Digits
import CompileTrace.Proofs.Text.Utf8
import Mathlib.Data.List.Chain

set_option autoImplicit false

/-! # JSON strings that are written and read

A string is written in printable ASCII (`isPlainAscii_of_mem_writeString`) and read back as the text
that was written (`readString_flatMap`). The only texts that do not come back are those in which
the first half of a surrogate pair stands right before a second half: their escapes are read as
the one character that both make. -/

namespace CompileTrace

/-! ## Halves of pairs -/

namespace CodePoint

/-- Whether a code point is the first half of a pair. -/
def isFirstHalf (c : CodePoint) : Bool := 0xD800 ≤ c.toNat && c.toNat ≤ 0xDBFF

/-- Whether a code point is the second half of a pair. -/
def isSecondHalf (c : CodePoint) : Bool := 0xDC00 ≤ c.toNat && c.toNat ≤ 0xDFFF

theorem isFirstHalf_iff (c : CodePoint) :
    c.isFirstHalf = true ↔ 0xD800 ≤ c.toNat ∧ c.toNat ≤ 0xDBFF := by
  simp [isFirstHalf]

theorem isSecondHalf_iff (c : CodePoint) :
    c.isSecondHalf = true ↔ 0xDC00 ≤ c.toNat ∧ c.toNat ≤ 0xDFFF := by
  simp [isSecondHalf]

theorem isHalf_of_isFirstHalf {c : CodePoint} (h : c.isFirstHalf = true) : c.isHalf = true := by
  have hbounds := (isFirstHalf_iff c).1 h
  exact (isHalf_iff c).2 (by omega)

end CodePoint

namespace Text

/-- Whether no two halves of a text make a pair. -/
def Unpaired (s : Text) : Prop := s.IsChain (fun c d => ¬ (c.isFirstHalf ∧ d.isSecondHalf))

/-- A text of characters alone has no halves that could make a pair. -/
theorem AllChars.unpaired {s : Text} (h : s.AllChars) : s.Unpaired := by
  induction s with
  | nil => exact List.isChain_nil
  | cons c rest ih =>
    obtain ⟨hc, hrest⟩ := List.forall_mem_cons.1 h
    refine List.isChain_cons.2 ⟨fun d _ hboth => ?_, ih hrest⟩
    rw [CodePoint.isHalf_of_isFirstHalf hboth.1] at hc
    cases hc

end Text

namespace Json

/-! ## Escapes by number -/

theorem length_hexDigits_four {n : Nat} (h : n < 0x10000) : (hexDigits 4 n).length = 4 :=
  Text.length_hexDigits (by decide) h

/-- Four digits are read as they are everywhere else. -/
theorem hexUnit?_eq_foldl (a b c d : CodePoint) (rest : Text) :
    hexUnit? (a :: b :: c :: d :: rest)
      = ([a, b, c, d].foldl (readDigit 16 hexValue?) (some 0)).map (fun n => (n, rest)) := by
  cases ha : hexValue? a with
  | none => simp [hexUnit?, readDigit, ha]
  | some a' =>
    cases hb : hexValue? b with
    | none => simp [hexUnit?, readDigit, ha, hb]
    | some b' =>
      cases hc : hexValue? c with
      | none => simp [hexUnit?, readDigit, ha, hb, hc]
      | some c' =>
        cases hd : hexValue? d with
        | none => simp [hexUnit?, readDigit, ha, hb, hc, hd]
        | some d' => simp [hexUnit?, readDigit, ha, hb, hc, hd, Nat.mul_comm]

/-- The four digits of a unit are read as the unit. -/
theorem hexUnit?_hexDigits {n : Nat} (h : n < 0x10000) (rest : Text) :
    hexUnit? (hexDigits 4 n ++ rest) = some (n, rest) := by
  obtain ⟨a, b, c, d, hdigits⟩ := List.length_eq_four.1 (length_hexDigits_four h)
  have hread := Text.foldl_readDigit_hexDigits 4 n
  rw [hdigits] at hread
  rw [hdigits]
  simp only [List.cons_append, List.nil_append]
  rw [hexUnit?_eq_foldl, hread, Option.map_some]

theorem unitEscape_eq (n : Nat) : unitEscape n = char '\\' :: char 'u' :: hexDigits 4 n := rfl

/-- The escape of a unit is a second half if the unit is one. -/
theorem lowHalf?_unitEscape {n : Nat} (h : n < 0x10000) {rest : Text} (hrest : rest ≠ []) :
    lowHalf? (unitEscape n ++ rest)
      = .ok (if 0xDC00 ≤ n ∧ n ≤ 0xDFFF then some (n, rest) else none) := by
  have hlong : ¬ (hexDigits 4 n ++ rest).length ≤ 4 := by
    have hpos := List.length_pos_iff.2 hrest
    rw [List.length_append, length_hexDigits_four h]
    omega
  rw [unitEscape_eq, List.cons_append, List.cons_append, lowHalf?, if_neg hlong,
    hexUnit?_hexDigits h]
  simp only
  split <;> rfl

/-- The escape of a unit that is no first half, or that no second half follows, is read as the
    character of its code point. -/
theorem unicodeEscape_alone {n : Nat} (h : n < 0x10000) {rest : Text} (hrest : rest ≠ [])
    (halone : 0xD800 ≤ n ∧ n ≤ 0xDBFF → lowHalf? rest = .ok none) :
    unicodeEscape (hexDigits 4 n ++ rest) = .ok (CodePoint.ofNat n, rest) := by
  obtain ⟨first, others, rfl⟩ := List.exists_cons_of_ne_nil hrest
  rw [unicodeEscape, hexUnit?_hexDigits h]
  simp only
  split
  · next hfirst => rw [halone hfirst]
  · rfl

/-- The escapes of both halves of a pair are read as one character. -/
theorem unicodeEscape_pair {high low : Nat} (hhigh : 0xD800 ≤ high ∧ high ≤ 0xDBFF)
    (hlow : 0xDC00 ≤ low ∧ low ≤ 0xDFFF) {rest : Text} (hrest : rest ≠ []) :
    unicodeEscape (hexDigits 4 high ++ (unitEscape low ++ rest))
      = .ok (CodePoint.ofNat (0x10000 + (high - 0xD800) * 0x400 + (low - 0xDC00)), rest) := by
  have hhalf := lowHalf?_unitEscape (n := low) (by omega) hrest
  have hunit := hexUnit?_hexDigits (n := high) (by omega) (unitEscape low ++ rest)
  rw [if_pos hlow] at hhalf
  rw [unicodeEscape, hunit, unitEscape_eq, List.cons_append, List.cons_append]
  rw [unitEscape_eq, List.cons_append, List.cons_append] at hhalf
  simp only [hhigh, and_self, if_true, hhalf]

theorem stringChar_unitEscape (n : Nat) (rest : Text) :
    stringChar (unitEscape n ++ rest)
      = (unicodeEscape (hexDigits 4 n ++ rest)).map (fun r => (some r.1, r.2)) := rfl

/-! ## Characters -/

/-- Whether a character is printable and in ASCII. -/
def isPlainAscii (c : CodePoint) : Bool := decide (0x20 ≤ c.toNat) && decide (c.toNat < 0x7F)

/-- The ways in which a character may stand in a string. -/
inductive Stands (c : CodePoint) : Text → Prop
  | letter (name : CodePoint) (h : letterEscape? name = some c) (hname : name ≠ 'u')
    (hplain : isPlainAscii name = true) : Stands c ['\\', name]
  | plain (hquote : c ≠ '"') (hbackslash : c ≠ '\\') (hlow : 0x20 ≤ c.toNat)
    (hhigh : c.toNat < 0x7F) : Stands c [c]
  | unit (h : c.toNat < 0x10000) : Stands c (unitEscape c.toNat)
  | pair (high low : Nat) (hhigh : 0xD800 ≤ high ∧ high ≤ 0xDBFF)
    (hlow : 0xDC00 ≤ low ∧ low ≤ 0xDFFF)
    (hcode : 0x10000 + (high - 0xD800) * 0x400 + (low - 0xDC00) = c.toNat) :
    Stands c (unitEscape high ++ unitEscape low)

theorem stands_escapedChar (c : CodePoint) : Stands c (escapedChar c) := by
  by_cases hletter : ∃ name, (name, c) ∈ ([('"', '"'), ('\\', '\\'), ('n', '\n'), ('r', '\r'),
      ('t', '\t'), ('b', '\x08'), ('f', '\x0c')] : List (CodePoint × CodePoint))
  · obtain ⟨name, hmem⟩ := hletter
    simp only [List.mem_cons, Prod.mk.injEq, List.not_mem_nil, or_false] at hmem
    rcases hmem with ⟨rfl, rfl⟩ | ⟨rfl, rfl⟩ | ⟨rfl, rfl⟩ | ⟨rfl, rfl⟩ | ⟨rfl, rfl⟩ | ⟨rfl, rfl⟩
      | ⟨rfl, rfl⟩ <;> exact Stands.letter _ rfl (by decide) (by decide)
  · simp only [List.mem_cons, Prod.mk.injEq, List.not_mem_nil, or_false, exists_or,
      exists_eq_left, not_or] at hletter
    obtain ⟨hquote, hbackslash, hfeed, hreturn, htab, hbell, hform⟩ := hletter
    rw [escapedChar, if_neg hquote, if_neg hbackslash, if_neg hfeed, if_neg hreturn, if_neg htab,
      if_neg hbell, if_neg hform]
    split
    · next hplain => exact Stands.plain hquote hbackslash hplain.1 hplain.2
    · split
      · next hunit => exact Stands.unit hunit
      · next hastral =>
        have hbound := c.toNat_lt
        refine Stands.pair _ _ ?_ ?_ ?_ <;> omega

theorem Stands.ne_nil {c : CodePoint} {s : Text} (h : Stands c s) : s ≠ [] := by
  cases h with
  | letter name => simp
  | plain => simp
  | unit => simp [unitEscape_eq]
  | pair high low => simp [unitEscape_eq]

/-- However a character stands in a string, it is read; the first half of a pair is if no second
    half follows. -/
theorem Stands.stringChar_append {c : CodePoint} {s : Text} (h : Stands c s) {rest : Text}
    (hrest : rest ≠ [])
    (halone : c.isFirstHalf = true → lowHalf? rest = .ok none) :
    stringChar (s ++ rest) = .ok (some c, rest) := by
  cases h with
  | letter name hname hu =>
    simp [stringChar, hname]
  | plain hquote hbackslash hlow =>
    have hcontrol : ¬ c.toNat ≤ 0x1F := by omega
    simp [stringChar, hquote, hcontrol]
  | unit hcode =>
    have hfirst := fun hbounds => halone ((CodePoint.isFirstHalf_iff c).2 hbounds)
    rw [stringChar_unitEscape, unicodeEscape_alone hcode hrest hfirst,
      CodePoint.ofNat_toNat]
    rfl
  | pair high low hhigh hlow hcode =>
    rw [List.append_assoc, stringChar_unitEscape, unicodeEscape_pair hhigh hlow hrest, hcode,
      CodePoint.ofNat_toNat]
    rfl

/-- A character other than a second half is not taken for one. -/
theorem Stands.lowHalf?_append {c : CodePoint} {s : Text} (h : Stands c s) {rest : Text}
    (hrest : rest ≠ []) (hc : c.isSecondHalf = false) :
    lowHalf? (s ++ rest) = .ok none := by
  cases h with
  | letter name hname hu => simp [lowHalf?, hu]
  | plain hquote hbackslash hlow => simp [lowHalf?, hbackslash]
  | unit hcode =>
    have hsecond : ¬ (0xDC00 ≤ c.toNat ∧ c.toNat ≤ 0xDFFF) := by
      rw [← CodePoint.isSecondHalf_iff, hc]
      exact Bool.false_ne_true
    rw [lowHalf?_unitEscape hcode hrest, if_neg hsecond]
  | pair high low hhigh hlow hcode =>
    rw [List.append_assoc, lowHalf?_unitEscape (by omega) (by simp [unitEscape_eq]),
      if_neg (by omega)]

/-! ## Strings -/

theorem isPlainAscii_of_isHexDigit {d : CodePoint} (h : Text.isHexDigit d = true) :
    isPlainAscii d = true := by
  have hbounds := Text.toNat_of_isHexDigit h
  simp only [isPlainAscii, Bool.and_eq_true, decide_eq_true_eq]
  omega

theorem isPlainAscii_of_mem_unitEscape {n : Nat} {d : CodePoint} (h : d ∈ unitEscape n) :
    isPlainAscii d = true := by
  rw [unitEscape_eq, List.mem_cons, List.mem_cons] at h
  rcases h with rfl | rfl | h
  · rfl
  · rfl
  · exact isPlainAscii_of_isHexDigit (Text.isHexDigit_of_mem_hexDigits h)

theorem Stands.isPlainAscii_of_mem {c d : CodePoint} {s : Text} (h : Stands c s) (hd : d ∈ s) :
    isPlainAscii d = true := by
  cases h with
  | letter name hname hu hplain =>
    simp only [List.mem_cons, List.not_mem_nil, or_false] at hd
    rcases hd with rfl | rfl
    · rfl
    · exact hplain
  | plain hquote hbackslash hlow hhigh =>
    rw [List.mem_singleton.1 hd, isPlainAscii, Bool.and_eq_true, decide_eq_true_eq,
      decide_eq_true_eq]
    exact ⟨hlow, hhigh⟩
  | unit hcode => exact isPlainAscii_of_mem_unitEscape hd
  | pair high low hhigh hlow hcode =>
    rcases List.mem_append.1 hd with hd | hd
    · exact isPlainAscii_of_mem_unitEscape hd
    · exact isPlainAscii_of_mem_unitEscape hd

/-- **A string is written in printable ASCII.** -/
theorem isPlainAscii_of_mem_writeString {s : Text} {d : CodePoint} (h : d ∈ writeString s) :
    isPlainAscii d = true := by
  rw [writeString, List.cons_append, List.mem_cons, List.mem_append, List.mem_singleton] at h
  rcases h with rfl | h | rfl
  · rfl
  · obtain ⟨c, -, hd⟩ := List.mem_flatMap.1 h
    exact (stands_escapedChar c).isPlainAscii_of_mem hd
  · rfl

/-- What follows a character in a string begins with no second half if the text does not. -/
theorem lowHalf?_flatMap (s rest : Text) (h : ∀ c ∈ s.head?, c.isSecondHalf = false) :
    lowHalf? (s.flatMap escapedChar ++ char '"' :: rest) = .ok none := by
  cases s with
  | nil => rfl
  | cons c others =>
    rw [List.flatMap_cons, List.append_assoc]
    exact (stands_escapedChar c).lowHalf?_append (by simp) (h c rfl)

/-- The characters of a string are read one after the other. -/
theorem readChars_flatMap (s rest found : Text) (hs : s.Unpaired) {fuel : Nat}
    (hfuel : s.length < fuel) :
    readChars fuel found (s.flatMap escapedChar ++ char '"' :: rest)
      = .ok (found.reverse ++ s, rest) := by
  induction s generalizing found fuel with
  | nil =>
    obtain ⟨fuel, rfl⟩ := Nat.exists_eq_succ_of_ne_zero (Nat.ne_zero_of_lt hfuel)
    simp [readChars, stringChar]
  | cons c others ih =>
    obtain ⟨fuel, rfl⟩ := Nat.exists_eq_succ_of_ne_zero (Nat.ne_zero_of_lt hfuel)
    obtain ⟨hnext, hothers⟩ := List.isChain_cons.1 hs
    -- a second half is read after a first one only where the text has both
    have halone : c.isFirstHalf = true →
        lowHalf? (others.flatMap escapedChar ++ char '"' :: rest) = .ok none := by
      intro hc
      refine lowHalf?_flatMap others rest (fun d hd => ?_)
      exact Bool.eq_false_iff.2 (fun hsecond => hnext d hd ⟨hc, hsecond⟩)
    have hafter : others.flatMap escapedChar ++ char '"' :: rest ≠ [] := by simp
    have hchar := (stands_escapedChar c).stringChar_append hafter halone
    rw [List.flatMap_cons, List.append_assoc, readChars, hchar]
    simp only
    rw [ih (c :: found) hothers (Nat.lt_of_succ_lt_succ hfuel), List.reverse_cons,
      List.append_assoc, List.singleton_append]

theorem length_le_length_flatMap_escapedChar (s : Text) :
    s.length ≤ (s.flatMap escapedChar).length := by
  induction s with
  | nil => exact Nat.le_refl _
  | cons c rest ih =>
    have hpos := List.length_pos_iff.2 (stands_escapedChar c).ne_nil
    rw [List.length_cons, List.flatMap_cons, List.length_append]
    omega

/-- **A string that was written is read**, up to its closing quote. -/
theorem readString_flatMap (s rest : Text) (hs : s.Unpaired) :
    readString (s.flatMap escapedChar ++ char '"' :: rest) = .ok (s, rest) := by
  have hlength := length_le_length_flatMap_escapedChar s
  rw [readString, readChars_flatMap s rest [] hs (by rw [List.length_append]; omega),
    List.reverse_nil, List.nil_append]

end Json

end CompileTrace
