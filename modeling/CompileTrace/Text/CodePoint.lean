set_option autoImplicit false

/-! # Code points

A text may come from outside that holds one half of a surrogate pair without the other. Such a half
is a code point, but no character: it stands beside the characters, with a number in the gap that
they leave. -/

namespace CompileTrace

/-- A code point: a character, or half of a surrogate pair, told by its place among the halves. -/
inductive CodePoint
  | char (c : Char)
  | half (h : Fin 0x800)
  deriving DecidableEq, Inhabited, Repr

export CodePoint (char)

namespace CodePoint

instance : Coe Char CodePoint := ⟨char⟩

/-- The number of a code point. -/
def toNat : CodePoint → Nat
  | char c => c.toNat
  | half h => 0xD800 + h

/-- The code point of a number. -/
def ofNat (n : Nat) : CodePoint :=
  if h : n.isValidChar then char (Char.ofNatAux n h) else half (Fin.ofNat 0x800 (n - 0xD800))

/-- Whether a code point is half of a pair. -/
def isHalf : CodePoint → Bool
  | char _ => false
  | half _ => true

/-- The small letter of a capital among the first letters. -/
def toLower : CodePoint → CodePoint
  | char c => char c.toLower
  | half h => half h

/-- Whether a code point is one of the ten digits. -/
def isDigit : CodePoint → Bool
  | char c => c.isDigit
  | half _ => false

/-- Whether a code point is a letter without accents. -/
def isAlpha : CodePoint → Bool
  | char c => c.isAlpha
  | half _ => false

/-- Whether a code point is one or the other. -/
def isAlphanum (c : CodePoint) : Bool := c.isAlpha || c.isDigit

instance : LE CodePoint := ⟨fun c d => c.toNat ≤ d.toNat⟩

instance (c d : CodePoint) : Decidable (c ≤ d) := inferInstanceAs (Decidable (c.toNat ≤ d.toNat))

theorem le_iff {c d : CodePoint} : c ≤ d ↔ c.toNat ≤ d.toNat := Iff.rfl

@[simp] theorem toNat_char (c : Char) : (char c).toNat = c.toNat := rfl

@[simp] theorem toNat_half (h : Fin 0x800) : (half h).toNat = 0xD800 + h := rfl

@[simp] theorem isHalf_char (c : Char) : (char c).isHalf = false := rfl

/-- The number of a character is in none of the places of a half. -/
theorem toNat_char_ne_half (c : Char) (h : Fin 0x800) : c.toNat ≠ 0xD800 + h := by
  have hvalid : c.toNat < 0xD800 ∨ (0xDFFF < c.toNat ∧ c.toNat < 0x110000) := c.valid
  omega

/-- **Code points are told apart by their numbers.** -/
theorem toNat_injective {c d : CodePoint} (h : c.toNat = d.toNat) : c = d := by
  cases c with
  | char c =>
    cases d with
    | char d => exact congrArg char (Char.toNat_inj.1 h)
    | half k => exact absurd h (toNat_char_ne_half c k)
  | half k =>
    cases d with
    | char d => exact absurd h.symm (toNat_char_ne_half d k)
    | half l => exact congrArg half (Fin.ext (Nat.add_left_cancel h))

theorem toNat_inj {c d : CodePoint} : c.toNat = d.toNat ↔ c = d :=
  ⟨toNat_injective, congrArg toNat⟩

theorem toNat_ofNat {n : Nat} (h : n < 0x110000) : (ofNat n).toNat = n := by
  by_cases hchar : n.isValidChar
  · have hn : ofNat n = char (Char.ofNatAux n hchar) := dif_pos hchar
    rw [hn]
    rfl
  · have hn : ofNat n = half (Fin.ofNat 0x800 (n - 0xD800)) := dif_neg hchar
    have hgap : ¬(n < 0xD800 ∨ (0xDFFF < n ∧ n < 0x110000)) := hchar
    rw [hn, toNat_half, Fin.val_ofNat, Nat.mod_eq_of_lt (by omega)]
    omega

theorem toNat_lt (c : CodePoint) : c.toNat < 0x110000 := by
  cases c with
  | char c =>
    have hvalid : c.toNat < 0xD800 ∨ (0xDFFF < c.toNat ∧ c.toNat < 0x110000) := c.valid
    rw [toNat_char]
    omega
  | half h =>
    rw [toNat_half]
    omega

/-- A code point is that of its number. -/
@[simp] theorem ofNat_toNat (c : CodePoint) : ofNat c.toNat = c :=
  toNat_injective (toNat_ofNat c.toNat_lt)

/-- The letters and digits without accents stand among the first code points. -/
theorem toNat_of_isAlphanum {c : CodePoint} (h : c.isAlphanum = true) :
    0x30 ≤ c.toNat ∧ c.toNat ≤ 0x7A := by
  cases c with
  | char c =>
    have halphanum : (char c).isAlphanum = ((decide (c.val ≥ 'A'.val ∧ c.val ≤ 'Z'.val)
        || c.val ≥ 'a'.val && c.val ≤ 'z'.val) || c.val ≥ '0'.val && c.val ≤ '9'.val) := rfl
    simp only [halphanum, Bool.or_eq_true, Bool.and_eq_true, decide_eq_true_eq, ge_iff_le,
      UInt32.le_iff_toNat_le, Char.toNat_val] at h
    rw [toNat_char]
    rcases h with (h | h) | h
    · exact ⟨Nat.le_trans (by decide) h.1, Nat.le_trans h.2 (by decide)⟩
    · exact ⟨Nat.le_trans (by decide) h.1, Nat.le_trans h.2 (by decide)⟩
    · exact ⟨Nat.le_trans (by decide) h.1, Nat.le_trans h.2 (by decide)⟩
  | half h => cases h

/-- A code point is a half if its number is that of one. -/
theorem isHalf_iff (c : CodePoint) : c.isHalf = true ↔ 0xD800 ≤ c.toNat ∧ c.toNat ≤ 0xDFFF := by
  cases c with
  | char c =>
    have hvalid : c.toNat < 0xD800 ∨ (0xDFFF < c.toNat ∧ c.toNat < 0x110000) := c.valid
    rw [toNat_char]
    simp only [isHalf, Bool.false_eq_true, false_iff]
    omega
  | half h =>
    rw [toNat_half]
    simp only [isHalf, true_iff]
    omega

end CodePoint

end CompileTrace
