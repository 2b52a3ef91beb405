import CompileTrace.Number.Whole
import Mathlib.Data.List.Induction
import Mathlib.Data.List.TakeWhile
import Mathlib.Tactic.Ring

set_option autoImplicit false

/-! # Digits that are written and read

The digits that a number is written in are read as that number, in decimal (`Text.toWhole_ofNat`)
and in hexadecimal (`Text.foldl_readDigit_hexDigits`) form. So numbers are told apart by their
digits. A number is read from decimal digits that are not too many and from nothing else
(`Text.toWhole_eq_ok_iff`), and it is bounded by the number of its digits (`Text.lt_of_toWhole`).
In as many hexadecimal digits of one case as there is room for, it is written in one way only
(`Text.eq_of_foldl_readDigit`). -/

namespace CompileTrace

/-! ## Reading digit by digit -/

/-- The number so far and one more digit. -/
def readDigit (base : Nat) (value? : CodePoint → Option Nat) (n? : Option Nat) (c : CodePoint) :
    Option Nat :=
  n?.bind (fun n => (value? c).map (base * n + ·))

section

variable {base : Nat} {value? : CodePoint → Option Nat}

/-- **The digits of a number are read as the number.** -/
theorem foldl_readDigit_toDigits (hbase : 1 < base)
    (hvalue : ∀ d < base, value? (char (Nat.digitChar d)) = some d) (n : Nat) :
    (Text.ofChars (Nat.toDigits base n)).foldl (readDigit base value?) (some 0) = some n := by
  induction n using Nat.strongRecOn with
  | ind n ih =>
    rw [Nat.toDigits_eq_if hbase]
    split
    · next hsmall => simp [readDigit, hvalue n hsmall]
    · next hlarge =>
      -- the last digit is the remainder, and those before it write the quotient
      have hlt : n / base < n := Nat.div_lt_self (by omega) hbase
      have hlast := hvalue (n % base) (Nat.mod_lt n (by omega))
      rw [Text.ofChars_append, List.foldl_append, ih (n / base) hlt, Text.ofChars_cons,
        Text.ofChars_nil, List.foldl_cons, List.foldl_nil, readDigit, Option.bind_some, hlast,
        Option.map_some, Nat.div_add_mod]

/-- Zeros in front do not count. -/
theorem foldl_readDigit_zeros (hzero : value? (char '0') = some 0) (count : Nat) :
    (List.replicate count (char '0')).foldl (readDigit base value?) (some 0) = some 0 := by
  induction count with
  | zero => rfl
  | succ count ih => simpa [List.replicate_succ, readDigit, hzero] using ih

theorem foldl_readDigit_none (s : Text) : s.foldl (readDigit base value?) none = none := by
  induction s with
  | nil => rfl
  | cons c rest ih => exact ih

/-- What is read as a number is made of digits. -/
theorem isSome_of_foldl_readDigit (s : Text) {start? : Option Nat} {n : Nat}
    (h : s.foldl (readDigit base value?) start? = some n) : ∀ c ∈ s, (value? c).isSome = true := by
  induction s generalizing start? with
  | nil => simp
  | cons first rest ih =>
    rw [List.foldl_cons] at h
    intro c hc
    rcases List.mem_cons.1 hc with rfl | hc
    · cases hvalue : value? c with
      | some d => rfl
      | none =>
        have hstuck : readDigit base value? start? c = none := by simp [readDigit, hvalue]
        rw [hstuck, foldl_readDigit_none] at h
        cases h
    · exact ih h c hc

/-- What is made of digits is read as a number. -/
theorem exists_foldl_readDigit (s : Text) (h : ∀ c ∈ s, (value? c).isSome = true) (start : Nat) :
    ∃ n, s.foldl (readDigit base value?) (some start) = some n := by
  induction s generalizing start with
  | nil => exact ⟨start, rfl⟩
  | cons first rest ih =>
    rw [List.forall_mem_cons] at h
    obtain ⟨d, hd⟩ := Option.isSome_iff_exists.1 h.1
    obtain ⟨n, hn⟩ := ih h.2 (base * start + d)
    exact ⟨n, by rw [List.foldl_cons, readDigit, Option.bind_some, hd, Option.map_some, hn]⟩

/-- Each digit makes the bound of the number larger by the base at most. -/
theorem lt_of_foldl_readDigit (hvalue : ∀ c d, value? c = some d → d < base) (s : Text)
    {start n : Nat} (h : s.foldl (readDigit base value?) (some start) = some n) :
    n < (start + 1) * base ^ s.length := by
  induction s generalizing start with
  | nil =>
    cases h
    simp
  | cons c rest ih =>
    rw [List.foldl_cons, readDigit, Option.bind_some] at h
    cases hd : value? c with
    | none =>
      rw [hd, Option.map_none, foldl_readDigit_none] at h
      cases h
    | some d =>
      rw [hd, Option.map_some] at h
      have hdigit := hvalue c d hd
      calc
        n < (base * start + d + 1) * base ^ rest.length := ih h
        _ ≤ (base * (start + 1)) * base ^ rest.length :=
          Nat.mul_le_mul_right _ (by rw [Nat.mul_succ]; omega)
        _ = (start + 1) * base ^ (c :: rest).length := by
          rw [List.length_cons, Nat.pow_succ]
          ring

end

namespace Text

/-! ## Decimal digits -/

theorem decimalValue?_digitChar : ∀ d < 10, decimalValue? (char (Nat.digitChar d)) = some d := by
  decide

/-- A number is written in the digits of ASCII. -/
theorem codePoint_of_mem_ofNat {n : Nat} {c : CodePoint} (h : c ∈ ofNat n) :
    0x30 ≤ c.toNat ∧ c.toNat ≤ 0x30 + 9 := by
  obtain ⟨d, hd, rfl⟩ := List.mem_map.1 h
  have hdigit := Nat.isDigit_of_mem_toDigits (by decide) (by decide) hd
  simp only [Char.isDigit, Bool.and_eq_true, decide_eq_true_eq] at hdigit
  exact hdigit

theorem isDecimalDigit_of_mem_ofNat {n : Nat} {c : CodePoint} (h : c ∈ ofNat n) :
    isDecimalDigit c = true := by
  simp [isDecimalDigit, decimalValue?, zeroDigits, codePoint_of_mem_ofNat h]

theorem ofNat_ne_nil (n : Nat) : ofNat n ≠ [] :=
  fun h => Nat.toDigits_ne_nil (List.map_eq_nil_iff.1 h)

theorem length_ofNat (n : Nat) : (ofNat n).length = (Nat.toDigits 10 n).length :=
  length_ofChars _

theorem toNat?_eq_foldl {s : Text} (h : s ≠ []) :
    s.toNat? = s.foldl (readDigit 10 decimalValue?) (some 0) := by
  rw [toNat?, if_neg (by simpa using h)]
  rfl

theorem toNat?_ofNat (n : Nat) : (ofNat n).toNat? = some n := by
  rw [toNat?_eq_foldl (ofNat_ne_nil n)]
  exact foldl_readDigit_toDigits (by decide) decimalValue?_digitChar n

theorem takeWhile_isDecimalDigit_ofNat (n : Nat) : (ofNat n).takeWhile isDecimalDigit = ofNat n :=
  List.takeWhile_eq_self_iff.2 (fun _ h => isDecimalDigit_of_mem_ofNat h)

theorem length_ofNat_le_iff (n : Nat) : (ofNat n).length ≤ digitLimit ↔ n < 10 ^ digitLimit := by
  rw [length_ofNat, Nat.length_toDigits_le_iff (by decide) (by decide)]

/-- A power of ten has one digit more than its exponent says. -/
theorem length_ofNat_pow (k : Nat) : (ofNat (10 ^ k)).length = k + 1 := by
  have hle : (ofNat (10 ^ k)).length ≤ k + 1 := by
    rw [length_ofNat, Nat.length_toDigits_le_iff (by decide) (by omega)]
    exact Nat.pow_lt_pow_right (by decide) (Nat.lt_succ_self k)
  have hlt : k < (ofNat (10 ^ k)).length := by
    cases k with
    | zero => decide
    | succ k =>
      rw [← Nat.not_le, length_ofNat, Nat.length_toDigits_le_iff (by decide) (by omega)]
      exact Nat.lt_irrefl _
  omega

/-- A number is read from its digits if they are not too many. -/
theorem toWhole_ofNat {n : Nat} (h : n < 10 ^ digitLimit) : (ofNat n).toWhole = .ok n := by
  rw [toWhole, takeWhile_isDecimalDigit_ofNat,
    if_neg (Nat.not_lt.2 ((length_ofNat_le_iff n).2 h)), toNat?_ofNat]

theorem toWhole_ofNat_of_le {n : Nat} (h : 10 ^ digitLimit ≤ n) :
    (ofNat n).toWhole = .error (.tooLong (ofNat n).length) := by
  have hlong : digitLimit < (ofNat n).length := by
    rw [← Nat.not_le, length_ofNat_le_iff]
    exact Nat.not_lt.2 h
  rw [toWhole, takeWhile_isDecimalDigit_ofNat, if_pos hlong]

/-- A number is written unless its digits are too many. -/
theorem ofWhole_natCast {n : Nat} (h : n < 10 ^ digitLimit) : ofWhole n = .ok (ofNat n) :=
  if_neg (Nat.not_lt.2 ((length_ofNat_le_iff n).2 h))

theorem ofWhole_natCast_of_le {n : Nat} (h : 10 ^ digitLimit ≤ n) :
    ofWhole n = .error ⟨⟩ := by
  rw [ofWhole, Int.natAbs_natCast, if_pos]
  rw [← Nat.not_le, length_ofNat_le_iff]
  exact Nat.not_lt.2 h

theorem toNat?_eq_some {s : Text} {n : Nat} (h : s.toNat? = some n) :
    s ≠ [] ∧ s.foldl (readDigit 10 decimalValue?) (some 0) = some n := by
  have hne : s ≠ [] := by
    rintro rfl
    cases h
  exact ⟨hne, by rwa [toNat?_eq_foldl hne] at h⟩

/-- A text writes a number in decimal digits if it has nothing else. -/
theorem exists_toNat?_iff (s : Text) :
    (∃ n, s.toNat? = some n) ↔ s ≠ [] ∧ ∀ c ∈ s, isDecimalDigit c = true := by
  constructor
  · rintro ⟨n, hn⟩
    obtain ⟨hne, hread⟩ := toNat?_eq_some hn
    exact ⟨hne, isSome_of_foldl_readDigit s hread⟩
  · rintro ⟨hne, hdigits⟩
    rw [toNat?_eq_foldl hne]
    exact exists_foldl_readDigit s hdigits 0

/-- What writes a number has digits only. -/
theorem isDigits_of_toNat? {s : Text} {n : Nat} (h : s.toNat? = some n) : s.isDigits = true := by
  obtain ⟨hne, hdigits⟩ := (exists_toNat?_iff s).1 ⟨n, h⟩
  simp only [isDigits, Bool.and_eq_true, Bool.not_eq_true', List.isEmpty_eq_false_iff,
    List.all_eq_true]
  exact ⟨hne, fun c hc => by rw [isDigit, hdigits c hc, Bool.true_or]⟩

/-- A number is read from digits exactly if they are decimal digits and not too many. -/
theorem toWhole_eq_ok_iff (s : Text) (n : Nat) :
    s.toWhole = .ok n ↔ s.toNat? = some n ∧ s.length ≤ digitLimit := by
  have hleading : ∀ {m}, s.toNat? = some m → s.takeWhile isDecimalDigit = s := fun hm =>
    List.takeWhile_eq_self_iff.2 ((exists_toNat?_iff s).1 ⟨_, hm⟩).2
  generalize hlimit : digitLimit = limit
  rw [toWhole, hlimit]
  constructor
  · intro h
    split at h
    · cases h
    · next hshort =>
      split at h
      · next hread =>
        cases h
        rw [hleading hread] at hshort
        exact ⟨hread, Nat.not_lt.1 hshort⟩
      · cases h
  · rintro ⟨hread, hshort⟩
    rw [hleading hread, if_neg (Nat.not_lt.2 hshort), hread]

/-- Decimal digits write a number unless they are too many. -/
theorem toWhole_of_digits {s : Text} (hne : s ≠ [])
    (hdigits : ∀ c ∈ s, isDecimalDigit c = true) :
    (∃ n, s.toWhole = .ok n) ∧ s.length ≤ digitLimit
      ∨ s.toWhole = .error (.tooLong s.length) ∧ digitLimit < s.length := by
  rcases Nat.lt_or_ge digitLimit s.length with hlong | hshort
  · refine Or.inr ⟨?_, hlong⟩
    rw [toWhole, List.takeWhile_eq_self_iff.2 hdigits, if_pos hlong]
  · obtain ⟨n, hn⟩ := (exists_toNat?_iff s).2 ⟨hne, hdigits⟩
    exact Or.inl ⟨⟨n, (toWhole_eq_ok_iff s n).2 ⟨hn, hshort⟩⟩, hshort⟩

/-- A number that is read is bounded by the most digits that it is read from. -/
theorem lt_of_toWhole {s : Text} {n : Nat} (h : s.toWhole = .ok n) : n < 10 ^ digitLimit := by
  obtain ⟨hread, hshort⟩ := (toWhole_eq_ok_iff s n).1 h
  have hbound := lt_of_foldl_readDigit
    (fun _ _ hd => Nat.lt_succ_of_le (decimalValue?_le hd)) s (toNat?_eq_some hread).2
  rw [Nat.zero_add, Nat.one_mul] at hbound
  generalize digitLimit = limit at hshort ⊢
  exact Nat.lt_of_lt_of_le hbound (Nat.pow_le_pow_right (by decide) hshort)

/-! ## Hexadecimal digits -/

theorem hexValue?_digitChar : ∀ d < 16, hexValue? (char (Nat.digitChar d)) = some d := by
  decide

/-- Hexadecimal digits are read as the number that they write, whatever width they fill. -/
theorem foldl_readDigit_hexDigits (width n : Nat) :
    (hexDigits width n).foldl (readDigit 16 hexValue?) (some 0) = some n := by
  rw [hexDigits, padZeros, List.foldl_append, foldl_readDigit_zeros (by decide)]
  exact foldl_readDigit_toDigits (by decide) hexValue?_digitChar n

theorem toNat_of_isHexDigit {c : CodePoint} (h : isHexDigit c = true) :
    0x30 ≤ c.toNat ∧ c.toNat ≤ 0x66 := by
  unfold isHexDigit hexValue? at h
  simp only [CodePoint.le_iff, CodePoint.toNat_char, Char.reduceToNat] at h
  split at h
  · omega
  · split at h
    · omega
    · split at h
      · omega
      · cases h

theorem isHexDigit_of_mem_hexDigits {width n : Nat} {c : CodePoint} (h : c ∈ hexDigits width n) :
    isHexDigit c = true := isSome_of_foldl_readDigit _ (foldl_readDigit_hexDigits width n) c h

/-- Numbers are told apart by their hexadecimal digits. -/
theorem hexDigits_injective (width : Nat) {m n : Nat} (h : hexDigits width m = hexDigits width n) :
    m = n := by
  have hread := foldl_readDigit_hexDigits width m
  rw [h, foldl_readDigit_hexDigits] at hread
  exact (Option.some.inj hread).symm

/-- A number that the width has room for fills it. -/
theorem length_hexDigits {width n : Nat} (hwidth : 0 < width) (h : n < 16 ^ width) :
    (hexDigits width n).length = width := by
  have hle : (Nat.toDigits 16 n).length ≤ width :=
    (Nat.length_toDigits_le_iff (by decide) hwidth).2 h
  rw [hexDigits, padZeros, List.length_append, List.length_replicate, length_ofChars]
  omega

/-! ### Small letters -/

/-- Whether a character is a hexadecimal digit, and no capital letter. -/
def isSmallHexDigit (c : CodePoint) : Bool := isHexDigit c && c.toLower == c

/-- A digit that is no capital letter is the one that its value is written with. -/
theorem eq_digitChar {c : CodePoint} {d : Nat} (hsmall : isSmallHexDigit c = true)
    (hvalue : hexValue? c = some d) : d < 16 ∧ c = char (Nat.digitChar d) := by
  have hall : ∀ n < 0x67, isSmallHexDigit (CodePoint.ofNat n) = true → ∃ d < 16,
      hexValue? (CodePoint.ofNat n) = some d ∧ CodePoint.ofNat n = char (Nat.digitChar d) := by
    decide +kernel
  have hbound := (toNat_of_isHexDigit (Option.isSome_of_eq_some hvalue)).2
  have hchar := hall c.toNat (by omega)
  rw [CodePoint.ofNat_toNat] at hchar
  obtain ⟨d', hd', hread, heq⟩ := hchar hsmall
  obtain rfl : d' = d := Option.some.inj (hread.symm.trans hvalue)
  exact ⟨hd', heq⟩

/-- The digits of a number hold no capital letter. -/
theorem isSmallHexDigit_of_mem_hexDigits {width n : Nat} {c : CodePoint}
    (h : c ∈ hexDigits width n) : isSmallHexDigit c = true := by
  have hdigits : ∀ n : Nat, ∀ c ∈ Nat.toDigits 16 n, isSmallHexDigit (char c) = true := by
    have hdigit : ∀ d < 16, isSmallHexDigit (char (Nat.digitChar d)) = true := by decide
    intro n
    induction n using Nat.strongRecOn with
    | ind n ih =>
      rw [Nat.toDigits_eq_if (by decide)]
      split
      · next hlt => simpa using hdigit n hlt
      · next hlarge =>
        intro c hc
        rcases List.mem_append.1 hc with hc | hc
        · exact ih (n / 16) (Nat.div_lt_self (by omega) (by decide)) c hc
        · rw [List.mem_singleton.1 hc]
          exact hdigit _ (Nat.mod_lt n (by decide))
  rcases List.mem_append.1 h with hzero | hdigit
  · rw [List.eq_of_mem_replicate hzero]
    decide
  · obtain ⟨d, hd, rfl⟩ := List.mem_map.1 hdigit
    exact hdigits n d hd

/-- A number that is read from digits is made of the last one and what those before it give. -/
theorem exists_of_foldl_readDigit_concat {init : Text} {last : CodePoint} {n : Nat}
    (h : (init ++ [last]).foldl (readDigit 16 hexValue?) (some 0) = some n) :
    ∃ m d, init.foldl (readDigit 16 hexValue?) (some 0) = some m ∧ hexValue? last = some d
      ∧ 16 * m + d = n := by
  rw [List.foldl_append, List.foldl_cons, List.foldl_nil, readDigit] at h
  obtain ⟨m, hm, h⟩ := Option.bind_eq_some_iff.1 h
  obtain ⟨d, hd, h⟩ := Option.map_eq_some_iff.1 h
  exact ⟨m, d, hm, hd, h⟩

/-- **Of equally many digits without capital letters only one text writes a number.** -/
theorem eq_of_foldl_readDigit {s t : Text} {n : Nat} (hlength : s.length = t.length)
    (hs : ∀ c ∈ s, isSmallHexDigit c = true) (ht : ∀ c ∈ t, isSmallHexDigit c = true)
    (hread : s.foldl (readDigit 16 hexValue?) (some 0) = some n)
    (hread' : t.foldl (readDigit 16 hexValue?) (some 0) = some n) : s = t := by
  induction s using List.reverseRecOn generalizing t n with
  | nil => exact (List.length_eq_zero_iff.1 hlength.symm).symm
  | append_singleton init last ih =>
    cases t using List.reverseRecOn with
    | nil => simp at hlength
    | append_singleton init' last' =>
      obtain ⟨m, d, hm, hd, hn⟩ := exists_of_foldl_readDigit_concat hread
      obtain ⟨m', d', hm', hd', hn'⟩ := exists_of_foldl_readDigit_concat hread'
      -- the last digit is the remainder, and those before it write the quotient
      obtain ⟨hlt, hlast⟩ := eq_digitChar (hs last (by simp)) hd
      obtain ⟨hlt', hlast'⟩ := eq_digitChar (ht last' (by simp)) hd'
      obtain rfl : d = d' := by omega
      obtain rfl : m = m' := by omega
      rw [hlast, hlast', ih (by simpa using hlength) (fun c hc => hs c (List.mem_append_left _ hc))
        (fun c hc => ht c (List.mem_append_left _ hc)) hm hm']

end Text

end CompileTrace
