import CompileTrace.Text.LetterCase
import Mathlib.Tactic.SplitIfs

set_option autoImplicit false

/-! # Texts in lower case

Each character of a text gives some characters of its lower case, and what is around it matters for
a capital sigma only (`mem_lower_iff`). So what comes before all letters stands in the lower case
exactly if it stands in the text (`mem_lower`), and a sign at the end of a word changes nothing
before it (`lower_concat`). ASCII is lowered character by character (`lower_of_ascii`), and neither
form of an `i` that is not ASCII becomes a plain one (`dotless_mem_lower`, `dot_mem_lower`). -/

namespace CompileTrace

/-! ## What stands after a text -/

/-- What is neither a letter nor passed over when one looks for a letter makes no difference at the
    end of a text. -/
theorem meetsCased_concat {c : CodePoint} (hignored : inRanges caseIgnorableRanges c = false)
    (hcased : inRanges casedRanges c = false) (s : Text) :
    meetsCased (s ++ [c]) = meetsCased s := by
  induction s with
  | nil => simp [meetsCased, hignored, hcased]
  | cons d rest ih =>
    by_cases hd : inRanges caseIgnorableRanges d = true
    · simpa [meetsCased, hd] using ih
    · simp [meetsCased, hd]

namespace Text

theorem lowerAfter_concat {c : CodePoint} (hignored : inRanges caseIgnorableRanges c = false)
    (hcased : inRanges casedRanges c = false) (before s : Text) :
    lowerAfter before (s ++ [c]) = lowerAfter before s ++ lowerChar (s.reverse ++ before) c [] := by
  induction s generalizing before with
  | nil => simp [lowerAfter]
  | cons d rest ih =>
    have hd : lowerChar before d (rest ++ [c]) = lowerChar before d rest := by
      simp only [lowerChar, meetsCased_concat hignored hcased]
    simp [lowerAfter, hd, ih]

/-- A sign at the end of a text stays as it is, and so does what stands before it. -/
theorem lower_concat {c : CodePoint} (hc : c = '+' ∨ c = '-') (s : Text) :
    lower (s ++ [c]) = lower s ++ [c] := by
  have hsign : inRanges caseIgnorableRanges c = false ∧ inRanges casedRanges c = false
      ∧ ∀ before, lowerChar before c [] = [c] := by
    rcases hc with rfl | rfl
    · exact ⟨by decide +kernel, by decide +kernel, fun _ => rfl⟩
    · exact ⟨by decide +kernel, by decide +kernel, fun _ => rfl⟩
  obtain ⟨hignored, hcased, hself⟩ := hsign
  rw [lower, lowerAfter_concat hignored hcased, hself]
  rfl

/-! ## What stands in a text -/

theorem mem_lowerAfter_iff (c : CodePoint) (seen s : Text) :
    c ∈ lowerAfter seen s
      ↔ ∃ before d after, s = before ++ d :: after
        ∧ c ∈ lowerChar (before.reverse ++ seen) d after := by
  induction s generalizing seen with
  | nil => simp [lowerAfter]
  | cons e rest ih =>
    rw [lowerAfter, List.mem_append, ih]
    constructor
    · rintro (hc | ⟨before, d, after, rfl, hc⟩)
      · exact ⟨[], e, rest, rfl, hc⟩
      · exact ⟨e :: before, d, after, rfl, by simpa using hc⟩
    · rintro ⟨before, d, after, hs, hc⟩
      cases before with
      | nil =>
        cases hs
        exact Or.inl hc
      | cons b before' =>
        cases hs
        exact Or.inr ⟨before', d, after, rfl, by simpa using hc⟩

/-- **What stands in the lower case of a text comes from one of its characters.** -/
theorem mem_lower_iff (c : CodePoint) (s : Text) :
    c ∈ lower s
      ↔ ∃ before d after, s = before ++ d :: after ∧ c ∈ lowerChar before.reverse d after := by
  simpa [lower] using mem_lowerAfter_iff c [] s

theorem lower_eq_nil_iff (s : Text) : lower s = [] ↔ s = [] := by
  constructor
  · intro h
    cases s with
    | nil => rfl
    | cons c rest =>
      have hne : lowerChar [] c rest ≠ [] := by
        unfold lowerChar
        split_ifs <;> simp
      rw [lower, lowerAfter, List.append_eq_nil_iff] at h
      exact absurd h.1 hne
  · rintro rfl
    rfl

end Text

/-! ## Letters and what comes before them -/

/-- The small letter of what is not ASCII is a letter too, or lies above all of ASCII. -/
theorem le_toNat_smallLetter {c : CodePoint} (h : 0x80 ≤ c.toNat) :
    0x61 ≤ (smallLetter c).toNat := by
  unfold smallLetter
  split
  · next run hrun =>
    have hholds := List.find?_some hrun
    simp only [CapitalRun.holds, Bool.and_eq_true, decide_eq_true_eq] at hholds
    -- the letters of a run all lie at one distance, so that its ends are looked at
    have htable : ∀ run ∈ capitalRuns, 0x80 ≤ run.last → 0x61 ≤ run.first + run.shift
        ∧ run.last + run.shift < 0x110000 := by
      decide +kernel
    obtain ⟨hlow, hhigh⟩ := htable run (List.mem_of_find?_eq_some hrun) (by omega)
    rw [CodePoint.toNat_ofNat (by omega)]
    omega
  · omega

theorem toNat_toLower (c : CodePoint) :
    c.toLower.toNat = if 0x41 ≤ c.toNat ∧ c.toNat ≤ 0x5A then c.toNat + 32 else c.toNat := by
  cases c with
  | half h =>
    have hgap : ¬((CodePoint.half h).toNat ≤ 0x5A) := by
      rw [CodePoint.toNat_half]
      omega
    rw [if_neg (fun hcapital => hgap hcapital.2)]
    rfl
  | char c =>
    show c.toLower.toNat = if 0x41 ≤ c.toNat ∧ c.toNat ≤ 0x5A then c.toNat + 32 else c.toNat
    unfold Char.toLower
    simp only [ge_iff_le, UInt32.le_iff_toNat_le, Char.toNat_val]
    split
    · next h =>
      have hcapital : 0x41 ≤ c.toNat ∧ c.toNat ≤ 0x5A := h
      rw [if_pos hcapital]
      show (c.toNat + 32) % 2 ^ 32 = c.toNat + 32
      omega
    · next h => exact (if_neg h).symm

theorem toLower_eq_iff {c d : CodePoint} (hc : c.toNat < 0x41) : d.toLower = c ↔ d = c := by
  have hlow := toNat_toLower d
  simp only [← CodePoint.toNat_inj]
  split_ifs at hlow
  · omega
  · omega

namespace Text

/-- What is not ASCII becomes nothing that comes before the letters. -/
theorem le_toNat_of_mem_lowerChar {c d : CodePoint} {before after : Text} (hd : 0x80 ≤ d.toNat)
    (hc : c ∈ lowerChar before d after) : 0x61 ≤ c.toNat := by
  rw [lowerChar, if_neg (Nat.not_lt.2 hd)] at hc
  split_ifs at hc
  · simp only [List.mem_singleton] at hc
    simp [hc]
  · simp only [List.mem_singleton] at hc
    simp [hc]
  · simp only [List.mem_cons, List.not_mem_nil, or_false] at hc
    rcases hc with rfl | rfl
    · decide
    · decide
  · rw [List.mem_singleton] at hc
    rw [hc]
    exact le_toNat_smallLetter hd

/-- **What comes before all letters stands in the lower case of a text exactly if it stands in the
    text.** -/
theorem mem_lower {c : CodePoint} (hc : c.toNat < 0x41) (s : Text) : c ∈ lower s ↔ c ∈ s := by
  have hchar : ∀ before d after, c ∈ lowerChar before d after ↔ d = c := by
    intro before d after
    by_cases hd : d.toNat < 0x80
    · rw [lowerChar, if_pos hd, List.mem_singleton, eq_comm, toLower_eq_iff hc]
    · constructor
      · intro hmem
        have := le_toNat_of_mem_lowerChar (Nat.not_lt.1 hd) hmem
        omega
      · rintro rfl
        omega
  rw [mem_lower_iff]
  constructor
  · rintro ⟨before, d, after, rfl, hd⟩
    rw [(hchar _ _ _).1 hd]
    simp
  · intro hmem
    obtain ⟨before, after, rfl⟩ := List.append_of_mem hmem
    exact ⟨before, c, after, rfl, (hchar _ _ _).2 rfl⟩

/-! ## Plain letters and others -/

theorem lower_of_ascii {s : Text} (h : ∀ c ∈ s, c.toNat < 0x80) :
    lower s = s.map CodePoint.toLower := by
  have hafter : ∀ seen, lowerAfter seen s = s.map CodePoint.toLower := by
    induction s with
    | nil =>
      intro seen
      rfl
    | cons c rest ih =>
      intro seen
      rw [List.forall_mem_cons] at h
      rw [lowerAfter, ih h.2, lowerChar, if_pos h.1, List.map_cons, List.singleton_append]
  exact hafter []

/-- A dotless `i` is a small letter. -/
theorem dotless_mem_lower {s : Text} (h : char 'ı' ∈ s) : char 'ı' ∈ lower s := by
  have hself : smallLetter 'ı' = 'ı' := by decide +kernel
  obtain ⟨before, after, rfl⟩ := List.append_of_mem h
  refine (mem_lower_iff _ _).2 ⟨before, 'ı', after, rfl, ?_⟩
  simp [lowerChar, hself]

/-- A capital `I` with a dot keeps the dot. -/
theorem dot_mem_lower {s : Text} (h : char 'İ' ∈ s) : char '\u0307' ∈ lower s := by
  obtain ⟨before, after, rfl⟩ := List.append_of_mem h
  refine (mem_lower_iff _ _).2 ⟨before, 'İ', after, rfl, ?_⟩
  simp [lowerChar]

end Text

end CompileTrace
