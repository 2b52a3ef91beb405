import CompileTrace.Compiler.Switch
import CompileTrace.Proofs.Text.Fields

set_option autoImplicit false

/-! # Switches and how they are spelled

A switch is told from other arguments by its first character and, after a slash, by there being no
second slash before any colon. Its name ends at the first colon. So an argument that is spelled as a
switch is one under conditions on its name alone (`split?_spell`). -/

namespace CompileTrace.Switch

/-- A switch as it is spelled: its name with its sign, and its value after a colon if it has one. -/
def spell (lead : CodePoint) (name : Text) : Option Text → Text
  | none => lead :: name
  | some value => lead :: (name ++ char ':' :: value)

theorem cut_append {name : Text} (h : char ':' ∉ name) (value : Text) :
    cut (name ++ char ':' :: value) = (name, some value) := by
  rw [cut, Text.cutAt?_append ':' name value h]

/-- What is a switch, told by its lead and by what stands before the first colon. -/
theorem split?_cons_cons (lead c : CodePoint) (rest : Text) :
    split? (lead :: c :: rest)
      = if (lead = '/' ∨ lead = '-') ∧ (lead = '/' → char '/' ∉ (cut (c :: rest)).1)
        then some ((cut (c :: rest)).1.lower, (cut (c :: rest)).2) else none := by
  simp only [split?]
  by_cases hhyphen : lead = '-'
  · simp [hhyphen]
  · by_cases hslash : lead = '/'
    · by_cases hmem : char '/' ∈ (cut (c :: rest)).1
      · simp [hslash, hmem]
      · simp [hslash, hmem]
    · simp [hhyphen, hslash]

/-- A second slash before any colon makes an argument a path. -/
theorem split?_path (before after : Text) (h : char ':' ∉ before) :
    split? (char '/' :: (before ++ char '/' :: after)) = none := by
  have hslash : char '/' ∈ (cut (before ++ char '/' :: after)).1 := by
    by_cases hcolon : char ':' ∈ after
    · obtain ⟨first, rest, rfl, hfirst⟩ := List.eq_append_cons_of_mem hcolon
      have hbefore : char ':' ∉ before ++ char '/' :: first := by simp [h, hfirst]
      have hcut := cut_append hbefore rest
      rw [List.append_assoc, List.cons_append] at hcut
      simp [hcut]
    · have hcut := Text.cutAt?_eq_none ':' (before ++ char '/' :: after) (by simp [h, hcolon])
      simp [cut, hcut]
  cases hbody : before ++ char '/' :: after with
  | nil => simp at hbody
  | cons c rest =>
    rw [hbody] at hslash
    rw [split?_cons_cons, if_neg (fun hpath => hpath.2 rfl hslash)]

variable {lead : CodePoint} {name : Text} {value? : Option Text}

/-- **What is spelled as a switch is one**, unless there is a slash in its name and another before
    it, or there is neither a name nor a value. -/
theorem split?_spell (hcolon : char ':' ∉ name) :
    split? (spell lead name value?)
      = if ((lead = '/' ∨ lead = '-') ∧ (lead = '/' → char '/' ∉ name))
            ∧ (name = [] → value?.isSome)
        then some (name.lower, value?) else none := by
  cases value? with
  | none =>
    cases name with
    | nil => simp [spell, split?]
    | cons c rest =>
      have hcut : cut (c :: rest) = (c :: rest, none) := by
        rw [cut, Text.cutAt?_eq_none ':' _ hcolon]
      simp [spell, split?_cons_cons, hcut]
  | some value =>
    have hcut := cut_append hcolon value
    obtain ⟨c, rest, hbody⟩ := List.exists_cons_of_ne_nil
      (show name ++ char ':' :: value ≠ [] by simp)
    rw [hbody] at hcut
    simp [spell, hbody, split?_cons_cons, hcut]

/-- The value of a switch comes after its first colon. -/
theorem split?_valued (name value : Text) (hlead : lead = '/' ∨ lead = '-')
    (hcolon : char ':' ∉ name) (hslash : lead = '/' → char '/' ∉ name) :
    split? (lead :: (name ++ char ':' :: value)) = some (name.lower, some value) := by
  have hspell := @split?_spell lead name (some value) hcolon
  rwa [if_pos ⟨⟨hlead, hslash⟩, by simp⟩] at hspell

/-- A switch with a hyphen for its slash is read as it was. -/
theorem split?_hyphen {body : Text} (h : split? (char '/' :: body) ≠ none) :
    split? (char '-' :: body) = split? (char '/' :: body) := by
  cases body with
  | nil => exact absurd rfl h
  | cons c rest =>
    rw [split?_cons_cons] at h
    split_ifs at h with hslash
    · rw [split?_cons_cons, split?_cons_cons, if_pos hslash, if_pos ⟨Or.inr rfl, nofun⟩]
    · exact absurd rfl h

end CompileTrace.Switch
