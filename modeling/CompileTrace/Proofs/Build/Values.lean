import CompileTrace.Build.Request
import CompileTrace.Proofs.CommandLine.Modes
import CompileTrace.Proofs.CommandLine.Parts

set_option autoImplicit false

/-! # Values on a recorded command line

The value of a switch is escaped for the build tool, and a recorded command line is read in a way of
its own. Outside quotes a backslash protects nothing there: a value is given back if it stands in
quotes and does not take the closing one for its own, or if it needs no quotes and has none
(`Survives`). In every other value a quote is left that nothing closes (`arguments_escapeValue`), so
that a value is never given back as another one. -/

namespace CompileTrace

/-- Whether a value is given back: one that stands in quotes for a blank or a colon in it must not
    end in a backslash, and any other must not have quotes. -/
def Survives (value : Text) : Prop :=
  ((∃ c ∈ value, isBlank c = true ∨ c = ':') ∧ value.getLast? ≠ some (char '\\'))
    ∨ ∀ c ∈ value, isBlank c = false ∧ c ≠ ':' ∧ c ≠ '"'

-- the characters of the value alone are looked at, and not all characters there are
instance (value : Text) : Decidable (Survives value) :=
  @instDecidableOr _ _ (@instDecidableAnd _ _ (List.decidableBEx _ value) inferInstance)
    (List.decidableBAll _ value)

section

variable {keepQuotes : Bool} {lead value content : Text}

/-! ## Single tokens -/

/-- Plain text is one argument. -/
theorem arguments_plain (hplain : ∀ c ∈ lead, isPlain c = true) (hne : lead ≠ []) :
    arguments keepQuotes lead = .ok [lead] := by
  have hwell : Token.WellFormed ⟨lead, none⟩ := ⟨hplain, fun _ => hne, by simp, by simp⟩
  cases keepQuotes with
  | true => exact arguments_raw true _ hwell
  | false => exact arguments_raw false _ hwell

/-- Plain text and a region that closes are one argument. -/
theorem arguments_closed (hplain : ∀ c ∈ lead, isPlain c = true) (hescaped : content.QuotesEscaped)
    (hlast : content.getLast? ≠ some (char '\\')) :
    arguments false (lead ++ char '"' :: content ++ [char '"'])
      = .ok [lead ++ content.unescapeQuotes] := by
  have hwell : Token.WellFormed ⟨lead, some content⟩ :=
    ⟨hplain, by simp, by simpa using hescaped, by simpa using hlast⟩
  exact arguments_raw false _ hwell

/-- A line is quoted from its first quote on if a region is open from there. -/
theorem arguments_opened (hplain : ∀ c ∈ lead, isPlain c = true) (hne : lead ≠ [])
    (hescaped : content.QuotesEscaped) :
    arguments keepQuotes (lead ++ char '"' :: content)
      = .error ⟨(lead ++ char '"' :: content).dropWhile (· ≠ char '"'),
          lead ++ char '"' :: content⟩ := by
  have hopens : OpensAt keepQuotes (lead ++ char '"' :: content) lead content :=
    ⟨rfl, ⟨[lead], arguments_plain hplain hne⟩, hescaped⟩
  have hquote : ∀ c ∈ lead, decide (c ≠ '"') = true := by
    intro c hc
    exact decide_eq_true ((isPlain_iff c).1 (hplain c hc)).2
  rw [hopens.arguments_eq_error, List.dropWhile_append_of_pos hquote]
  simp

/-! ## Escaped values -/

theorem needsQuotes_iff (value : Text) :
    needsQuotes value = true ↔ ∃ c ∈ value, isBlank c = true ∨ c = ':' := by
  simp [needsQuotes]

theorem isPlain_of_needsQuotes_eq_false (h : needsQuotes value = false)
    (hquote : char '"' ∉ value) :
    ∀ c ∈ value, isPlain c = true := by
  intro c hc
  rw [isPlain_iff]
  constructor
  · by_contra hblank
    have hneeds := (needsQuotes_iff value).2 ⟨c, hc, Or.inl (by simpa using hblank)⟩
    rw [h] at hneeds
    cases hneeds
  · rintro rfl
    exact hquote hc

/-- What survives is told by whether the value stands in quotes. -/
theorem survives_iff (value : Text) :
    Survives value
      ↔ if needsQuotes value = true then value.getLast? ≠ some (char '\\')
        else char '"' ∉ value := by
  unfold Survives
  rw [← needsQuotes_iff]
  split
  · next hneeds =>
    obtain ⟨c, hc, hsplits⟩ := (needsQuotes_iff value).1 hneeds
    simp only [hneeds, true_and, or_iff_left_iff_imp]
    intro hall
    rcases hsplits with hblank | hcolon
    · rw [(hall c hc).1] at hblank
      cases hblank
    · exact absurd hcolon (hall c hc).2.1
  · next hbare =>
    simp only [hbare, Bool.false_eq_true, false_and, false_or]
    constructor
    · intro hall hquote
      exact (hall '"' hquote).2.2 rfl
    · intro hquote c hc
      have hplain := isPlain_of_needsQuotes_eq_false (by simpa using hbare) hquote c hc
      refine ⟨((isPlain_iff c).1 hplain).1, ?_, ?_⟩
      · rintro rfl
        exact hbare ((needsQuotes_iff value).2 ⟨':', hc, Or.inr rfl⟩)
      · rintro rfl
        exact hquote hc

/-- **An escaped value after plain text is given back with the text, or leaves a quote open**, by
    whether it survives. -/
theorem arguments_escapeValue (hplain : ∀ c ∈ lead, isPlain c = true) (hne : lead ≠ [])
    (value : Text) :
    arguments false (lead ++ escapeValue value)
      = if Survives value then .ok [lead ++ value]
        else .error ⟨(lead ++ escapeValue value).dropWhile (· ≠ char '"'),
          lead ++ escapeValue value⟩ := by
  rw [if_congr (survives_iff value) rfl rfl]
  have hescaped := Text.quotesEscaped_escapeQuotes value
  unfold escapeValue
  cases hneeds : needsQuotes value with
  | true =>
    simp only [if_true]
    split
    · next hlast =>
      rw [← Text.getLast?_escapeQuotes] at hlast
      have hread := arguments_closed hplain hescaped hlast
      rwa [Text.unescapeQuotes_escapeQuotes, List.append_assoc] at hread
    · next hlast =>
      -- the backslash at the end takes the closing quote into the region
      have hopen : (value.escapeQuotes ++ [char '"']).QuotesEscaped := by
        rw [Text.quotesEscaped_concat, Text.getLast?_escapeQuotes]
        exact ⟨hescaped, fun _ => by simpa using hlast⟩
      exact arguments_opened hplain hne hopen
  | false =>
    simp only [Bool.false_eq_true, if_false]
    split
    · next hquote =>
      rw [Text.escapeQuotes_eq_self value hquote]
      refine arguments_plain ?_ (by simp [hne])
      intro c hc
      rcases List.mem_append.1 hc with hc | hc
      · exact hplain c hc
      · exact isPlain_of_needsQuotes_eq_false hneeds hquote c hc
    · next hquote =>
      obtain ⟨first, rest, rfl, hfirst⟩ := List.eq_append_cons_of_mem (not_not.1 hquote)
      have hbare : ∀ c ∈ first, isPlain c = true := by
        refine isPlain_of_needsQuotes_eq_false ?_ hfirst
        simp only [needsQuotes, List.any_append, Bool.or_eq_false_iff] at hneeds
        exact hneeds.1
      have hline : lead ++ Text.escapeQuotes (first ++ char '"' :: rest)
          = (lead ++ first ++ [char '\\']) ++ char '"' :: Text.escapeQuotes rest := by
        rw [Text.escapeQuotes_append, Text.escapeQuotes_eq_self first hfirst,
          Text.escapeQuotes_cons]
        simp
      rw [hline]
      -- outside quotes the backslash does not protect the quote, which opens a region
      refine arguments_opened ?_ (by simp [hne]) (Text.quotesEscaped_escapeQuotes rest)
      intro c hc
      simp only [List.mem_append, List.mem_singleton] at hc
      rcases hc with (hc | hc) | rfl
      · exact hplain c hc
      · exact hbare c hc
      · decide

end

/-! ## Settings of properties -/

/-- What a name is made of is plain. -/
theorem isPlain_of_isNamePart {c : CodePoint} (h : isNamePart c = true) : isPlain c = true := by
  have hcode : 0x2D ≤ c.toNat ∧ c.toNat ≤ 0x7A := by
    simp only [isNamePart, Bool.or_eq_true, beq_iff_eq] at h
    rcases h with ((h | rfl) | rfl) | rfl
    · have hbounds := CodePoint.toNat_of_isAlphanum h
      omega
    · decide
    · decide
    · decide
  rw [isPlain_iff]
  constructor
  · simp only [isBlank, blankRanges, inRanges, List.any_cons, List.any_nil, Bool.or_false,
      Bool.or_eq_false_iff, Bool.and_eq_false_iff, decide_eq_false_iff_not]
    omega
  · rintro rfl
    exact absurd hcode.1 (by decide)

/-- **A setting is given back exactly if its value survives**, and if not the line cannot be
    read. -/
theorem arguments_propertyArgument (name value : Text)
    (hname : ∀ c ∈ name, isNamePart c = true) :
    (arguments false (propertyArgument (name, value)) = .ok ["/p:" ++ name ++ "=" ++ value]
        ↔ Survives value)
      ∧ (¬ Survives value → arguments false (propertyArgument (name, value))
        = .error ⟨(propertyArgument (name, value)).dropWhile (· ≠ char '"'),
            propertyArgument (name, value)⟩) := by
  have hswitch : ∀ c ∈ ("/p:" : Text), isPlain c = true := List.all_eq_true.1 (by decide)
  have hequals : ∀ c ∈ ("=" : Text), isPlain c = true := List.all_eq_true.1 (by decide)
  have hplain : ∀ c ∈ ("/p:" : Text) ++ name ++ "=", isPlain c = true := by
    intro c hc
    simp only [List.mem_append] at hc
    rcases hc with (hc | hc) | hc
    · exact hswitch c hc
    · exact isPlain_of_isNamePart (hname c hc)
    · exact hequals c hc
  have hread := arguments_escapeValue hplain (by simp) value
  show (arguments false (("/p:" : Text) ++ name ++ "=" ++ escapeValue value) = _ ↔ _)
    ∧ (_ → arguments false (("/p:" : Text) ++ name ++ "=" ++ escapeValue value) = _)
  constructor
  · constructor
    · intro hok
      by_contra hlost
      rw [hread, if_neg hlost] at hok
      cases hok
    · intro hsurvives
      rw [hread, if_pos hsurvives]
  · intro hlost
    rw [hread, if_neg hlost]
    rfl

/-- A value in quotes with quotes of its own, and backslashes before them and a blank at its end. -/
theorem arguments_propertyArgument_quoted :
    let name : Text := "My.Define-2"
    let value : Text := "C:\\\"a b\\\" "
    (∀ c ∈ name, isNamePart c = true) ∧ Survives value
      ∧ arguments false (propertyArgument (name, value)) = .ok ["/p:" ++ name ++ "=" ++ value] := by
  intro name value
  have hname : ∀ c ∈ name, isNamePart c = true := List.all_eq_true.1 (by decide)
  have hsurvives : Survives value := by decide
  exact ⟨hname, hsurvives, (arguments_propertyArgument name value hname).1.2 hsurvives⟩

end CompileTrace
