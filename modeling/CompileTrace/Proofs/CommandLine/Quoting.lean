import CompileTrace.Proofs.CommandLine.Reading
import CompileTrace.Proofs.Traversal

set_option autoImplicit false

/-! # Writing arguments on a command line

Which lists of arguments a command line can give, and a line that gives them. Quotes protect blanks,
and a backslash before a quote protects the quote, but nothing protects a backslash at the end of a
quoted argument: it would take the closing quote into the argument. So an argument that ends in a
backslash has to be written bare, and must be plain. That is the only limit (`arguments_range`). -/

namespace CompileTrace

namespace Text

/-! ## Escaping quotes -/

theorem unescapeQuotes_cons (c : CodePoint) (s : Text)
    (h : ¬ (c = '\\' ∧ s.head? = some (char '"'))) :
    unescapeQuotes (c :: s) = c :: unescapeQuotes s := by
  rw [unescapeQuotes.eq_3]
  rintro rest rfl rfl
  exact h ⟨rfl, rfl⟩

theorem head?_escapeQuotes (s : Text) : (escapeQuotes s).head? ≠ some (char '"') := by
  cases s with
  | nil => simp [escapeQuotes]
  | cons c rest =>
    rw [escapeQuotes_cons]
    by_cases hc : c = '"'
    · simp [hc]
    · simp [hc]

/-- Escaping is undone exactly. -/
theorem unescapeQuotes_escapeQuotes (s : Text) : unescapeQuotes (escapeQuotes s) = s := by
  induction s with
  | nil => rfl
  | cons c rest ih =>
    rw [escapeQuotes_cons]
    by_cases hc : c = '"'
    · simp [hc, unescapeQuotes, ih]
    · rw [if_neg hc, List.singleton_append,
        unescapeQuotes_cons c _ (fun h => head?_escapeQuotes rest h.2), ih]

/-- Taking escapes away keeps the last character. -/
theorem getLast?_unescapeQuotes (s : Text) : (unescapeQuotes s).getLast? = s.getLast? := by
  fun_induction unescapeQuotes s with
  | case1 => rfl
  | case2 rest ih => simp only [List.getLast?_cons, ih, Option.getD_some]
  | case3 c rest _ ih => simp only [List.getLast?_cons, ih]

theorem escapeQuotes_append (a b : Text) :
    escapeQuotes (a ++ b) = escapeQuotes a ++ escapeQuotes b := by
  simp [escapeQuotes]

/-- Text without quotes needs no escapes. -/
theorem escapeQuotes_eq_self (s : Text) (h : char '"' ∉ s) : escapeQuotes s = s := by
  induction s with
  | nil => rfl
  | cons c rest ih =>
    rw [List.mem_cons, not_or] at h
    rw [escapeQuotes_cons, if_neg (fun hc => h.1 hc.symm), ih h.2, List.singleton_append]

/-- Text without quotes has no escapes. -/
theorem unescapeQuotes_eq_self (s : Text) (h : char '"' ∉ s) : unescapeQuotes s = s := by
  have hround := unescapeQuotes_escapeQuotes s
  rwa [escapeQuotes_eq_self s h] at hround

theorem dropEnclosingQuotes_eq_self (s : Text) (h : s.head? ≠ some (char '"')) :
    dropEnclosingQuotes s = s := by
  cases s with
  | nil => rfl
  | cons c rest =>
    have hc : c ≠ '"' := fun heq => h (congrArg some heq)
    simp [dropEnclosingQuotes, hc]

theorem dropEnclosingQuotes_enclosed (s : Text) :
    dropEnclosingQuotes (char '"' :: (s ++ [char '"'])) = s := by
  simp [dropEnclosingQuotes]

/-- Text without quotes stands for itself. -/
theorem unquote_eq_self (s : Text) (h : char '"' ∉ s) : unquote s = s := by
  have hhead : s.head? ≠ some (char '"') := fun heq => h (List.mem_of_head? heq)
  rw [unquote, dropEnclosingQuotes_eq_self s hhead, unescapeQuotes_eq_self s h]

/-- In escaped text every quote stands right after a backslash. -/
theorem quotesEscaped_escapeQuotes (s : Text) : QuotesEscaped (escapeQuotes s) := by
  induction s using List.reverseRecOn with
  | nil => exact quotesEscaped_nil
  | append_singleton init c ih =>
    rw [escapeQuotes_append]
    by_cases hc : c = '"'
    · have hwritten : escapeQuotes init ++ escapeQuotes [c]
          = (escapeQuotes init ++ [char '\\']) ++ [char '"'] := by
        simp [escapeQuotes, hc]
      rw [hwritten, quotesEscaped_concat, quotesEscaped_concat]
      exact ⟨⟨ih, by simp⟩, by simp⟩
    · have hwritten : escapeQuotes [c] = [c] := by simp [escapeQuotes, hc]
      rw [hwritten, quotesEscaped_concat]
      exact ⟨ih, fun h => absurd h hc⟩

/-- Escaping keeps the last character. -/
theorem getLast?_escapeQuotes (s : Text) : (escapeQuotes s).getLast? = s.getLast? := by
  rw [← getLast?_unescapeQuotes, unescapeQuotes_escapeQuotes]

end Text

/-! ## Arguments and how they are written -/

/-- Whether a text can be an argument: one that ends in a backslash can be written bare only. -/
def IsArgument (t : Text) : Prop :=
  t.getLast? ≠ some (char '\\') ∨ ∀ c ∈ t, isBlank c = false ∧ c ≠ '"'

-- the characters of the text alone are looked at, and not all characters there are
instance (t : Text) : Decidable (IsArgument t) :=
  @instDecidableOr _ _ inferInstance (List.decidableBAll _ t)

/-- An argument as it is written: in quotes, with a backslash before each quote inside; bare if it
    ends in a backslash. -/
def writeArgument (t : Text) : Text :=
  if t.getLast? = some (char '\\') then t else char '"' :: t.escapeQuotes ++ [char '"']

/-- A command line of some arguments. -/
def writeArguments (args : List Text) : Text := Text.join [char ' '] (args.map writeArgument)

/-- The token that an argument is written as. -/
def Token.ofArgument (t : Text) : Token :=
  if t.getLast? = some (char '\\') then ⟨t, none⟩ else ⟨[], some t.escapeQuotes⟩

namespace Token

theorem raw_ofArgument (t : Text) : (ofArgument t).raw = writeArgument t := by
  unfold ofArgument writeArgument
  split <;> rfl

theorem value_ofArgument (t : Text) : (ofArgument t).value = t := by
  unfold ofArgument
  split
  · rfl
  · exact Text.unescapeQuotes_escapeQuotes t

theorem wellFormed_ofArgument (t : Text) (h : IsArgument t) : (ofArgument t).WellFormed := by
  unfold ofArgument
  split
  · next hlast =>
    have hplain := h.resolve_left (fun hne => hne hlast)
    refine ⟨fun c hc => (isPlain_iff c).2 (hplain c hc), fun _ => ?_, by simp, by simp⟩
    rintro rfl
    simp at hlast
  · next hlast =>
    refine ⟨by simp, by simp, ?_, ?_⟩
    · rintro _ ⟨⟩
      exact Text.quotesEscaped_escapeQuotes t
    · rintro _ ⟨⟩
      rwa [Text.getLast?_escapeQuotes]

/-- A well-formed token stands for an argument. -/
theorem WellFormed.isArgument_value {token : Token} (h : token.WellFormed) :
    IsArgument token.value := by
  obtain ⟨s, _ | content⟩ := token
  · exact Or.inr (fun c hc => (isPlain_iff c).1 (h.plain c hc))
  · have hvalue : value ⟨s, some content⟩ = s ++ content.unescapeQuotes := rfl
    rw [hvalue]
    by_cases hcontent : content = []
    · -- an empty region ends the token without adding to its plain text
      subst hcontent
      rw [Text.unescapeQuotes, List.append_nil]
      exact Or.inr (fun c hc => (isPlain_iff c).1 (h.plain c hc))
    · refine Or.inl ?_
      rw [List.getLast?_append, Text.getLast?_unescapeQuotes]
      cases hlast : content.getLast? with
      | none => exact absurd (List.getLast?_eq_none_iff.1 hlast) hcontent
      | some c =>
        rw [Option.some_or, ← hlast]
        exact h.closed content rfl

end Token

/-! ## The range of reading -/

theorem arguments_values (commandLine : Text) :
    arguments false commandLine = (tokenize commandLine).map (·.map Token.value) := rfl

/-- What a line gives are arguments. -/
theorem isArgument_of_arguments {commandLine : Text} {args : List Text}
    (h : arguments false commandLine = .ok args) : ∀ t ∈ args, IsArgument t := by
  rw [arguments_values] at h
  obtain ⟨found, htokens, rfl⟩ := exists_of_map_eq_ok h
  intro t ht
  obtain ⟨token, htoken, rfl⟩ := List.mem_map.1 ht
  exact (tokenize_wellFormed commandLine found htokens token htoken).isArgument_value

/-- Written arguments are read back. -/
theorem arguments_writeArguments (args : List Text) (h : ∀ t ∈ args, IsArgument t) :
    arguments false (writeArguments args) = .ok args := by
  have hline : writeArguments args
      = Text.join [char ' '] ((args.map Token.ofArgument).map Token.raw) := by
    rw [writeArguments, List.map_map]
    congr 1
    exact List.map_congr_left (fun t _ => (Token.raw_ofArgument t).symm)
  have htokens : tokenize (writeArguments args) = .ok (args.map Token.ofArgument) := by
    rw [hline]
    refine tokenize_join_raw _ (fun token htoken => ?_)
    obtain ⟨t, ht, rfl⟩ := List.mem_map.1 htoken
    exact Token.wellFormed_ofArgument t (h t ht)
  rw [arguments_values, htokens]
  simp [Except.map, Function.comp_def, Token.value_ofArgument]

/-- **Command lines give exactly the lists whose members either do not end in a backslash or are
    plain**, and the line that quotes the former and has the latter bare gives them. -/
theorem arguments_range (args : List Text) :
    ((∃ commandLine, arguments false commandLine = .ok args) ↔ ∀ t ∈ args, IsArgument t)
      ∧ ((∀ t ∈ args, IsArgument t) → arguments false (writeArguments args) = .ok args) :=
  ⟨⟨fun ⟨_, h⟩ => isArgument_of_arguments h, fun h => ⟨_, arguments_writeArguments args h⟩⟩,
    arguments_writeArguments args⟩

/-- Blanks, a backslash before a quote, nothing at all, and a backslash at the end. -/
theorem arguments_range_mixed :
    let args : List Text := ["a \\\"b\"".toText, [], "src\\".toText]
    (∀ t ∈ args, IsArgument t) ∧ arguments false (writeArguments args) = .ok args :=
  ⟨by decide, (arguments_range _).2 (by decide)⟩

end CompileTrace
