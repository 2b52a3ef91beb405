import CompileTrace.CommandLine.Token
import CompileTrace.Proofs.Traversal
import Mathlib.Data.List.Induction

set_option autoImplicit false

/-! # Reading command lines part by part

`Reading.run` reads a part of a line: where reading stands after it, and the tokens that end in it.
Reading two parts in turn is reading them as one (`run_append`), and reading a whole line is a run
that has to finish (`tokens_eq_run`).

What a line gives is told apart from how it is read. A token is *well formed* when its text is
plain, its region is one that closes where it ends, and it has a text or a region. Reading finds
well-formed tokens only (`tokenize_wellFormed`), and finds every one of them again in how it is
recorded (`tokenize_join_raw`). -/

namespace CompileTrace

/-! ## Regions and well-formed tokens -/

/-- Whether a character stands for itself outside quotes. -/
def isPlain (c : CodePoint) : Bool := !isBlank c && c != '"'

theorem isPlain_iff (c : CodePoint) : isPlain c = true ↔ isBlank c = false ∧ c ≠ '"' := by
  simp [isPlain]

/-- Every double quote of the text stands right after a backslash. -/
def Text.QuotesEscaped (s : Text) : Prop :=
  ∀ before after : Text, s = before ++ char '"' :: after → before.getLast? = some (char '\\')

namespace Text

theorem quotesEscaped_nil : QuotesEscaped [] := by
  intro before after h
  simp at h

theorem quotesEscaped_concat (s : Text) (c : CodePoint) :
    QuotesEscaped (s ++ [c]) ↔ QuotesEscaped s ∧ (c = '"' → s.getLast? = some (char '\\')) := by
  constructor
  · intro h
    refine ⟨fun before after hs => h before (after ++ [c]) (by simp [hs]), ?_⟩
    rintro rfl
    exact h s [] rfl
  · rintro ⟨hs, hc⟩ before after heq
    rcases List.eq_nil_or_concat after with rfl | ⟨init, last, rfl⟩
    · obtain ⟨rfl, hlast⟩ := List.append_inj' heq rfl
      exact hc (by simpa using hlast)
    · rw [List.concat_eq_append, ← List.cons_append, ← List.append_assoc] at heq
      exact hs before init (List.append_inj' heq rfl).1

end Text

/-- A token as reading finds them: plain text, then nothing or a region that closes exactly where
    it ends. -/
structure Token.WellFormed (token : Token) : Prop where
  plain : ∀ c ∈ token.text, isPlain c = true
  nonempty : token.region? = none → token.text ≠ []
  escaped : ∀ content ∈ token.region?, content.QuotesEscaped
  closed : ∀ content ∈ token.region?, content.getLast? ≠ some (char '\\')

namespace Reading

/-! ## Runs -/

/-- Reads a part of a line: where reading stands after it, and the tokens that end in it. -/
def run (reading : Reading) : Text → Reading × List Token
  | [] => (reading, [])
  | c :: rest =>
    let step := reading.next c
    let later := step.1.run rest
    (later.1, step.2.toList ++ later.2)

theorem run_append (reading : Reading) (a b : Text) :
    reading.run (a ++ b)
      = (((reading.run a).1.run b).1, (reading.run a).2 ++ ((reading.run a).1.run b).2) := by
  induction a generalizing reading with
  | nil => rfl
  | cons c rest ih => simp only [List.cons_append, run, ih, List.append_assoc]

/-- The tokens of a line are what its first character ends and those of the rest. -/
theorem tokens_cons (reading : Reading) (c : CodePoint) (rest : Text) :
    reading.tokens (c :: rest)
      = ((reading.next c).1.tokens rest).map ((reading.next c).2.toList ++ ·) := by
  rw [tokens]
  rcases reading.next c with ⟨after, _ | token⟩
  · simp only [Option.toList_none, List.nil_append]
    cases after.tokens rest <;> rfl
  · simp only [Option.toList_some]
    cases after.tokens rest <;> rfl

/-- Reading a line is a run over it that has to finish. -/
theorem tokens_eq_run (reading : Reading) (s : Text) :
    reading.tokens s = (reading.run s).1.finish.map ((reading.run s).2 ++ ·) := by
  induction s generalizing reading with
  | nil =>
    simp only [tokens, run]
    cases reading.finish <;> rfl
  | cons c rest ih =>
    rw [tokens_cons, run, ih]
    cases ((reading.next c).1.run rest).1.finish <;> simp [Except.map]

/-- What a line gives from a part on comes after what the part gave. -/
theorem tokens_append (reading : Reading) (a b : Text) :
    reading.tokens (a ++ b)
      = ((reading.run a).1.tokens b).map ((reading.run a).2 ++ ·) := by
  rw [tokens_eq_run, tokens_eq_run, run_append]
  cases ((reading.run a).1.run b).1.finish with
  | error openRegion => rfl
  | ok last => simp [Except.map]

/-! ## What reading finds -/

/-- Where reading can stand: what has been read of a token is the beginning of a well-formed one,
    and in a region the last character is known. -/
def Valid : Reading → Prop
  | between => True
  | text seen => seen ≠ [] ∧ ∀ c ∈ seen, isPlain c = true
  | region seen content afterBackslash =>
    (∀ c ∈ seen, isPlain c = true) ∧ Text.QuotesEscaped content.reverse
      ∧ (afterBackslash = true ↔ content.head? = some (char '\\'))

/-- One character keeps reading valid, and a token that it ends is well formed. -/
theorem next_valid (reading : Reading) (c : CodePoint) (h : reading.Valid) :
    (reading.next c).1.Valid ∧ ∀ token ∈ (reading.next c).2, token.WellFormed := by
  cases reading with
  | between =>
    simp only [next]
    split
    · exact ⟨trivial, by simp⟩
    · split
      · exact ⟨⟨by simp, Text.quotesEscaped_nil, by simp⟩, by simp⟩
      · next hblank hquote =>
        refine ⟨⟨by simp, ?_⟩, by simp⟩
        intro d hd
        rw [List.mem_singleton] at hd
        rw [hd, isPlain_iff]
        exact ⟨by simpa using hblank, hquote⟩
  | text seen =>
    obtain ⟨hne, hplain⟩ := h
    simp only [next]
    split
    · exact ⟨⟨hplain, Text.quotesEscaped_nil, by simp⟩, by simp⟩
    · split
      · refine ⟨trivial, ?_⟩
        rintro token ⟨⟩
        exact ⟨by simpa using hplain, by simpa using hne, by simp, by simp⟩
      · next hquote hblank =>
        refine ⟨⟨by simp, ?_⟩, by simp⟩
        intro d hd
        rcases List.mem_cons.1 hd with rfl | hd
        · rw [isPlain_iff]
          exact ⟨by simpa using hblank, hquote⟩
        · exact hplain d hd
  | region seen content afterBackslash =>
    obtain ⟨hplain, hescaped, hlast⟩ := h
    simp only [next]
    split
    · next hcloses =>
      refine ⟨trivial, ?_⟩
      rintro token ⟨⟩
      refine ⟨by simpa using hplain, by simp, by simpa using hescaped, ?_⟩
      rintro _ ⟨⟩
      rw [List.getLast?_reverse]
      exact fun hhead => hcloses.2 (hlast.2 hhead)
    · next hstays =>
      refine ⟨⟨hplain, ?_, by simp⟩, by simp⟩
      rw [List.reverse_cons, Text.quotesEscaped_concat]
      refine ⟨hescaped, fun hc => ?_⟩
      rw [List.getLast?_reverse, ← hlast]
      by_cases hb : afterBackslash = true
      · exact hb
      · exact absurd ⟨hc, hb⟩ hstays

/-- A run keeps reading valid and finds well-formed tokens only. -/
theorem run_valid (reading : Reading) (s : Text) (h : reading.Valid) :
    (reading.run s).1.Valid ∧ ∀ token ∈ (reading.run s).2, token.WellFormed := by
  induction s generalizing reading with
  | nil => exact ⟨h, by simp [run]⟩
  | cons c rest ih =>
    obtain ⟨hvalid, htoken⟩ := next_valid reading c h
    obtain ⟨hlast, hfound⟩ := ih (reading.next c).1 hvalid
    refine ⟨hlast, fun token ht => ?_⟩
    rcases List.mem_append.1 ht with ht | ht
    · exact htoken token (Option.mem_toList.1 ht)
    · exact hfound token ht

/-- What is left when a line is over is well formed. -/
theorem finish_wellFormed (reading : Reading) (found : List Token) (h : reading.Valid)
    (hfinish : reading.finish = .ok found) : ∀ token ∈ found, token.WellFormed := by
  cases reading with
  | between =>
    cases hfinish
    simp
  | text seen =>
    cases hfinish
    intro token ht
    rw [List.mem_singleton] at ht
    subst ht
    exact ⟨by simpa using h.2, by simpa using h.1, by simp, by simp⟩
  | region seen content afterBackslash => cases hfinish

/-! ## Finding what was recorded -/

/-- Plain characters stay in the text of a token. -/
theorem run_text_plain (seen s : Text) (hs : ∀ c ∈ s, isPlain c = true) :
    (text seen).run s = (text (s.reverse ++ seen), []) := by
  induction s generalizing seen with
  | nil => rfl
  | cons c rest ih =>
    obtain ⟨hblank, hquote⟩ := (isPlain_iff c).1 (hs c List.mem_cons_self)
    have hstep : (text seen).next c = (text (c :: seen), none) := by
      simp [next, hquote, hblank]
    rw [run, hstep, ih (c :: seen) (fun d hd => hs d (List.mem_cons_of_mem _ hd))]
    simp

/-- Plain characters begin a token. -/
theorem run_between_plain (s : Text) (hne : s ≠ []) (hs : ∀ c ∈ s, isPlain c = true) :
    between.run s = (text s.reverse, []) := by
  cases s with
  | nil => exact absurd rfl hne
  | cons c rest =>
    obtain ⟨hblank, hquote⟩ := (isPlain_iff c).1 (hs c List.mem_cons_self)
    have hstep : between.next c = (text [c], none) := by
      simp [next, hquote, hblank]
    rw [run, hstep, run_text_plain [c] rest (fun d hd => hs d (List.mem_cons_of_mem _ hd))]
    simp

/-- A region stays open over content whose quotes all stand right after backslashes. -/
theorem run_region_escaped (seen content : Text) (h : content.QuotesEscaped) :
    (region seen [] false).run content
      = (region seen content.reverse (decide (content.getLast? = some (char '\\'))), []) := by
  -- from the end, since the last character alone tells whether a quote may follow
  induction content using List.reverseRecOn with
  | nil => rfl
  | append_singleton init c ih =>
    obtain ⟨hinit, hc⟩ := (Text.quotesEscaped_concat init c).1 h
    have hstays : ¬ (c = '"' ∧ ¬ decide (init.getLast? = some (char '\\')) = true) := by
      rintro ⟨hquote, hlast⟩
      exact hlast (decide_eq_true (hc hquote))
    rw [run_append, ih hinit]
    simp only [run, next, if_neg hstays]
    simp

/-- The region of a token closes where its content ends. -/
theorem run_region_closed (seen content : Text) (h : content.QuotesEscaped)
    (hlast : content.getLast? ≠ some (char '\\')) :
    (region seen [] false).run (content ++ [char '"'])
      = (between, [⟨seen.reverse, some content⟩]) := by
  rw [run_append, run_region_escaped seen content h]
  simp [run, next, hlast]

/-- **A well-formed token is found in how it is recorded**, at once if it has a region and else
    when it is over. -/
theorem run_raw (token : Token) (h : token.WellFormed) :
    between.run token.raw
      = match token.region? with
        | none => (text token.text.reverse, [])
        | some _ => (between, [token]) := by
  obtain ⟨s, _ | content⟩ := token
  · exact run_between_plain s (h.nonempty rfl) h.plain
  · have hopen : between.run (s ++ [char '"']) = (region s.reverse [] false, []) := by
      by_cases hs : s = []
      · subst hs
        rfl
      · rw [run_append, run_between_plain s hs h.plain]
        simp [run, next]
    have hraw : Token.raw ⟨s, some content⟩ = (s ++ [char '"']) ++ (content ++ [char '"']) := by
      simp [Token.raw]
    rw [hraw, run_append, hopen,
      run_region_closed s.reverse content (h.escaped _ rfl) (h.closed _ rfl)]
    simp

/-- A blank after a token ends it if it is not over yet. -/
theorem run_raw_blank (token : Token) (h : token.WellFormed) (blank : CodePoint)
    (hblank : isBlank blank = true) :
    between.run (token.raw ++ [blank]) = (between, [token]) := by
  have hquote : blank ≠ '"' := by
    rintro rfl
    exact absurd hblank (by decide)
  rw [run_append, run_raw token h]
  obtain ⟨s, _ | content⟩ := token
  · simp [run, next, hquote, hblank]
  · simp [run, next, hblank]

/-- At the end of a line a token is over. -/
theorem tokens_raw (token : Token) (h : token.WellFormed) :
    between.tokens token.raw = .ok [token] := by
  rw [tokens_eq_run, run_raw token h]
  obtain ⟨s, _ | content⟩ := token
  · simp [finish, Except.map]
  · simp [finish, Except.map]

end Reading

/-! ## Whole lines -/

/-- **Every token that a line gives is well formed.** -/
theorem tokenize_wellFormed (commandLine : Text) (found : List Token)
    (h : tokenize commandLine = .ok found) : ∀ token ∈ found, token.WellFormed := by
  obtain ⟨hvalid, hfound⟩ := Reading.run_valid .between commandLine trivial
  rw [tokenize, Reading.tokens_eq_run] at h
  cases hfinish : (Reading.between.run commandLine).1.finish with
  | error openRegion => simp [hfinish, Except.map] at h
  | ok last =>
    have hlast := Reading.finish_wellFormed _ last hvalid hfinish
    simp only [hfinish, Except.map, Except.ok.injEq] at h
    subst h
    intro token ht
    rcases List.mem_append.1 ht with ht | ht
    · exact hfound token ht
    · exact hlast token ht

/-- **Well-formed tokens recorded with a blank between each two are read back.** -/
theorem tokenize_join_raw (found : List Token) (h : ∀ token ∈ found, token.WellFormed) :
    tokenize (Text.join [char ' '] (found.map Token.raw)) = .ok found := by
  have htokens :
      Reading.between.tokens (Text.join [char ' '] (found.map Token.raw)) = .ok found := by
    induction found with
    | nil => rfl
    | cons token rest ih =>
      have htoken := h token List.mem_cons_self
      cases rest with
      | nil => simpa [Text.join, List.intercalate] using Reading.tokens_raw token htoken
      | cons next rest' =>
        have hrest := ih (fun t ht => h t (List.mem_cons_of_mem _ ht))
        have hline : Text.join [char ' '] ((token :: next :: rest').map Token.raw)
            = (token.raw ++ [char ' '])
              ++ Text.join [char ' '] ((next :: rest').map Token.raw) := by
          simp [Text.join, List.intercalate]
        rw [hline, Reading.tokens_append, Reading.run_raw_blank token htoken ' ' (by decide),
          hrest]
        rfl
  rw [tokenize, htokens]

/-! ## Arguments -/

/-- The argument that a token gives, as it was recorded or as what it stands for. -/
def Token.argument (keepQuotes : Bool) : Token → Text :=
  if keepQuotes then Token.raw else Token.value

theorem tokenize_eq_ok_iff {commandLine : Text} {found : List Token} :
    tokenize commandLine = .ok found ↔ Reading.between.tokens commandLine = .ok found := by
  rw [tokenize]
  cases Reading.between.tokens commandLine with
  | error region => simp
  | ok found' => simp

theorem tokenize_eq_error_iff {commandLine : Text} {fault : UnclosedRegion} :
    tokenize commandLine = .error fault
      ↔ Reading.between.tokens commandLine = .error fault.region
        ∧ fault.commandLine = commandLine := by
  obtain ⟨region, line⟩ := fault
  rw [tokenize]
  cases Reading.between.tokens commandLine with
  | error region' => simp [eq_comm]
  | ok found => simp

theorem arguments_eq_ok_iff {keepQuotes : Bool} {commandLine : Text} {args : List Text} :
    arguments keepQuotes commandLine = .ok args
      ↔ ∃ found, tokenize commandLine = .ok found
        ∧ found.map (Token.argument keepQuotes) = args := by
  rw [arguments]
  cases tokenize commandLine with
  | error fault => simp [Except.map]
  | ok found => simp [Except.map, Token.argument]

/-- Both ways of reading fail as cutting the line into tokens does. -/
theorem arguments_eq_error_iff {keepQuotes : Bool} {commandLine : Text} {fault : UnclosedRegion} :
    arguments keepQuotes commandLine = .error fault ↔ tokenize commandLine = .error fault :=
  map_eq_error_iff

end CompileTrace
