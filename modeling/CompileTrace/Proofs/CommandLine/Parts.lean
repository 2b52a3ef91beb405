import CompileTrace.Proofs.CommandLine.Quoting

set_option autoImplicit false

/-! # Reading on after a part of a line

A part of a command line that can be read by itself leaves reading between two tokens or in the
text of one. What follows it then decides alone what becomes of the line. A blank ends the token
that may be under way, so that the rest is read as if it were a line of its own
(`arguments_append_blank`). A quote opens a region, and a line cannot be read exactly when such a
region is never closed (`arguments_unclosed_iff`); which quote opened it and what is reported of it
are told by the line. -/

namespace CompileTrace

namespace Reading

/-! ## Where a part that can be read leaves reading -/

/-- What a part gives is what ends in it and what could end right after it. -/
theorem exists_finish_of_tokens {reading : Reading} {s : Text} {found : List Token}
    (h : reading.tokens s = .ok found) :
    ∃ last, (reading.run s).1.finish = .ok last ∧ (reading.run s).2 ++ last = found := by
  rw [tokens_eq_run] at h
  exact exists_of_map_eq_ok h

/-- A blank ends what could end with the line. -/
theorem tokens_blank {reading : Reading} {last : List Token} (hfinish : reading.finish = .ok last)
    (blank : CodePoint) (hblank : isBlank blank = true) (rest : Text) :
    reading.tokens (blank :: rest) = (between.tokens rest).map (last ++ ·) := by
  have hquote : blank ≠ '"' := by
    rintro rfl
    exact absurd hblank (by decide)
  cases reading with
  | between =>
    cases hfinish
    rw [tokens]
    simp only [next, hblank, if_true]
    cases between.tokens rest <;> rfl
  | text seen =>
    cases hfinish
    rw [tokens]
    simp only [next, if_neg hquote, hblank, if_true]
    cases between.tokens rest <;> rfl
  | region seen content afterBackslash => cases hfinish

/-- A quote opens a region wherever the line could have ended. -/
theorem next_quote {reading : Reading} {last : List Token} (hfinish : reading.finish = .ok last) :
    ∃ seen, reading.next '"' = (region seen [] false, none) := by
  cases reading with
  | between => exact ⟨[], rfl⟩
  | text seen => exact ⟨seen, rfl⟩
  | region seen content afterBackslash => cases hfinish

/-- **After a part that can be read and a blank, the rest is read as if nothing stood before
    it.** -/
theorem tokens_append_blank {reading : Reading} {a : Text} {found : List Token}
    (ha : reading.tokens a = .ok found) (blank : CodePoint) (hblank : isBlank blank = true)
    (b : Text) :
    reading.tokens (a ++ blank :: b) = (between.tokens b).map (found ++ ·) := by
  obtain ⟨last, hfinish, rfl⟩ := exists_finish_of_tokens ha
  rw [tokens_append, tokens_blank hfinish blank hblank]
  cases between.tokens b with
  | error openRegion => rfl
  | ok later => simp [Except.map]

/-- **After a part that can be read, a quote and content in which nothing closes the region, the
    region is open.** -/
theorem tokens_append_unclosed {reading : Reading} {a : Text} {found : List Token}
    (ha : reading.tokens a = .ok found) (content : Text) (hcontent : content.QuotesEscaped) :
    reading.tokens (a ++ char '"' :: content) = .error (char '"' :: content) := by
  obtain ⟨last, hfinish, -⟩ := exists_finish_of_tokens ha
  obtain ⟨seen, hquote⟩ := next_quote hfinish
  have hopen : (reading.run a).1.tokens (char '"' :: content) = .error (char '"' :: content) := by
    rw [tokens_eq_run, run, hquote, run_region_escaped seen content hcontent]
    simp [finish, Except.map]
  rw [tokens_append, hopen]
  rfl

/-! ## Where an open region began -/

/-- A region is entered by the quote that opens it, where the line could have ended, and grows by
    one character after another. -/
theorem next_region {reading : Reading} {c : CodePoint} {seen content : Text}
    {afterBackslash : Bool}
    (h : (reading.next c).1 = region seen content afterBackslash) :
    (c = '"' ∧ content = [] ∧ ∃ last, reading.finish = .ok last)
      ∨ ∃ before wasBackslash, reading = region seen before wasBackslash
        ∧ content = c :: before := by
  cases reading with
  | between =>
    simp only [next] at h
    split_ifs at h with hblank hquote
    cases h
    exact Or.inl ⟨hquote, rfl, [], rfl⟩
  | text seen' =>
    simp only [next] at h
    split_ifs at h with hquote hblank
    cases h
    exact Or.inl ⟨hquote, rfl, _, rfl⟩
  | region seen' before wasBackslash =>
    simp only [next] at h
    split_ifs at h with hcloses
    cases h
    exact Or.inr ⟨before, wasBackslash, rfl, rfl⟩

/-- Before the quote that opened a region stands a part that can be read. -/
theorem exists_opening {s seen content : Text} {afterBackslash : Bool}
    (h : (between.run s).1 = region seen content afterBackslash) :
    ∃ before found, s = before ++ char '"' :: content.reverse
      ∧ between.tokens before = .ok found := by
  -- from the end, since the region began where its last character was read or earlier
  induction s using List.reverseRecOn generalizing content afterBackslash with
  | nil => cases h
  | append_singleton init c ih =>
    rw [run_append] at h
    rcases next_region h with ⟨rfl, rfl, last, hfinish⟩ | ⟨content', wasBackslash, hinit, rfl⟩
    · refine ⟨init, (between.run init).2 ++ last, rfl, ?_⟩
      rw [tokens_eq_run, hfinish]
      rfl
    · obtain ⟨before, found, rfl, hbefore⟩ := ih hinit
      exact ⟨before, found, by simp, hbefore⟩

/-- What is left open when a line is over is a region with all that follows its quote. -/
theorem exists_opening_of_error {s openRegion : Text} (h : between.tokens s = .error openRegion) :
    ∃ (before content : Text) (found : List Token), s = before ++ char '"' :: content
      ∧ openRegion = char '"' :: content ∧ content.QuotesEscaped
      ∧ between.tokens before = .ok found := by
  rw [tokens_eq_run, map_eq_error_iff] at h
  have hvalid := (run_valid between s trivial).1
  cases hrun : (between.run s).1 with
  | between =>
    rw [hrun] at h
    cases h
  | text seen =>
    rw [hrun] at h
    cases h
  | region seen content afterBackslash =>
    rw [hrun] at h hvalid
    cases h
    obtain ⟨before, found, hs, hbefore⟩ := exists_opening hrun
    exact ⟨before, content.reverse, found, hs, rfl, hvalid.2.1, hbefore⟩

end Reading

/-! ## Lines of two parts -/

/-- **Reading distributes over blanks**: after arguments that can be read and a blank come the
    arguments of the rest, and if the rest cannot be read the line fails in the same words. -/
theorem arguments_append_blank (keepQuotes : Bool) (a b : Text) (blank : CodePoint)
    (hblank : isBlank blank = true) (args : List Text) (ha : arguments keepQuotes a = .ok args) :
    (∀ later, arguments keepQuotes b = .ok later →
        arguments keepQuotes (a ++ blank :: b) = .ok (args ++ later))
      ∧ ∀ fault, arguments keepQuotes b = .error fault →
        ∃ fault', arguments keepQuotes (a ++ blank :: b) = .error fault'
          ∧ fault'.message = fault.message ∧ fault'.commandLine = a ++ blank :: b := by
  obtain ⟨found, htokens, rfl⟩ := arguments_eq_ok_iff.1 ha
  have hline := Reading.tokens_append_blank (tokenize_eq_ok_iff.1 htokens) blank hblank b
  constructor
  · intro later hb
    obtain ⟨found', htokens', rfl⟩ := arguments_eq_ok_iff.1 hb
    rw [tokenize_eq_ok_iff.1 htokens'] at hline
    rw [arguments_eq_ok_iff]
    exact ⟨found ++ found', tokenize_eq_ok_iff.2 hline, List.map_append⟩
  · intro fault hb
    obtain ⟨hregion, -⟩ := tokenize_eq_error_iff.1 (arguments_eq_error_iff.1 hb)
    rw [hregion] at hline
    refine ⟨⟨fault.region, a ++ blank :: b⟩, ?_, rfl, rfl⟩
    rw [arguments_eq_error_iff, tokenize_eq_error_iff]
    exact ⟨hline, rfl⟩

/-- A tab after text that follows a region at once, and an open region after it. -/
theorem arguments_append_blank_open :
    isBlank '\t' = true
      ∧ arguments false "/out:\"a b\"c".toText = .ok ["/out:a b".toText, "c".toText]
      ∧ arguments false "\"d\\\"".toText = .error ⟨"\"d\\\"".toText, "\"d\\\"".toText⟩
      ∧ ∃ fault,
        arguments false ("/out:\"a b\"c".toText ++ char '\t' :: "\"d\\\"".toText) = .error fault
        ∧ fault.message = UnclosedRegion.message ⟨"\"d\\\"".toText, "\"d\\\"".toText⟩ := by
  have hblank : isBlank '\t' = true := by decide
  have ha : arguments false "/out:\"a b\"c".toText = .ok ["/out:a b".toText, "c".toText] := by
    decide
  have hb : arguments false "\"d\\\"".toText
      = .error ⟨"\"d\\\"".toText, "\"d\\\"".toText⟩ := by
    decide
  obtain ⟨fault, hfault, hmessage, -⟩ :=
    (arguments_append_blank false _ _ '\t' hblank _ ha).2 _ hb
  exact ⟨hblank, ha, hb, fault, hfault, hmessage⟩

/-! ## Lines that cannot be read -/

/-- A line taken apart at a quote that nothing closes: what stands before the quote can be read, and
    behind it every quote stands right after a backslash. -/
structure OpensAt (keepQuotes : Bool) (commandLine before content : Text) : Prop where
  line : commandLine = before ++ char '"' :: content
  readable : ∃ args, arguments keepQuotes before = .ok args
  escaped : content.QuotesEscaped

theorem OpensAt.arguments_eq_error {keepQuotes : Bool} {commandLine before content : Text}
    (h : OpensAt keepQuotes commandLine before content) :
    arguments keepQuotes commandLine = .error ⟨char '"' :: content, commandLine⟩ := by
  obtain ⟨hline, ⟨args, hargs⟩, hescaped⟩ := h
  obtain ⟨found, htokens, -⟩ := arguments_eq_ok_iff.1 hargs
  rw [arguments_eq_error_iff, tokenize_eq_error_iff, hline]
  exact ⟨Reading.tokens_append_unclosed (tokenize_eq_ok_iff.1 htokens) content hescaped, rfl⟩

theorem exists_opensAt {keepQuotes : Bool} {commandLine : Text} {fault : UnclosedRegion}
    (h : arguments keepQuotes commandLine = .error fault) :
    ∃ before content, OpensAt keepQuotes commandLine before content := by
  obtain ⟨hregion, -⟩ := tokenize_eq_error_iff.1 (arguments_eq_error_iff.1 h)
  obtain ⟨before, content, found, hline, -, hescaped, hbefore⟩ :=
    Reading.exists_opening_of_error hregion
  have hargs : arguments keepQuotes before = .ok (found.map (Token.argument keepQuotes)) :=
    arguments_eq_ok_iff.2 ⟨found, tokenize_eq_ok_iff.2 hbefore, rfl⟩
  exact ⟨before, content, hline, ⟨_, hargs⟩, hescaped⟩

/-- **A line cannot be read exactly when it has a quote that nothing closes after a part that can
    be read.** There is only one such quote; the fault quotes the line from there on, and names the
    whole line. -/
theorem arguments_unclosed_iff (keepQuotes : Bool) (commandLine : Text) :
    ((∃ fault, arguments keepQuotes commandLine = .error fault)
        ↔ ∃ before content, OpensAt keepQuotes commandLine before content)
      ∧ ∀ before content, OpensAt keepQuotes commandLine before content →
        (∀ before' content', OpensAt keepQuotes commandLine before' content' →
          before' = before ∧ content' = content)
        ∧ ∃ fault, arguments keepQuotes commandLine = .error fault
          ∧ fault.message = "Invalid string `" ++ (char '"' :: content)
            ++ "` non terminated by a closing `\"`"
          ∧ fault.commandLine = commandLine := by
  refine ⟨⟨?_, ?_⟩, ?_⟩
  · rintro ⟨fault, hfault⟩
    exact exists_opensAt hfault
  · rintro ⟨before, content, hopens⟩
    exact ⟨_, hopens.arguments_eq_error⟩
  · intro before content hopens
    refine ⟨?_, ⟨char '"' :: content, commandLine⟩, hopens.arguments_eq_error, rfl, rfl⟩
    intro before' content' hopens'
    -- both splits are reported, and there is one report
    have hreport := hopens'.arguments_eq_error.symm.trans hopens.arguments_eq_error
    simp only [Except.error.injEq, UnclosedRegion.mk.injEq, List.cons.injEq, true_and,
      and_true] at hreport
    subst hreport
    exact ⟨List.append_cancel_right (hopens'.line.symm.trans hopens.line), rfl⟩

/-- A closed region before, and an escaped quote in the open one. -/
theorem arguments_unclosed_iff_escaped :
    let before : Text := "\"a\" b".toText
    let content : Text := "c\\\" d".toText
    OpensAt true (before ++ char '"' :: content) before content
      ∧ ∃ fault, arguments true (before ++ char '"' :: content) = .error fault
        ∧ fault.message = "Invalid string `" ++ (char '"' :: content)
          ++ "` non terminated by a closing `\"`" := by
  intro before content
  have hopens : OpensAt true (before ++ char '"' :: content) before content := by
    refine ⟨rfl, ⟨["\"a\"".toText, "b".toText], by decide⟩, ?_⟩
    exact Text.quotesEscaped_escapeQuotes "c\" d".toText
  obtain ⟨-, fault, hfault, hmessage, -⟩ := (arguments_unclosed_iff true _).2 _ _ hopens
  exact ⟨hopens, fault, hfault, hmessage⟩

end CompileTrace
