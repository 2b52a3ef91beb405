import CompileTrace.CommandLine.Executable
import CompileTrace.Proofs.CommandLine.Layout
import CompileTrace.Proofs.CommandLine.Modes
import CompileTrace.Proofs.CommandLine.Parts

set_option autoImplicit false

/-! # Arguments after the executable

The first option of a line is told by a slash after a space, wherever these two stand, and the line
is cut between them. Outside of quotes the space ends an argument, so that the cut drops whole
arguments. In a quoted region it leaves half an argument behind, and what it leaves is never the end
of the arguments on the line: no argument that could be cut off has as many *solid* characters,
those which reading always keeps, as stand before the cut. So dropping the executable drops leading
arguments only exactly when what it drops can be read by itself (`dropExecutable_suffix_iff`). -/

namespace CompileTrace

/-! ## Where a line is cut -/

/-- The first slash after a space, with what stands before the space and what follows the slash. -/
structure FirstOptionAt (commandLine before rest : Text) : Prop where
  line : commandLine = before ++ char ' ' :: char '/' :: rest
  first : ¬ [char ' ', char '/'] <:+: before

theorem fromFirstOption?_append (executable rest : Text)
    (h : ¬ [char ' ', char '/'] <:+: executable) :
    fromFirstOption? (executable ++ char ' ' :: char '/' :: rest) = some (char '/' :: rest) := by
  induction executable with
  | nil => rfl
  | cons c executable' ih =>
    have hlater : ¬ [char ' ', char '/'] <:+: executable' := by
      intro hin
      exact h (hin.trans (List.suffix_cons c executable').isInfix)
    rw [List.cons_append, fromFirstOption?.eq_3, ih hlater]
    intro after hc hafter
    -- the slash after a space would stand in the executable, or be the space before the option
    cases executable' with
    | nil => simp at hafter
    | cons d executable'' =>
      simp only [List.cons_append, List.cons.injEq] at hafter
      rw [hc, hafter.1] at h
      exact h ⟨[], executable'', rfl⟩

/-- An executable in whose text no slash stands after a space is dropped as a whole. -/
theorem dropExecutable_append (executable rest : Text)
    (h : ¬ [char ' ', char '/'] <:+: executable) :
    dropExecutable (executable ++ char ' ' :: char '/' :: rest) = char '/' :: rest := by
  rw [dropExecutable, fromFirstOption?_append executable rest h, Option.getD_some]

theorem FirstOptionAt.dropExecutable_eq {commandLine before rest : Text}
    (h : FirstOptionAt commandLine before rest) :
    dropExecutable commandLine = char '/' :: rest := by
  rw [h.line, dropExecutable_append before rest h.first]

/-- A line is cut at one place only. -/
theorem FirstOptionAt.unique {commandLine before before' rest rest' : Text}
    (h : FirstOptionAt commandLine before rest) (h' : FirstOptionAt commandLine before' rest') :
    before' = before := by
  have hrest := h'.dropExecutable_eq.symm.trans h.dropExecutable_eq
  have hline := h'.line.symm.trans h.line
  rw [hrest] at hline
  exact List.append_cancel_right hline

theorem exists_firstOptionAt {commandLine found : Text}
    (h : fromFirstOption? commandLine = some found) :
    ∃ before rest, FirstOptionAt commandLine before rest := by
  fun_induction fromFirstOption? commandLine with
  | case1 => cases h
  | case2 rest => exact ⟨[], rest, rfl, by simp⟩
  | case3 c rest hnone ih =>
    obtain ⟨before, after, hline, hfirst⟩ := ih h
    refine ⟨c :: before, after, by rw [hline, List.cons_append], ?_⟩
    intro hin
    rcases List.infix_cons_iff.1 hin with hprefix | hin
    · obtain ⟨more, hmore⟩ := hprefix
      simp only [List.cons_append, List.nil_append, List.cons.injEq] at hmore
      obtain ⟨hc, hbefore⟩ := hmore
      exact hnone (more ++ char ' ' :: char '/' :: after) hc.symm (by rw [hline, ← hbefore]; rfl)
    · exact hfirst hin

/-- A line has a first option, or it is left as it is. -/
theorem firstOptionAt_or_unchanged (commandLine : Text) :
    (∃ before rest, FirstOptionAt commandLine before rest)
      ∨ dropExecutable commandLine = commandLine := by
  cases h : fromFirstOption? commandLine with
  | some found => exact Or.inl (exists_firstOptionAt h)
  | none => exact Or.inr (by rw [dropExecutable, h, Option.getD_none])

/-! ## Solid characters -/

/-- Whether reading keeps a character wherever it stands: it is neither a blank, nor a quote, nor
    the backslash that may escape one. -/
def isSolid (c : CodePoint) : Bool := isPlain c && c != '\\'

/-- How many solid characters a text has. -/
def solids (s : Text) : Nat := s.countP isSolid

theorem solids_nil : solids [] = 0 := rfl

theorem solids_append (a b : Text) : solids (a ++ b) = solids a + solids b := List.countP_append

theorem solids_cons (c : CodePoint) (s : Text) :
    solids (c :: s) = solids s + if isSolid c then 1 else 0 := List.countP_cons

theorem isSolid_of_isBlank {c : CodePoint} (h : isBlank c = true) : isSolid c = false := by
  simp [isSolid, isPlain, h]

theorem solids_quoted (s content : Text) :
    solids (s ++ char '"' :: content) = solids s + solids content := by
  have hquote : isSolid '"' = false := by decide
  rw [solids_append, solids_cons, hquote]
  rfl

/-- Undoing escapes takes no solid character away. -/
theorem solids_unescapeQuotes (s : Text) : solids s.unescapeQuotes = solids s := by
  fun_induction Text.unescapeQuotes s with
  | case1 => rfl
  | case2 rest ih => simp [solids_cons, ih, isSolid]
  | case3 c rest _ ih => rw [solids_cons, solids_cons, ih]

theorem solids_argument (keepQuotes : Bool) (token : Token) :
    solids (token.argument keepQuotes) = solids token.raw := by
  cases keepQuotes with
  | true => rfl
  | false =>
    obtain ⟨s, _ | content⟩ := token
    · rfl
    · show solids (s ++ content.unescapeQuotes) = solids (s ++ char '"' :: content ++ [char '"'])
      rw [solids_append, solids_append, solids_quoted, solids_unescapeQuotes]
      rfl

theorem solids_flatMap_argument (keepQuotes : Bool) (found : List Token) :
    solids (found.map (Token.argument keepQuotes)).flatten = solids (found.flatMap Token.raw) := by
  induction found with
  | nil => rfl
  | cons token rest ih =>
    rw [List.map_cons, List.flatten_cons, List.flatMap_cons, solids_append, solids_append, ih,
      solids_argument]

namespace Reading

theorem pending_between : pending between = [] := rfl

/-- A run keeps all solid characters, in the tokens that it ends or in the one under way. -/
theorem run_solids (reading : Reading) (s : Text) :
    solids ((reading.run s).2.flatMap Token.raw) + solids (reading.run s).1.pending
      = solids reading.pending + solids s := by
  induction s generalizing reading with
  | nil => simp [run, solids_nil]
  | cons c rest ih =>
    have hrest := ih (reading.next c).1
    have hstep := next_step reading c
    rw [run]
    generalize reading.next c = step at *
    cases hstep with
    | skip hreading hblank =>
      subst hreading
      simpa [solids_cons, isSolid_of_isBlank hblank] using hrest
    | grow after hpending =>
      simp only [hpending, solids_append, solids_cons, solids_nil] at hrest
      simp only [solids_cons, Option.toList_none, List.nil_append]
      omega
    | blank token hblank hraw =>
      have hc := isSolid_of_isBlank hblank
      simp only [pending_between, solids_nil] at hrest
      simp only [Option.toList_some, List.singleton_append, List.flatMap_cons, solids_append,
        hraw, solids_cons, hc, Bool.false_eq_true, if_false]
      omega
    | close token hregion hraw =>
      simp only [pending_between, solids_nil] at hrest
      simp only [Option.toList_some, List.singleton_append, List.flatMap_cons, solids_append,
        hraw, solids_cons, solids_nil]
      omega

theorem finish_solids {reading : Reading} {last : List Token} (h : reading.finish = .ok last) :
    solids (last.flatMap Token.raw) = solids reading.pending := by
  cases reading with
  | between =>
    cases h
    rfl
  | text seen =>
    cases h
    simp [Token.raw, pending]
  | region seen content afterBackslash => cases h

end Reading

/-- **The arguments on a line have all its solid characters.** -/
theorem solids_arguments {keepQuotes : Bool} {commandLine : Text} {args : List Text}
    (h : arguments keepQuotes commandLine = .ok args) :
    solids args.flatten = solids commandLine := by
  obtain ⟨found, htokens, rfl⟩ := arguments_eq_ok_iff.1 h
  obtain ⟨last, hfinish, rfl⟩ := Reading.exists_finish_of_tokens (tokenize_eq_ok_iff.1 htokens)
  have hrun := Reading.run_solids .between commandLine
  have hlast := Reading.finish_solids hfinish
  rw [solids_flatMap_argument, List.flatMap_append, solids_append, hlast, hrun,
    Reading.pending_between, solids_nil, Nat.zero_add]

namespace Reading

/-! ## The token under way -/

/-- A region goes on with all that has been read of it. -/
theorem tokens_region {seen content s : Text} {afterBackslash : Bool} {found : List Token}
    (h : (region seen content afterBackslash).tokens s = .ok found) :
    ∃ more later, found = ⟨seen.reverse, some (content.reverse ++ more)⟩ :: later := by
  induction s generalizing content afterBackslash found with
  | nil => cases h
  | cons c rest ih =>
    rw [tokens_cons] at h
    obtain ⟨later, hrest, rfl⟩ := exists_of_map_eq_ok h
    simp only [next] at hrest ⊢
    split_ifs at hrest ⊢ with hcloses
    · exact ⟨[], later, by simp⟩
    · obtain ⟨more, others, rfl⟩ := ih hrest
      exact ⟨c :: more, others, by simp⟩

/-- The token under way begins with the text that has been read of it. -/
theorem tokens_text {seen s : Text} {found : List Token} (h : (text seen).tokens s = .ok found) :
    ∃ token later, found = token :: later ∧ seen.reverse <+: token.text := by
  induction s generalizing seen found with
  | nil =>
    cases h
    exact ⟨_, [], rfl, List.prefix_rfl⟩
  | cons c rest ih =>
    rw [tokens_cons] at h
    obtain ⟨later, hrest, rfl⟩ := exists_of_map_eq_ok h
    simp only [next] at hrest ⊢
    split_ifs at hrest ⊢ with hquote hblank
    · obtain ⟨more, others, rfl⟩ := tokens_region hrest
      exact ⟨_, others, rfl, List.prefix_rfl⟩
    · exact ⟨_, later, rfl, List.prefix_rfl⟩
    · obtain ⟨token, others, rfl, hprefix⟩ := ih hrest
      rw [List.reverse_cons] at hprefix
      exact ⟨token, others, rfl, (List.prefix_append _ _).trans hprefix⟩

/-- A part that cannot be read leaves reading in a region. -/
theorem exists_region_of_unreadable {s : Text} (h : ¬ ∃ found, between.tokens s = .ok found) :
    ∃ seen content afterBackslash, (between.run s).1 = region seen content afterBackslash := by
  rw [tokens_eq_run] at h
  cases hrun : (between.run s).1 with
  | between =>
    rw [hrun] at h
    exact absurd ⟨_, rfl⟩ h
  | text seen =>
    rw [hrun] at h
    exact absurd ⟨_, rfl⟩ h
  | region seen content afterBackslash => exact ⟨seen, content, afterBackslash, rfl⟩

end Reading

theorem Token.text_prefix_argument (keepQuotes : Bool) (token : Token) :
    token.text <+: token.argument keepQuotes := by
  obtain ⟨s, _ | content⟩ := token
  · cases keepQuotes <;> exact List.prefix_rfl
  · cases keepQuotes with
    | true => exact ⟨char '"' :: content ++ [char '"'], by simp [argument, raw]⟩
    | false => exact ⟨content.unescapeQuotes, by simp [argument, value]⟩

/-- The first argument of what is left after the cut begins with the slash. -/
theorem exists_cons_of_arguments_slash {keepQuotes : Bool} {rest : Text} {later : List Text}
    (h : arguments keepQuotes (char '/' :: rest) = .ok later) :
    ∃ first others, later = (char '/' :: first) :: others := by
  obtain ⟨found, htokens, rfl⟩ := arguments_eq_ok_iff.1 h
  have hslash :
      Reading.between.tokens (char '/' :: rest) = (Reading.text [char '/']).tokens rest := by
    rw [Reading.tokens]
    rfl
  have htext := tokenize_eq_ok_iff.1 htokens
  rw [hslash] at htext
  obtain ⟨token, others, rfl, hprefix⟩ := Reading.tokens_text htext
  obtain ⟨first, hfirst⟩ := hprefix.trans (token.text_prefix_argument keepQuotes)
  exact ⟨first, others.map (Token.argument keepQuotes), by rw [List.map_cons, ← hfirst]; rfl⟩

/-- The argument of a token in whose region the line is cut has a character before the slash that is
    not solid, the opening quote or the space. -/
theorem exists_argument_region (keepQuotes : Bool) (s content more : Text) :
    ∃ before c after, Token.argument keepQuotes ⟨s, some (content ++ char ' ' :: char '/' :: more)⟩
        = before ++ c :: after
      ∧ isSolid c = false ∧ solids before ≤ solids s + solids content := by
  cases keepQuotes with
  | true =>
    refine ⟨s, char '"', content ++ char ' ' :: char '/' :: more ++ [char '"'], ?_, by decide,
      Nat.le_add_right _ _⟩
    simp [Token.argument, Token.raw]
  | false =>
    refine ⟨s ++ content.unescapeQuotes, char ' ', Text.unescapeQuotes (char '/' :: more), ?_,
      by decide, ?_⟩
    · have hspace : Text.unescapeQuotes (char ' ' :: char '/' :: more)
          = char ' ' :: Text.unescapeQuotes (char '/' :: more) :=
        Text.unescapeQuotes_cons (char ' ') _ (by simp)
      have hparts := Text.unescapeQuotes_append content (char ' ' :: char '/' :: more) (by simp)
      simp [Token.argument, Token.value, hparts, hspace]
    · exact Nat.le_of_eq (by rw [solids_append, solids_unescapeQuotes])

/-- Where a line is cut in a region, the solid characters before the cut are those of the arguments
    before the one that is cut and those at its beginning. -/
theorem exists_arguments_region {keepQuotes : Bool} {before rest : Text} {args : List Text}
    (hbefore : ¬ ∃ dropped, arguments keepQuotes before = .ok dropped)
    (h : arguments keepQuotes (before ++ char ' ' :: char '/' :: rest) = .ok args) :
    ∃ whole others start c after, args = whole ++ (start ++ c :: after) :: others
      ∧ isSolid c = false ∧ solids whole.flatten + solids start ≤ solids before
      ∧ solids before < solids whole.flatten + solids (start ++ c :: after) := by
  obtain ⟨found, htokens, rfl⟩ := arguments_eq_ok_iff.1 h
  have hline := tokenize_eq_ok_iff.1 htokens
  rw [Reading.tokens_append] at hline
  obtain ⟨later, hlater, rfl⟩ := exists_of_map_eq_ok hline
  have hunreadable : ¬ ∃ found, Reading.between.tokens before = .ok found := by
    rintro ⟨found, hfound⟩
    exact hbefore ⟨_, arguments_eq_ok_iff.2 ⟨found, tokenize_eq_ok_iff.2 hfound, rfl⟩⟩
  obtain ⟨seen, content, afterBackslash, hrun⟩ := Reading.exists_region_of_unreadable hunreadable
  have hopen : (Reading.region seen content afterBackslash).tokens (char ' ' :: char '/' :: rest)
      = (Reading.region seen (char '/' :: char ' ' :: content) false).tokens rest := by
    rw [Reading.tokens]
    rfl
  rw [hrun, hopen] at hlater
  obtain ⟨more, others, rfl⟩ := Reading.tokens_region hlater
  have hcontent : (char '/' :: char ' ' :: content).reverse ++ more
      = content.reverse ++ char ' ' :: char '/' :: more := by simp
  rw [hcontent]
  obtain ⟨start, c, after, hcut, hc, hstart⟩ :=
    exists_argument_region keepQuotes seen.reverse content.reverse more
  have hkept := Reading.run_solids .between before
  rw [hrun, Reading.pending_between, solids_nil, Nat.zero_add] at hkept
  have hpending : solids (Reading.region seen content afterBackslash).pending
      = solids seen.reverse + solids content.reverse := solids_quoted _ _
  refine ⟨_, _, start, c, after, by rw [List.map_append, List.map_cons, hcut], hc, ?_, ?_⟩
  · rw [solids_flatMap_argument]
    omega
  · have hraw :
        solids (Token.raw ⟨seen.reverse, some (content.reverse ++ char ' ' :: char '/' :: more)⟩)
        = solids seen.reverse + solids content.reverse + solids (char '/' :: more) := by
      show solids (seen.reverse
        ++ char '"' :: (content.reverse ++ char ' ' :: char '/' :: more) ++ [char '"']) = _
      rw [solids_append, solids_quoted, solids_append, ← Nat.add_assoc]
      rfl
    have hslash : solids (char '/' :: more) = solids more + 1 := solids_cons '/' more
    rw [solids_flatMap_argument, ← hcut, solids_argument, hraw, hslash]
    omega

/-- An argument that begins with a slash, which is solid, does not follow the solid characters
    before the cut: the argument that is cut does not begin so, and none before it is left. -/
theorem no_argument_after_cut {front whole others others' : List Text} {first start after : Text}
    {c : CodePoint}
    (h : front ++ (char '/' :: first) :: others = whole ++ (start ++ c :: after) :: others')
    (hc : isSolid c = false) (hstart : solids whole.flatten + solids start ≤ solids front.flatten)
    (hlt : solids front.flatten < solids whole.flatten + solids (start ++ c :: after)) : False := by
  have hslash : ∀ s, solids (char '/' :: s) = solids s + 1 := solids_cons '/'
  have hcut : front = whole → start ++ c :: after ≠ char '/' :: first := by
    rintro rfl hsame
    cases start with
    | nil =>
      obtain ⟨rfl, -⟩ := List.cons.inj hsame
      exact absurd hc (by decide)
    | cons d start' =>
      obtain ⟨rfl, -⟩ := List.cons.inj hsame
      have hpositive := hslash start'
      omega
  rcases List.append_eq_append_iff.1 h with ⟨skipped, hwhole, hrest⟩ | ⟨more, hfront, hrest⟩
  · cases skipped with
    | nil =>
      rw [List.append_nil] at hwhole
      exact hcut hwhole.symm (List.cons.inj hrest).1.symm
    | cons next skipped' =>
      obtain ⟨rfl, -⟩ := List.cons.inj hrest
      rw [hwhole, List.flatten_append, List.flatten_cons, solids_append, solids_append] at hstart
      have hpositive := hslash first
      omega
  · cases more with
    | nil =>
      rw [List.append_nil] at hfront
      exact hcut hfront (List.cons.inj hrest).1
    | cons next more' =>
      obtain ⟨rfl, -⟩ := List.cons.inj hrest
      rw [hfront, List.flatten_append, List.flatten_cons, solids_append, solids_append] at hlt
      omega

/-- After a part that can be read, what is left after the cut gives the arguments that the part
    does not give. -/
theorem exists_arguments_after_blank {keepQuotes : Bool} {before rest : Text}
    {dropped args : List Text} (hbefore : arguments keepQuotes before = .ok dropped)
    (h : arguments keepQuotes (before ++ char ' ' :: rest) = .ok args) :
    ∃ later, arguments keepQuotes rest = .ok later ∧ dropped ++ later = args := by
  obtain ⟨found, htokens, rfl⟩ := arguments_eq_ok_iff.1 hbefore
  obtain ⟨all, hall, rfl⟩ := arguments_eq_ok_iff.1 h
  have hline := tokenize_eq_ok_iff.1 hall
  rw [Reading.tokens_append_blank (tokenize_eq_ok_iff.1 htokens) ' ' (by decide)] at hline
  obtain ⟨later, hlater, rfl⟩ := exists_of_map_eq_ok hline
  refine ⟨_, arguments_eq_ok_iff.2 ⟨later, tokenize_eq_ok_iff.2 hlater, rfl⟩, ?_⟩
  rw [List.map_append]

/-! ## What is left of the arguments -/

/-- **Dropping the executable drops leading arguments only, exactly when the first slash after a
    space does not stand in a quoted region**: then what stands before it can be read by itself. In
    a region the cut leaves a line that cannot be read, or one whose arguments are not the last ones
    of the line. -/
theorem dropExecutable_suffix_iff (keepQuotes : Bool) (commandLine : Text) (args : List Text)
    (h : arguments keepQuotes commandLine = .ok args) :
    (∃ later, arguments keepQuotes (dropExecutable commandLine) = .ok later ∧ later <:+ args)
      ↔ ∀ before rest, FirstOptionAt commandLine before rest →
        ∃ dropped, arguments keepQuotes before = .ok dropped := by
  constructor
  · rintro ⟨later, hlater, front, hargs⟩ before rest hfirst
    by_contra hbefore
    rw [hfirst.dropExecutable_eq] at hlater
    rw [hfirst.line] at h
    obtain ⟨first, others, rfl⟩ := exists_cons_of_arguments_slash hlater
    obtain ⟨whole, others', start, c, after, rfl, hc, hstart, hlt⟩ :=
      exists_arguments_region hbefore h
    -- the arguments that were cut off have the solid characters before the cut
    have hfront : solids front.flatten = solids before := by
      have hall := solids_arguments h
      have hleft := solids_arguments hlater
      rw [← hargs, List.flatten_append, solids_append, hleft, solids_append] at hall
      exact Nat.add_right_cancel hall
    rw [← hfront] at hstart hlt
    exact no_argument_after_cut hargs hc hstart hlt
  · intro hreadable
    rcases firstOptionAt_or_unchanged commandLine with ⟨before, rest, hcut⟩ | hsame
    · obtain ⟨dropped, hdropped⟩ := hreadable before rest hcut
      rw [hcut.line] at h
      obtain ⟨later, hlater, rfl⟩ := exists_arguments_after_blank hdropped h
      rw [hcut.dropExecutable_eq]
      exact ⟨later, hlater, List.suffix_append dropped later⟩
    · exact ⟨args, by rw [hsame, h], List.suffix_rfl⟩

/-- A quoted path before the first option, which is dropped, and one after it, which stays. -/
theorem dropExecutable_suffix_iff_exec :
    let before : Text := "dotnet exec \"/sdk/csc.dll\"".toText
    let commandLine : Text := before ++ char ' ' :: char '/' :: "noconfig \"a /b.cs\"".toText
    let args : List Text := ["dotnet".toText, "exec".toText, "/sdk/csc.dll".toText,
      "/noconfig".toText, "a /b.cs".toText]
    arguments false commandLine = .ok args
      ∧ ∃ later, arguments false (dropExecutable commandLine) = .ok later ∧ later <:+ args := by
  intro before commandLine args
  have hargs : arguments false commandLine = .ok args := by decide
  have hfirst : FirstOptionAt commandLine before "noconfig \"a /b.cs\"".toText :=
    ⟨rfl, by simp [before, List.infix_cons_iff]⟩
  refine ⟨hargs, (dropExecutable_suffix_iff false commandLine args hargs).2 ?_⟩
  intro before' rest' hcut
  rw [hfirst.unique hcut]
  exact ⟨["dotnet".toText, "exec".toText, "/sdk/csc.dll".toText], by decide⟩

/-- A space and a slash in the quoted path of the executable: the cut leaves the end of the path,
    and its closing quote opens a region. -/
theorem dropExecutable_cuts_path :
    let commandLine : Text := "\"/opt/dotnet /csc.dll\" /noconfig".toText
    arguments false commandLine = .ok ["/opt/dotnet /csc.dll".toText, "/noconfig".toText]
      ∧ arguments false (dropExecutable commandLine)
        = .error ⟨"\" /noconfig".toText, "/csc.dll\" /noconfig".toText⟩ := by
  decide

end CompileTrace
