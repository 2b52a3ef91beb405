import CompileTrace.Proofs.Build.Diagnostics

set_option autoImplicit false

/-! # Lines about places

A line that reports a message about a line and a column of a file is read as what it reports,
whatever the message holds, exactly if the path of the file has no opening parenthesis and the
numbers are not too long (`ofOutput_placedLine`). A path with a parenthesis is cut where the first
one stands, and what follows it is no place; unless the path itself has a colon as it stands after
a place, a code or the name of a tool, nothing at all is read then
(`ofOutput_placedLine_eq_nil`). -/

namespace CompileTrace.Diagnostic

/-! ## Lines -/

/-- A place in front of a message. -/
def placeText (file : Text) (line column : Nat) : Text :=
  file ++ char '(' :: (Text.ofNat line ++ char ',' :: (Text.ofNat column ++ [char ')']))

/-- A line that reports a message about a place. -/
def placedLine (file : Text) (line column : Nat) (severity : Severity) (code message : Text) :
    Text :=
  placeText file line column
    ++ char ':' :: char ' ' ::
      (severity.name ++ char ' ' :: (code ++ char ':' :: char ' ' :: message))

/-- Whether the parts of a line can stand on one: a file and a message that are not empty and have
    no blanks at their ends, and a code that is a word. -/
structure Placeable (file code message : Text) : Prop where
  file_ne_nil : file ≠ []
  file_trimmed : file.trim = file
  file_line : ∀ c ∈ file, isLineBoundary c = false
  code_ne_nil : code ≠ []
  code_isWord : ∀ c ∈ code, isWord c = true
  message_ne_nil : message ≠ []
  message_trimmed : message.trim = message
  message_line : ∀ c ∈ message, isLineBoundary c = false

/-- Whether exactly one diagnostic is read from some output, and of what place, severity and
    code. -/
def ReportsPlace (output file : Text) (line column : Nat) (severity : Severity) (code : Text) :
    Prop :=
  ∃ message project?, ofOutput output = .ok
    [⟨severity, code, message, some file, some (line : Int), some (column : Int), project?⟩]

/-! ## Colons -/

/-- A text that spells a word is as long as the word and made of its letters. -/
theorem letters_of_spelled? {word s found rest : Text} (h : spelled? word s = some (found, rest)) :
    found.length = word.length ∧ ∀ c ∈ found, ∃ letter ∈ word, isLetter letter c = true := by
  induction word generalizing s found with
  | nil =>
    cases h
    simp
  | cons letter word ih =>
    cases s with
    | nil => cases h
    | cons c s =>
      rw [spelled?] at h
      split at h
      · next hletter =>
        obtain ⟨⟨found', rest'⟩, hfound, hpair⟩ := Option.map_eq_some_iff.1 h
        cases hpair
        obtain ⟨hlength, hletters⟩ := ih hfound
        refine ⟨by simp [hlength], List.forall_mem_cons.2 ⟨⟨letter, by simp, hletter⟩, ?_⟩⟩
        intro c hc
        obtain ⟨letter', hletter', his⟩ := hletters c hc
        exact ⟨letter', List.mem_cons_of_mem _ hletter', his⟩
      · cases h

/-- The name of a severity has no parenthesis, however it is spelled. -/
theorem parenthesis_of_severity? {s found rest : Text} (h : severity? s = some (found, rest)) :
    char '(' ∉ found ∧ 2 ≤ found.length := by
  obtain ⟨severity, -, hspelled⟩ := List.exists_of_findSome?_eq_some h
  obtain ⟨hlength, hletters⟩ := letters_of_spelled? hspelled
  have hname : ∀ letter ∈ severity.name, isLetter letter '(' = false :=
    eq_false_of_any (by cases severity <;> decide)
  have htwo : 2 ≤ severity.name.length := by cases severity <;> decide
  refine ⟨fun hmem => ?_, hlength ▸ htwo⟩
  obtain ⟨letter, hletter, his⟩ := hletters '(' hmem
  rw [hname letter hletter] at his
  cases his

/-- A statement has a colon, and before it a word at least and no parenthesis. -/
theorem exists_colon_of_statement? {s : Text} {found : Statement} (h : statement? s = some found) :
    ∃ head rest, s = head ++ char ':' :: rest ∧ char '(' ∉ head ∧ 2 ≤ head.length := by
  rw [statement?] at h
  split at h
  · cases h
  · next severity rest hseverity =>
    dsimp only at h
    split at h
    · cases h
    · split at h
      · cases h
      · next code rest' _ hspan =>
        obtain ⟨hcode, hword⟩ := append_of_span hspan
        obtain ⟨hparenthesis, hlength⟩ := parenthesis_of_severity? hseverity
        refine ⟨severity ++ (rest.takeWhile isBlank ++ code), rest', ?_, ?_, ?_⟩
        · rw [append_of_severity? hseverity]
          simp only [List.append_assoc, ← hcode, List.takeWhile_append_dropWhile]
        · have hblanks : char '(' ∉ rest.takeWhile isBlank := fun hmem =>
            absurd (List.mem_takeWhile_imp hmem) (by decide)
          have hcodes : char '(' ∉ code := fun hmem => absurd (hword '(' hmem) (by decide +kernel)
          simp [hparenthesis, hblanks, hcodes]
        · rw [List.length_append]
          omega
      · cases h

namespace Placeable

variable {file code message : Text} (h : Placeable file code message) (line column : Nat)
  (severity : Severity)

include h

theorem placedLine_boundary :
    ∀ c ∈ placedLine file line column severity code message, isLineBoundary c = false := by
  have hcode : ∀ c ∈ code, isLineBoundary c = false := fun c hc =>
    isLineBoundary_eq_false_of_isBlank_eq_false (isBlank_eq_false_of_isWord (h.code_isWord c hc))
  have hname : ∀ c ∈ severity.name, isLineBoundary c = false :=
    eq_false_of_any (by cases severity <;> decide)
  have hmarks : ∀ c ∈ [char '(', char ',', char ')', char ':', char ' '],
      isLineBoundary c = false :=
    eq_false_of_any (by decide)
  simp only [placedLine, placeText, List.mem_append, List.mem_cons, List.not_mem_nil, or_false]
  rintro c ((hc | rfl | hc | rfl | hc | rfl) | rfl | rfl | hc | rfl | hc | rfl | rfl | hc)
  · exact h.file_line c hc
  · exact hmarks _ (by simp)
  · exact isLineBoundary_of_mem_ofNat hc
  · exact hmarks _ (by simp)
  · exact isLineBoundary_of_mem_ofNat hc
  · exact hmarks _ (by simp)
  · exact hmarks _ (by simp)
  · exact hmarks _ (by simp)
  · exact hname c hc
  · exact hmarks _ (by simp)
  · exact hcode c hc
  · exact hmarks _ (by simp)
  · exact hmarks _ (by simp)
  · exact h.message_line c hc

theorem placedLine_trimmed :
    (placedLine file line column severity code message).trim
      = placedLine file line column severity code message := by
  have hfile := ((Text.trim_eq_self_iff file).1 h.file_trimmed).1
  have hmessage := ((Text.trim_eq_self_iff message).1 h.message_trimmed).2
  refine (Text.trim_eq_self_iff _).2 ⟨?_, ?_⟩
  · obtain ⟨first, others, rfl⟩ := List.exists_cons_of_ne_nil h.file_ne_nil
    exact hfile
  · have hend : placedLine file line column severity code message
        = (placeText file line column
          ++ char ':' :: char ' ' ::
            (severity.name ++ char ' ' :: (code ++ [char ':', char ' ']))) ++ message := by
      simp [placedLine]
    rwa [hend, List.getLast?_append_of_ne_nil _ h.message_ne_nil]

/-- The output of one line is read as the line. -/
theorem ofOutput_placedLine_eq :
    ofOutput (placedLine file line column severity code message)
      = ((ofLine? (placedLine file line column severity code message)).toList).mapM id := by
  rw [ofOutput_eq_mapM, reports_eq_toList (by simp [placedLine])
    (h.placedLine_trimmed line column severity) (h.placedLine_boundary line column severity)]

/-! ## Paths without a parenthesis -/

theorem statement?_report :
    statement? (severity.name ++ char ' ' :: (code ++ char ':' :: char ' ' :: message))
      = some ⟨severity.name, code, (splitProject message).1, (splitProject message).2⟩ := by
  obtain ⟨tail, hsplit, hsplits⟩ := exists_splits h.message_ne_nil
  have hfirst : ∀ c ∈ (splitProject message).1.head?, isBlank c = false := by
    intro c hc
    refine ((Text.trim_eq_self_iff message).1 h.message_trimmed).1 c ?_
    rw [hsplit, List.head?_append, Option.mem_def.1 hc, Option.some_or]
    rfl
  have hread := statement?_append severity h.code_ne_nil h.code_isWord hsplits hfirst
  rwa [← hsplit] at hread

theorem ofLine?_placedLine (hparenthesis : char '(' ∉ file) :
    ofLine? (placedLine file line column severity code message)
      = some (ofLocated ⟨file, Text.ofNat line, Text.ofNat column⟩
        ⟨severity.name, code, (splitProject message).1, (splitProject message).2⟩) := by
  have hline : placedLine file line column severity code message
      = file ++ char '(' ::
        (Text.ofNat line ++ char ',' :: (Text.ofNat column ++ char ')' :: char ':' :: (char ' ' ::
          (severity.name ++ char ' ' :: (code ++ char ':' :: char ' ' :: message))))) := by
    simp [placedLine, placeText]
  have hhead : ∀ c ∈ (severity.name ++ char ' ' :: (code ++ char ':' :: char ' ' :: message)).head?,
      isBlank c = false := by
    cases severity <;> (rintro c ⟨⟩; decide)
  rw [hline, ofLine?, locatedStatement?,
    location?_append _ h.file_ne_nil hparenthesis (Text.ofNat_ne_nil line)
      (fun _ => Text.isDecimalDigit_of_mem_ofNat) (Text.ofNat_ne_nil column)
      (fun _ => Text.isDecimalDigit_of_mem_ofNat), h.file_trimmed]
  dsimp only
  rw [List.dropWhile_cons_of_pos (by decide), Text.dropWhile_eq_self hhead,
    h.statement?_report, Option.map_some]

/-- **A place in a file without a parenthesis is read from its line** if its numbers fit. -/
theorem reportsPlace (hparenthesis : char '(' ∉ file) (hline : line < 10 ^ digitLimit)
    (hcolumn : column < 10 ^ digitLimit) :
    ReportsPlace (placedLine file line column severity code message) file line column severity
      code := by
  have hnumbers : Location.numbers ⟨file, Text.ofNat line, Text.ofNat column⟩
      = .ok (line, column) := by
    rw [Location.numbers, Text.toWhole_ofNat hline, Text.toWhole_ofNat hcolumn]
    rfl
  refine ⟨(splitProject message).1, (splitProject message).2, ?_⟩
  rw [h.ofOutput_placedLine_eq, h.ofLine?_placedLine line column severity hparenthesis, ofLocated,
    ofStatement]
  simp only [ofName_lower_name, hnumbers]
  rfl

/-! ## Paths with a parenthesis -/

/-- A diagnostic that is read of the file on a line is about a path without a parenthesis, and its
    numbers fit. -/
theorem parenthesis_of_read {ds : List Diagnostic}
    (hread : ofOutput (placedLine file line column severity code message) = .ok ds)
    {d : Diagnostic} (hd : d ∈ ds) (hfile : d.file? = some file) :
    char '(' ∉ file ∧ d.NumbersFit := by
  rw [h.ofOutput_placedLine_eq] at hread
  obtain ⟨read, hmem, hok⟩ := exists_of_mem_mapM hread d hd
  have hofLine : ofLine? (placedLine file line column severity code message) = some (.ok d) := by
    rw [Option.mem_toList] at hmem
    rw [Option.mem_def.1 hmem]
    exact congrArg some hok
  obtain ⟨hlocated, hfit⟩ := normalLocated_of_ofLine? (h.placedLine_trimmed line column severity)
    (h.placedLine_boundary line column severity) hofLine (by simp [hfile])
  obtain ⟨file', line', column', hat⟩ := hlocated.place
  obtain rfl : file' = file := Option.some.inj (hat.file?.symm.trans hfile)
  exact ⟨hat.file_parenthesis, hfit⟩

end Placeable

section

variable {file : Text} (line column : Nat)

/-- The first colon of a text that begins with a place stands after the place, unless the path has
    one where no drive is. -/
theorem placeText_before_colon (hcolon : char ':' ∉ file.drop 2) {after head rest : Text}
    (hparts : placeText file line column ++ char ':' :: after = head ++ char ':' :: rest)
    (hlength : 2 ≤ head.length) : placeText file line column <+: head := by
  have hdigits : ∀ n, char ':' ∉ Text.ofNat n := fun n hmem =>
    absurd (Text.isDecimalDigit_of_mem_ofNat hmem) (by decide)
  have hnumbers : char ':'
      ∉ char '(' :: (Text.ofNat line ++ char ',' :: (Text.ofNat column ++ [char ')'])) := by
    simp [hdigits]
  rcases List.append_eq_append_iff.1 hparts with ⟨more, hhead, -⟩ | ⟨more, hplace, htail⟩
  · exact ⟨more, hhead.symm⟩
  · cases more with
    | nil => exact ⟨[], by simpa using hplace⟩
    | cons c more =>
      -- the colon would stand in the place, after two characters at least
      obtain ⟨rfl, -⟩ := List.cons.inj htail
      have hmem : char ':' ∈ (placeText file line column).drop 2 := by
        rw [hplace, List.drop_append_of_le_length hlength]
        simp
      rw [placeText, List.drop_append, List.mem_append] at hmem
      exact absurd (List.mem_of_mem_drop (hmem.resolve_left hcolon)) hnumbers

variable (hparenthesis : char '(' ∈ file) (hcolon : char ':' ∉ file.drop 2)

include hparenthesis hcolon

theorem location?_placeText (after : Text) :
    location? (placeText file line column ++ char ':' :: after) = none := by
  rw [Option.eq_none_iff_forall_ne_some]
  rintro ⟨found, rest⟩ hfound
  obtain ⟨start, hne, hstart, -, hline, hcolumn, hparts⟩ := exists_of_location? hfound
  have hdigits : ∀ s : Text, (∀ c ∈ s, isDecimalDigit c = true) → char '(' ∉ s := fun s hs hmem =>
    absurd (hs '(' hmem) (by decide)
  -- what stands before the colon has one parenthesis, and the place has two
  have hhead : placeText file line column ++ char ':' :: after
      = (start ++ char '(' :: (found.line ++ char ',' :: (found.column ++ [char ')'])))
        ++ char ':' :: rest := by
    simpa using hparts
  have hbegin := placeText_before_colon line column hcolon hhead (by simp; omega)
  have hone : List.count (char '(')
      (start ++ char '(' :: (found.line ++ char ',' :: (found.column ++ [char ')']))) = 1 := by
    simp [List.count_append, List.count_eq_zero.2 hstart,
      List.count_eq_zero.2 (hdigits _ hline), List.count_eq_zero.2 (hdigits _ hcolumn)]
  have htwo : 2 ≤ List.count (char '(') (placeText file line column) := by
    have hfile := List.count_pos_iff.2 hparenthesis
    simp only [placeText, List.count_append, List.count_cons_self]
    omega
  have hle := hbegin.sublist.count_le (char '(')
  omega

theorem statement?_placeText (after : Text) :
    statement? (placeText file line column ++ char ':' :: after) = none := by
  rw [Option.eq_none_iff_forall_ne_some]
  intro found hfound
  obtain ⟨head, rest, hparts, hhead, hlength⟩ := exists_colon_of_statement? hfound
  have hbegin := placeText_before_colon line column hcolon hparts hlength
  exact hhead (hbegin.subset (List.mem_append_left _ hparenthesis))

omit hparenthesis in
theorem afterTool?_placeText (after : Text) :
    afterTool? (placeText file line column ++ char ':' :: after) = none := by
  rw [afterTool?]
  split
  · rfl
  · next before rest hcut =>
    obtain ⟨hparts, hbefore⟩ := Text.eq_append_of_cutAt? hcut
    refine if_neg fun htool => ?_
    simp only [Bool.and_eq_true, decide_eq_true_eq, beq_iff_eq] at htool
    obtain ⟨more, rfl⟩ := placeText_before_colon line column hcolon hparts htool.1
    obtain rfl : more = [] := by
      cases more with
      | nil => rfl
      | cons c more =>
        rw [List.append_assoc, List.append_cancel_left_eq, List.cons_append, List.cons.injEq]
          at hparts
        exact absurd (by simp [← hparts.1]) hbefore
    have hlast : (placeText file line column).getLast? = some (char ')') := by
      rw [placeText, List.getLast?_append_of_ne_nil _ (by simp)]
      simp [List.getLast?_cons]
    rw [List.append_nil, hlast] at htool
    cases htool.2

end

/-- **Nothing is read of a place in a file with a parenthesis**, unless its path has a colon where
    no drive is. -/
theorem Placeable.ofOutput_placedLine_eq_nil {file code message : Text}
    (h : Placeable file code message) (line column : Nat) (severity : Severity)
    (hparenthesis : char '(' ∈ file) (hcolon : char ':' ∉ file.drop 2) :
    ofOutput (placedLine file line column severity code message) = .ok [] := by
  have hread : ofLine? (placedLine file line column severity code message) = none := by
    rw [placedLine, ofLine?, locatedStatement?,
      location?_placeText line column hparenthesis hcolon]
    simp only [bareStatement?, afterTool?_placeText line column hcolon, Option.bind_none,
      statement?_placeText line column hparenthesis hcolon, Option.map_none]
  rw [h.ofOutput_placedLine_eq, hread]
  rfl

/-! ## Every path -/

/-- **A place is read from its line exactly if the path has no parenthesis** and the numbers fit.
    What is read of any other path is of another file, and mostly nothing is. -/
theorem ofOutput_placedLine {file code message : Text} (h : Placeable file code message)
    (line column : Nat) (severity : Severity) :
    let output := placedLine file line column severity code message
    (ReportsPlace output file line column severity code
        ↔ char '(' ∉ file ∧ line < 10 ^ digitLimit ∧ column < 10 ^ digitLimit)
      ∧ (char '(' ∈ file → ∀ ds, ofOutput output = .ok ds → ∀ d ∈ ds, d.file? ≠ some file)
      ∧ (char '(' ∈ file → char ':' ∉ file.drop 2 → ofOutput output = .ok []) := by
  intro output
  refine ⟨⟨?_, fun ⟨hparenthesis, hline, hcolumn⟩ =>
    h.reportsPlace line column severity hparenthesis hline hcolumn⟩, ?_,
    h.ofOutput_placedLine_eq_nil line column severity⟩
  · rintro ⟨message', project?, hread⟩
    obtain ⟨hparenthesis, hfit⟩ :=
      h.parenthesis_of_read line column severity hread (List.mem_singleton_self _) rfl
    exact ⟨hparenthesis, hfit line (.inl rfl), hfit column (.inr rfl)⟩
  · intro hparenthesis ds hread d hd hfile
    exact (h.parenthesis_of_read line column severity hread hd hfile).1 hparenthesis

/-- Two directories that programs are in, of which one has parentheses in its name: an error there
    is not read, whatever the message. -/
theorem ofOutput_placedLine_drive :
    let plain : Text := "C:\\Program Files\\A.cs"
    let other : Text := "C:\\Program Files (x86)\\A.cs"
    let message : Text := "; expected (or not) [App"
    Placeable plain "CS1002" message ∧ Placeable other "CS1002" message
      ∧ ReportsPlace (placedLine plain 12 5 .error "CS1002" message) plain 12 5 .error "CS1002"
      ∧ char '(' ∈ other ∧ char ':' ∉ other.drop 2
      ∧ ofOutput (placedLine other 12 5 .error "CS1002" message) = .ok [] := by
  intro plain other message
  have hcode : ∀ c ∈ ("CS1002" : Text), isWord c = true := List.all_eq_true.1 (by decide +kernel)
  have hplain : Placeable plain "CS1002" message :=
    ⟨by decide, by decide, eq_false_of_any (by decide), by decide, hcode, by decide, by decide,
      eq_false_of_any (by decide)⟩
  have hother : Placeable other "CS1002" message :=
    ⟨by decide, by decide, eq_false_of_any (by decide), by decide, hcode, by decide, by decide,
      eq_false_of_any (by decide)⟩
  have hfit : ∀ n : Nat, n < 10 ^ 2 → n < 10 ^ digitLimit := fun n hn =>
    Nat.lt_of_lt_of_le hn (Nat.pow_le_pow_right (by decide) (by decide))
  exact ⟨hplain, hother,
    (ofOutput_placedLine hplain 12 5 .error).1.2 ⟨by decide, hfit 12 (by omega), hfit 5 (by omega)⟩,
    by decide, by decide,
    (ofOutput_placedLine hother 12 5 .error).2.2 (by decide) (by decide)⟩

/-- The second file of a name, as a copy is named: its errors are not read. -/
theorem ofOutput_placedLine_copy :
    let file : Text := "src/A (1).cs"
    Placeable file "CS1" "m"
      ∧ placedLine file 1 2 .error "CS1" "m" = "src/A (1).cs(1,2): error CS1: m"
      ∧ ofOutput "src/A (1).cs(1,2): error CS1: m" = .ok []
      ∧ ¬ ReportsPlace "src/A (1).cs(1,2): error CS1: m" file 1 2 .error "CS1" := by
  have hread : ofOutput "src/A (1).cs(1,2): error CS1: m" = .ok [] := by decide +kernel
  refine ⟨⟨by decide, by decide, eq_false_of_any (by decide), by decide,
    List.all_eq_true.1 (by decide +kernel), by decide, by decide, eq_false_of_any (by decide)⟩,
    by decide +kernel, hread, ?_⟩
  rintro ⟨message, project?, hone⟩
  rw [hread] at hone
  cases hone

end CompileTrace.Diagnostic
