import CompileTrace.Proofs.Build.Statements
import CompileTrace.Proofs.Build.Streams
import CompileTrace.Proofs.Number.Digits
import Mathlib.Data.List.Infix

set_option autoImplicit false

/-! # Diagnostics that are written and read

A diagnostic is written on a line, its project between brackets at the end, and read back as it was,
unless it holds what the line uses for other things. A diagnostic is *normal* if it does not: then
lines of such diagnostics are read as these and nothing else, as long as the digits of their places
are not too many to be read. And nothing else is ever read of a place: every diagnostic that is read
with one is normal (`ofOutput_normal`). -/

namespace CompileTrace.Diagnostic

/-- What holds of no character, as a test of the characters of a text tells. -/
theorem eq_false_of_any {p : CodePoint → Bool} {s : Text} (h : s.any p = false) :
    ∀ c ∈ s, p c = false := fun c hc => Bool.eq_false_iff.2 (List.any_eq_false.1 h c hc)

/-! ## Diagnostics on a line -/

/-- How a line ends after the message: with the project between brackets if there is one. -/
def lineEnd : Option Text → Text
  | none => []
  | some project => " [" ++ project ++ "]"

/-- A diagnostic on a line. -/
def line (d : Diagnostic) : Text := d.text ++ lineEnd d.project?

theorem lineEnd_some (project : Text) : lineEnd (some project) = framed [char ' '] project := by
  simp [lineEnd, framed]

/-! ## Normal messages -/

/-- Whether a text ends in a blank and then a project between brackets. -/
def EndsInProject (s : Text) : Prop :=
  ∃ blank project, isBlank blank = true ∧ IsProject project ∧ framed [blank] project <:+ s

/-- Whether a bracket is opened in a text right after a blank, and none is closed after it. -/
def LeavesBracketOpen (s : Text) : Prop :=
  ∃ blank after, isBlank blank = true ∧ char ']' ∉ after ∧ blank :: char '[' :: after <:+ s

/-- A frame with one blank stands at the end of each frame. -/
theorem framed_suffix {blanks : Text} (hne : blanks ≠ []) (rest : Text) :
    ∃ blank ∈ blanks, blank :: rest <:+ blanks ++ rest := by
  obtain hnil | ⟨init, blank, rfl⟩ := List.eq_nil_or_concat blanks
  · exact absurd hnil hne
  · exact ⟨blank, by simp, init, by simp⟩

theorem endsInProject_iff (s : Text) :
    EndsInProject s ↔ ∃ rest ∈ s.tails, (projectIn? rest).isSome = true := by
  constructor
  · rintro ⟨blank, project, hblank, hproject, hsuffix⟩
    refine ⟨_, (List.mem_tails _ _).2 hsuffix, ?_⟩
    rw [show projectIn? (framed [blank] project) = some project from
      projectIn?_blank hblank hproject]
    rfl
  · rintro ⟨rest, hrest, hsome⟩
    obtain ⟨project, hfound⟩ := Option.isSome_iff_exists.1 hsome
    obtain ⟨blanks, hne, hblanks, hproject, rfl⟩ := exists_framed_of_projectIn? hfound
    obtain ⟨blank, hblank, hsuffix⟩ := framed_suffix hne (char '[' :: (project ++ [char ']']))
    exact ⟨blank, project, hblanks blank hblank, hproject,
      hsuffix.trans ((List.mem_tails _ _).1 hrest)⟩

instance (s : Text) : Decidable (EndsInProject s) :=
  decidable_of_iff _ (endsInProject_iff s).symm

/-- Whether a text begins with a blank and a bracket, and none is closed after it. -/
def startsOpen : Text → Bool
  | blank :: char '[' :: after => isBlank blank && !after.contains ']'
  | _ => false

theorem leavesBracketOpen_iff (s : Text) :
    LeavesBracketOpen s ↔ ∃ rest ∈ s.tails, startsOpen rest = true := by
  constructor
  · rintro ⟨blank, after, hblank, hclosed, hsuffix⟩
    exact ⟨_, (List.mem_tails _ _).2 hsuffix, by simp [startsOpen, hblank, hclosed]⟩
  · rintro ⟨rest, hrest, hopen⟩
    rw [startsOpen.eq_def] at hopen
    split at hopen
    · next blank after =>
      simp only [Bool.and_eq_true, Bool.not_eq_true', List.contains_eq_mem,
        decide_eq_false_iff_not] at hopen
      exact ⟨blank, after, hopen.1, hopen.2, (List.mem_tails _ _).1 hrest⟩
    · cases hopen

instance (s : Text) : Decidable (LeavesBracketOpen s) :=
  decidable_of_iff _ (leavesBracketOpen_iff s).symm

/-- Whether a message can be told from the project after it. -/
structure NormalMessage (message : Text) (project? : Option Text) : Prop where
  ne_nil : message ≠ []
  trimmed : message.trim = message
  project : ∀ project ∈ project?, IsProject project
  bare : project? = none → ¬ EndsInProject message
  beside : project? ≠ none → ¬ LeavesBracketOpen message

variable {message tail : Text} {project? : Option Text}

theorem NormalMessage.last (h : NormalMessage message project?) :
    ∀ c ∈ (message ++ lineEnd project?).getLast?, isBlank c = false := by
  cases project? with
  | none =>
    rw [lineEnd, List.append_nil]
    exact ((Text.trim_eq_self_iff message).1 h.trimmed).2
  | some project =>
    rw [lineEnd_some, framed]
    rw [← List.append_assoc, ← List.cons_append, ← List.append_assoc, List.getLast?_concat]
    rintro c ⟨⟩
    decide

/-- Where a frame is found that ends as a project written after some text does, the text is blank,
    or the frame begins in it and has all that follows. -/
theorem blank_or_open_of_append_framed {rest blanks project found : Text}
    (h : rest ++ framed [char ' '] project = framed blanks found) :
    (∀ c ∈ rest, c ∈ blanks)
      ∨ ∃ after, rest = blanks ++ char '[' :: after
        ∧ found = after ++ char ' ' :: char '[' :: project := by
  rcases List.append_eq_append_iff.1 h with ⟨others, hblanks, -⟩ | ⟨inside, hrest, htail⟩
  · exact .inl (fun c hc => by rw [hblanks]; exact List.mem_append_left _ hc)
  · cases inside with
    | nil => cases htail
    | cons bracket after =>
      rw [List.cons_append, List.cons.injEq] at htail
      obtain ⟨rfl, htail⟩ := htail
      have hfound :
          found ++ [char ']'] = (after ++ char ' ' :: char '[' :: project) ++ [char ']'] := by
        rw [htail]
        simp [framed]
      exact .inr ⟨after, hrest, List.append_cancel_right hfound⟩

namespace NormalMessage

/-- No project is found at the end of a message that has none after it. -/
theorem projectIn?_bare (h : NormalMessage message none) {rest : Text}
    (hsuffix : rest <:+ message) :
    projectIn? rest = none := by
  rw [Option.eq_none_iff_forall_ne_some]
  intro found hfound
  obtain ⟨blanks, hne, hblanks, hproject, rfl⟩ := exists_framed_of_projectIn? hfound
  obtain ⟨blank, hblank, hframe⟩ := framed_suffix hne (char '[' :: (found ++ [char ']']))
  exact h.bare rfl ⟨blank, found, hblanks blank hblank, hproject, hframe.trans hsuffix⟩

/-- No project is found that begins in a message before the project after it. -/
theorem projectIn?_beside {project : Text} (h : NormalMessage message (some project)) {rest : Text}
    (hsuffix : rest <:+ message) (hrest : rest ≠ []) :
    projectIn? (rest ++ framed [char ' '] project) = none := by
  rw [Option.eq_none_iff_forall_ne_some]
  intro found hfound
  obtain ⟨blanks, hne, hblanks, hproject, hframed⟩ := exists_framed_of_projectIn? hfound
  rcases blank_or_open_of_append_framed hframed with hblank | ⟨after, rfl, rfl⟩
  · -- the message would end in a blank
    obtain ⟨init, last, rfl⟩ := (List.eq_nil_or_concat rest).resolve_left hrest
    obtain ⟨before, rfl⟩ := hsuffix
    have hlast := ((Text.trim_eq_self_iff _).1 h.trimmed).2 last (by simp)
    rw [hblanks last (hblank last (by simp))] at hlast
    cases hlast
  · obtain ⟨blank, hblank, hopen⟩ := framed_suffix hne (char '[' :: after)
    exact h.beside (by simp) ⟨blank, after, hblanks blank hblank,
      fun hmem => hproject.closed (List.mem_append_left _ hmem), hopen.trans hsuffix⟩

/-- A normal message is parted from the project that is written after it. -/
theorem splits (h : NormalMessage message project?) :
    Splits message (lineEnd project?) project? := by
  cases project? with
  | none =>
    refine ⟨h.ne_nil, rfl, fun _ => rfl, fun before rest hmessage _ _ => ?_⟩
    rw [lineEnd, List.append_nil]
    exact h.projectIn?_bare ⟨before, hmessage.symm⟩
  | some project =>
    rw [lineEnd_some]
    have hproject : projectIn? (framed [char ' '] project) = some project :=
      projectIn?_framed (by simp) (by simp; decide) (h.project project rfl)
    exact ⟨h.ne_nil, hproject, by simp, fun before rest hmessage _ hrest =>
      h.projectIn?_beside ⟨before, hmessage.symm⟩ hrest⟩

end NormalMessage

namespace Splits

/-- The project that is parted from a message stands in a frame. -/
theorem exists_framed {project : Text} (h : Splits message tail (some project)) :
    ∃ blanks, blanks ≠ [] ∧ (∀ c ∈ blanks, isBlank c = true) ∧ IsProject project
      ∧ tail = framed blanks project := exists_framed_of_projectIn? h.project

section

variable (hfirst : ∀ c ∈ message.head?, isBlank c = false)

include hfirst

/-- No project is found from a blank in a message that is parted from what follows it. -/
theorem projectIn?_suffix (h : Splits message tail project?) {blank : CodePoint} {rest : Text}
    (hblank : isBlank blank = true) (hsuffix : blank :: rest <:+ message) :
    projectIn? (blank :: rest ++ tail) = none := by
  obtain ⟨before, rfl⟩ := hsuffix
  refine h.first before (blank :: rest) rfl ?_ (by simp)
  rintro rfl
  rw [hfirst blank rfl] at hblank
  cases hblank

/-- A message does not end in a blank before its project, which would be found one blank
    earlier. -/
theorem last_of_some {project : Text} (h : Splits message tail (some project)) :
    ∀ c ∈ message.getLast?, isBlank c = false := by
  intro c hc
  rw [Bool.eq_false_iff]
  intro hblank
  obtain ⟨init, rfl⟩ := List.getLast?_eq_some_iff.1 hc
  have hearlier := h.projectIn?_suffix hfirst hblank (List.suffix_append init [c])
  obtain ⟨blanks, -, hblanks, hproject, rfl⟩ := h.exists_framed
  have hfound : projectIn? (framed (c :: blanks) project) = some project :=
    projectIn?_framed (by simp) (by simpa [hblank] using hblanks) hproject
  cases hearlier.symm.trans hfound

theorem not_endsInProject (h : Splits message [] none) : ¬ EndsInProject message := by
  rintro ⟨blank, project, hblank, hproject, hsuffix⟩
  have hearlier := h.projectIn?_suffix hfirst hblank hsuffix
  rw [List.append_nil] at hearlier
  cases hearlier.symm.trans (projectIn?_blank hblank hproject)

/-- A message before a project leaves no bracket open: all that follows would be a project. -/
theorem not_leavesBracketOpen {project : Text} (h : Splits message tail (some project)) :
    ¬ LeavesBracketOpen message := by
  rintro ⟨blank, after, hblank, hclosed, hsuffix⟩
  have hearlier := h.projectIn?_suffix hfirst hblank hsuffix
  obtain ⟨blanks, -, hblanks, hproject, rfl⟩ := h.exists_framed
  have hlonger : IsProject (after ++ blanks ++ char '[' :: project) := by
    refine ⟨by simp, ?_⟩
    simp only [List.mem_append, List.mem_cons, not_or]
    refine ⟨⟨hclosed, fun hmem => ?_⟩, by decide, hproject.closed⟩
    have hbracket := hblanks ']' hmem
    revert hbracket
    decide
  have hsame : blank :: char '[' :: (after ++ blanks ++ char '[' :: project ++ [char ']'])
      = blank :: char '[' :: after ++ framed blanks project := by
    simp [framed]
  have hfound := projectIn?_blank hblank hlonger
  rw [hsame, hearlier] at hfound
  cases hfound

/-- **What is parted is normal**, if no blank stands at the ends. -/
theorem normalMessage (h : Splits message tail project?)
    (hlast : ∀ c ∈ (message ++ tail).getLast?, isBlank c = false) :
    NormalMessage message project? := by
  cases project? with
  | none =>
    obtain rfl := h.tail_nil rfl
    rw [List.append_nil] at hlast
    exact ⟨h.ne_nil, (Text.trim_eq_self_iff message).2 ⟨hfirst, hlast⟩, by simp,
      fun _ => h.not_endsInProject hfirst, fun hne => absurd rfl hne⟩
  | some project =>
    obtain ⟨-, -, -, hproject, -⟩ := h.exists_framed
    exact ⟨h.ne_nil, (Text.trim_eq_self_iff message).2 ⟨hfirst, h.last_of_some hfirst⟩,
      by rintro _ ⟨⟩; exact hproject, by simp, fun _ => h.not_leavesBracketOpen hfirst⟩

end

end Splits

/-! ## Normal diagnostics -/

/-- What a normal diagnostic has besides its place. -/
structure NormalStatement (d : Diagnostic) : Prop where
  code_ne_nil : d.code ≠ []
  code_isWord : ∀ c ∈ d.code, isWord c = true
  message : NormalMessage d.message d.project?
  message_line : ∀ c ∈ d.message, isLineBoundary c = false
  project_line : ∀ project ∈ d.project?, ∀ c ∈ project, isLineBoundary c = false

/-- Whether a diagnostic is about a line and a column of a file, which can be told from them. -/
structure IsAt (d : Diagnostic) (file : Text) (line column : Nat) : Prop where
  file? : d.file? = some file
  line? : d.line? = some (line : Int)
  column? : d.column? = some (column : Int)
  file_ne_nil : file ≠ []
  file_trimmed : file.trim = file
  file_parenthesis : char '(' ∉ file
  file_line : ∀ c ∈ file, isLineBoundary c = false

/-- Whether a diagnostic with a place is normal. -/
structure NormalLocated (d : Diagnostic) : Prop extends NormalStatement d where
  place : ∃ file line column, IsAt d file line column

/-- Whether a diagnostic without a place is normal: then it has no parenthesis where one would be
    taken for that of a place. -/
structure NormalBare (d : Diagnostic) : Prop extends NormalStatement d where
  file? : d.file? = none
  line? : d.line? = none
  column? : d.column? = none
  message_parenthesis : char '(' ∉ d.message
  project_parenthesis : ∀ project ∈ d.project?, char '(' ∉ project

/-- Whether a diagnostic is normal. -/
def Normal (d : Diagnostic) : Prop := d.NormalLocated ∨ d.NormalBare

/-- Whether the line and the column of a diagnostic have no more digits than numbers are read
    from. -/
def NumbersFit (d : Diagnostic) : Prop :=
  ∀ n : Nat, d.line? = some (n : Int) ∨ d.column? = some (n : Int) → n < 10 ^ digitLimit

theorem IsAt.numbers_eq {d : Diagnostic} {file : Text} {line column : Nat}
    (h : d.IsAt file line column) : d.numbers = [(line : Int), (column : Int)] := by
  obtain ⟨c, rest, rfl⟩ := List.exists_cons_of_ne_nil h.file_ne_nil
  rw [numbers, h.file?, h.line?, h.column?]
  rfl

theorem IsAt.shown_eq {d : Diagnostic} {file : Text} {line column : Nat}
    (h : d.IsAt file line column) (hfit : d.NumbersFit) : d.shown = .ok d.text := by
  have hline := Text.ofWhole_natCast (hfit line (.inl h.line?))
  have hcolumn := Text.ofWhole_natCast (hfit column (.inr h.column?))
  rw [shown, h.numbers_eq, List.mapM_cons, List.mapM_cons, hline, hcolumn]
  rfl

theorem IsAt.shown_tooLong {d : Diagnostic} {file : Text} {line column : Nat}
    (h : d.IsAt file line column) (hlong : 10 ^ digitLimit ≤ line) : d.shown = .error ⟨⟩ := by
  rw [shown, h.numbers_eq, List.mapM_cons, Text.ofWhole_natCast_of_le hlong]
  rfl

/-- A normal diagnostic whose numbers fit can be shown. -/
theorem Normal.shown_eq {d : Diagnostic} (h : d.Normal) (hfit : d.NumbersFit) :
    d.shown = .ok d.text := by
  obtain hlocated | hbare := h
  · obtain ⟨file, line, column, hat⟩ := hlocated.place
    exact hat.shown_eq hfit
  · have hnone : d.numbers = [] := by rw [numbers, hbare.file?]
    rw [shown, hnone]
    rfl

/-! ## The line of a normal diagnostic -/

/-- What a single line reports, if no blank stands at its ends. -/
theorem reports_eq_toList {s : Text} (hne : s ≠ []) (htrimmed : s.trim = s)
    (hline : ∀ c ∈ s, isLineBoundary c = false) : reports s = (ofLine? s).toList := by
  rw [reports, Text.lines_eq_singleton hne hline, List.flatMap_singleton, htrimmed]

/-- The digits of a number stand on one line. -/
theorem isLineBoundary_of_mem_ofNat {n : Nat} {c : CodePoint} (hc : c ∈ Text.ofNat n) :
    isLineBoundary c = false := by
  have hcode := Text.codePoint_of_mem_ofNat hc
  simp only [isLineBoundary, inRanges, lineBoundaryRanges, List.any_cons, List.any_nil,
    Bool.or_false, Bool.or_eq_false_iff, Bool.and_eq_false_iff, decide_eq_false_iff_not]
  omega

/-- What stands on a line after the place. -/
def afterPlace (d : Diagnostic) : Text :=
  d.severity.name
    ++ char ' ' :: (d.code ++ char ':' :: char ' ' :: (d.message ++ lineEnd d.project?))

theorem line_eq_place (d : Diagnostic) : d.line = d.place ++ d.afterPlace := by
  simp [line, text, afterPlace]

theorem IsAt.place_eq {d : Diagnostic} {file : Text} {line column : Nat}
    (h : d.IsAt file line column) (rest : Text) :
    d.place ++ rest
      = file ++ char '(' :: (Text.ofNat line
        ++ char ',' :: (Text.ofNat column ++ char ')' :: char ':' :: (char ' ' :: rest))) := by
  obtain ⟨first, others, hfile⟩ := List.exists_cons_of_ne_nil h.file_ne_nil
  have hfile? := h.file?
  rw [hfile] at hfile? ⊢
  simp [place, hfile?, h.line?, h.column?, Text.ofInt]

theorem NormalBare.place_eq {d : Diagnostic} (h : d.NormalBare) : d.place = [] := by
  rw [place, h.file?]

namespace NormalStatement

variable {d : Diagnostic} (h : d.NormalStatement)

include h

theorem statement?_afterPlace :
    statement? d.afterPlace = some ⟨d.severity.name, d.code, d.message, d.project?⟩ :=
  statement?_append d.severity h.code_ne_nil h.code_isWord h.message.splits
    ((Text.trim_eq_self_iff d.message).1 h.message.trimmed).1

theorem last_line : ∀ c ∈ d.line.getLast?, isBlank c = false := by
  have hne : d.message ++ lineEnd d.project? ≠ [] := by simp [h.message.ne_nil]
  have hlast : d.line.getLast? = (d.message ++ lineEnd d.project?).getLast? := by
    have happend : d.line
        = (d.place ++ d.severity.name ++ char ' ' :: d.code ++ [char ':', char ' '])
        ++ (d.message ++ lineEnd d.project?) := by simp [line, text]
    rw [happend, List.getLast?_append_of_ne_nil _ hne]
  rw [hlast]
  exact h.message.last

theorem afterPlace_line : ∀ c ∈ d.afterPlace, isLineBoundary c = false := by
  have hcode : ∀ c ∈ d.code, isLineBoundary c = false := fun c hc =>
    isLineBoundary_eq_false_of_isBlank_eq_false (isBlank_eq_false_of_isWord (h.code_isWord c hc))
  have hname : ∀ c ∈ d.severity.name, isLineBoundary c = false :=
    eq_false_of_any (by cases d.severity <;> decide)
  have hend : ∀ c ∈ lineEnd d.project?, isLineBoundary c = false := by
    cases hproject : d.project? with
    | none => simp [lineEnd]
    | some project =>
      have hline := h.project_line project hproject
      simp only [lineEnd, List.mem_append]
      rintro c ((hc | hc) | hc)
      · exact eq_false_of_any (by decide) c hc
      · exact hline c hc
      · exact eq_false_of_any (by decide) c hc
  simp only [afterPlace, List.mem_append, List.mem_cons]
  rintro c (hc | rfl | hc | rfl | rfl | hc | hc)
  · exact hname c hc
  · decide
  · exact hcode c hc
  · decide
  · decide
  · exact h.message_line c hc
  · exact hend c hc

/-- What a line without boundaries reports, if it does not begin with a blank. -/
theorem reports_line (hfirst : ∀ c ∈ d.line.head?, isBlank c = false)
    (hline : ∀ c ∈ d.place, isLineBoundary c = false) :
    reports d.line = (ofLine? d.line).toList := by
  have hne : d.line ≠ [] := by simp [line_eq_place, afterPlace]
  have hboundary : ∀ c ∈ d.line, isLineBoundary c = false := by
    rw [line_eq_place]
    exact List.forall_mem_append.2 ⟨hline, h.afterPlace_line⟩
  exact reports_eq_toList hne ((Text.trim_eq_self_iff d.line).2 ⟨hfirst, h.last_line⟩) hboundary

end NormalStatement

/-! ## Diagnostics with a place -/

/-- The line of a normal diagnostic with a place tells the digits of its numbers and all else as it
    is. -/
theorem NormalLocated.locatedStatement?_line {d : Diagnostic} (h : d.NormalLocated) {file : Text}
    {line column : Nat} (hat : d.IsAt file line column) :
    locatedStatement? d.line = some (⟨file, Text.ofNat line, Text.ofNat column⟩,
      ⟨d.severity.name, d.code, d.message, d.project?⟩) := by
  have hhead : ∀ c ∈ d.afterPlace.head?, isBlank c = false := by
    rw [afterPlace]
    cases d.severity <;> (rintro c ⟨⟩; decide)
  rw [line_eq_place, hat.place_eq, locatedStatement?,
    location?_append _ hat.file_ne_nil hat.file_parenthesis (Text.ofNat_ne_nil line)
      (fun _ => Text.isDecimalDigit_of_mem_ofNat) (Text.ofNat_ne_nil column)
      (fun _ => Text.isDecimalDigit_of_mem_ofNat), hat.file_trimmed]
  dsimp only
  rw [List.dropWhile_cons_of_pos (by decide), Text.dropWhile_eq_self hhead,
    h.statement?_afterPlace, Option.map_some]

theorem ofName_lower_name (severity : Severity) :
    Severity.ofName severity.name.lower = .ok severity := by
  cases severity <;> rfl

theorem NormalLocated.reports_line {d : Diagnostic} (h : d.NormalLocated) {file : Text}
    {line column : Nat} (hat : d.IsAt file line column) :
    reports d.line = [ofLocated ⟨file, Text.ofNat line, Text.ofNat column⟩
      ⟨d.severity.name, d.code, d.message, d.project?⟩] := by
  have hfirst : ∀ c ∈ d.line.head?, isBlank c = false := by
    obtain ⟨first, others, hfile⟩ := List.exists_cons_of_ne_nil hat.file_ne_nil
    rw [line_eq_place, hat.place_eq]
    have htrimmed := ((Text.trim_eq_self_iff file).1 hat.file_trimmed).1
    rw [hfile] at htrimmed ⊢
    exact htrimmed
  have hplace : ∀ c ∈ d.place, isLineBoundary c = false := by
    have hplace := hat.place_eq []
    rw [List.append_nil] at hplace
    rw [hplace]
    simp only [List.mem_append, List.mem_cons, List.not_mem_nil, or_false]
    rintro c (hc | rfl | hc | rfl | hc | rfl | rfl | rfl)
    · exact hat.file_line c hc
    · decide
    · exact isLineBoundary_of_mem_ofNat hc
    · decide
    · exact isLineBoundary_of_mem_ofNat hc
    · decide
    · decide
    · decide
  rw [h.toNormalStatement.reports_line hfirst hplace, ofLine?, h.locatedStatement?_line hat]
  rfl

/-- **A normal diagnostic with a place is read from its line** if its numbers fit. -/
theorem NormalLocated.reports_eq {d : Diagnostic} (h : d.NormalLocated) (hfit : d.NumbersFit) :
    reports d.line = [.ok d] := by
  obtain ⟨file, line, column, hat⟩ := h.place
  have hline := Text.toWhole_ofNat (hfit line (.inl hat.line?))
  have hcolumn := Text.toWhole_ofNat (hfit column (.inr hat.column?))
  have hnumbers : Location.numbers ⟨file, Text.ofNat line, Text.ofNat column⟩
      = .ok (line, column) := by
    rw [Location.numbers, hline, hcolumn]
    rfl
  rw [h.reports_line hat, ofLocated, ofStatement]
  simp only [ofName_lower_name, hnumbers, ← hat.file?, ← hat.line?, ← hat.column?]

/-- Too many digits of a line are not read. -/
theorem NormalLocated.reports_tooLong {d : Diagnostic} (h : d.NormalLocated) {file : Text}
    {line column : Nat} (hat : d.IsAt file line column) (hlong : 10 ^ digitLimit ≤ line) :
    reports d.line = [.error (.number (.tooLong (Text.ofNat line).length))] := by
  have hnumbers : Location.numbers ⟨file, Text.ofNat line, Text.ofNat column⟩
      = .error (.tooLong (Text.ofNat line).length) := by
    rw [Location.numbers, Text.toWhole_ofNat_of_le hlong]
    rfl
  rw [h.reports_line hat, ofLocated, ofStatement]
  simp only [ofName_lower_name, hnumbers]

/-! ## Diagnostics without a place -/

namespace NormalBare

variable {d : Diagnostic} (h : d.NormalBare)

include h

theorem eq_mk : d = ⟨d.severity, d.code, d.message, none, none, none, d.project?⟩ := by
  obtain ⟨severity, code, message, file?, line?, column?, project?⟩ := d
  cases h.file?
  cases h.line?
  cases h.column?
  rfl

theorem line_eq : d.line = d.afterPlace := by
  rw [line_eq_place, h.place_eq, List.nil_append]

/-- A line without parentheses has no place. -/
theorem locatedStatement?_line : locatedStatement? d.line = none := by
  have hcode : char '(' ∉ d.code := by
    intro hmem
    have hword := h.code_isWord '(' hmem
    revert hword
    decide +kernel
  have hparenthesis : char '(' ∉ d.line := by
    have hname : char '(' ∉ d.severity.name := by cases d.severity <;> decide
    have hend : char '(' ∉ lineEnd d.project? := by
      cases hproject : d.project? with
      | none => simp [lineEnd]
      | some project => simp [lineEnd, h.project_parenthesis project hproject]
    simp [h.line_eq, afterPlace, hname, hcode, h.message_parenthesis, hend]
  rw [locatedStatement?, location?, Text.cutAt?_eq_none '(' _ hparenthesis]

/-- The first colon of the line stands right after the code, so that no tool is named. -/
theorem afterTool?_line : afterTool? d.line = none := by
  have hcolon : char ':' ∉ d.severity.name ++ char ' ' :: d.code := by
    have hname : char ':' ∉ d.severity.name := by cases d.severity <;> decide
    have hcode : char ':' ∉ d.code := by
      intro hmem
      have hword := h.code_isWord ':' hmem
      revert hword
      decide +kernel
    simp [hname, hcode]
  have hcut := Text.cutAt?_append ':' _ (char ' ' :: (d.message ++ lineEnd d.project?)) hcolon
  have hlast : (d.severity.name ++ char ' ' :: d.code).getLast? ≠ some (char ' ') := by
    obtain ⟨init, last, hcode⟩ := (List.eq_nil_or_concat d.code).resolve_left h.code_ne_nil
    have hword := h.code_isWord last (by simp [hcode])
    have hne : last ≠ ' ' := by
      rintro rfl
      revert hword
      decide +kernel
    simp [hcode, List.getLast?_append, List.getLast?_cons, hne]
  have hline : d.line = (d.severity.name ++ char ' ' :: d.code)
      ++ char ':' :: char ' ' :: (d.message ++ lineEnd d.project?) := by
    simp [h.line_eq, afterPlace]
  rw [afterTool?, hline, hcut]
  dsimp only
  rw [beq_eq_false_iff_ne.2 hlast, Bool.and_false, if_neg Bool.false_ne_true]

/-- **A normal diagnostic without a place is read from its line.** -/
theorem reports_eq : reports d.line = [.ok d] := by
  have hfirst : ∀ c ∈ d.line.head?, isBlank c = false := by
    rw [h.line_eq, afterPlace]
    cases d.severity <;> (rintro c ⟨⟩; decide)
  rw [h.toNormalStatement.reports_line hfirst (by simp [h.place_eq]), ofLine?,
    h.locatedStatement?_line, bareStatement?, h.afterTool?_line, h.line_eq, Option.bind_none,
    h.statement?_afterPlace]
  simp only [Option.map_some, Option.toList_some, ofStatement, ofName_lower_name, ← h.eq_mk]

end NormalBare

/-! ## What is read -/

/-- How a line that is read with a place is made up: the file stands at its start, and the message
    with what follows it at its end. -/
structure Reads (s : Text) (location : Location) (found : Statement) (file between tail : Text) :
    Prop where
  parts : s = file ++ (between ++ (found.message ++ tail))
  file_ne_nil : file ≠ []
  file_parenthesis : char '(' ∉ file
  file_trim : location.file = file.trim
  line_digits : ∀ c ∈ location.line, isDecimalDigit c = true
  column_digits : ∀ c ∈ location.column, isDecimalDigit c = true
  code_ne_nil : found.code ≠ []
  code_isWord : ∀ c ∈ found.code, isWord c = true
  message_first : ∀ c ∈ found.message.head?, isBlank c = false
  splits : Splits found.message tail found.project?

theorem exists_reads_of_locatedStatement? {s : Text} {location : Location} {found : Statement}
    (h : locatedStatement? s = some (location, found)) :
    ∃ file between tail, Reads s location found file between tail := by
  rw [locatedStatement?] at h
  split at h
  · cases h
  · next location' rest hlocation =>
    obtain ⟨found', hfound, hpair⟩ := Option.map_eq_some_iff.1 h
    cases hpair
    obtain ⟨file, hne, hparenthesis, htrim, hline, hcolumn, hs⟩ := exists_of_location? hlocation
    obtain ⟨hcode, hword, hfirst, before, tail, hrest, hsplits⟩ := exists_of_statement? hfound
    refine ⟨file, char '(' :: (location.line ++ char ',' :: (location.column ++ char ')' :: ':'
      :: (rest.takeWhile isBlank ++ before))), tail, ?_, hne, hparenthesis, htrim, hline, hcolumn,
      hcode, hword, hfirst, hsplits⟩
    rw [hs]
    simp only [List.append_assoc, List.cons_append, ← hrest, List.takeWhile_append_dropWhile]

theorem exists_of_ofLocated {location : Location} {found : Statement} {d : Diagnostic}
    (h : ofLocated location found = .ok d) :
    ∃ severity line column, location.line.toWhole = .ok line
      ∧ location.column.toWhole = .ok column
      ∧ d = ⟨severity, found.code, found.message, some location.file, some (line : Int),
        some (column : Int), found.project?⟩ := by
  rw [ofLocated] at h
  split at h
  · cases h
  · cases h
  · next bare line column hbare hnumbers =>
    cases h
    obtain ⟨line', hline, hnumbers⟩ := exists_of_bind_eq_ok hnumbers
    obtain ⟨column', hcolumn, hnumbers⟩ := exists_of_bind_eq_ok hnumbers
    cases hnumbers
    rw [ofStatement] at hbare
    split at hbare
    · cases hbare
    · next severity _ =>
      cases hbare
      exact ⟨severity, line, column, hline, hcolumn, rfl⟩

/-- A line that is read without a place gives a diagnostic without a file. -/
theorem exists_located_of_file? {s : Text} {d : Diagnostic} (h : ofLine? s = some (.ok d))
    (hfile : d.file? ≠ none) :
    ∃ location found, locatedStatement? s = some (location, found)
      ∧ ofLocated location found = .ok d := by
  rw [ofLine?] at h
  split at h
  · next location found hfound => exact ⟨location, found, hfound, Option.some.inj h⟩
  · obtain ⟨found, -, hbare⟩ := Option.map_eq_some_iff.1 h
    rw [ofStatement] at hbare
    split at hbare
    · cases hbare
    · cases hbare
      exact absurd rfl hfile

namespace Reads

variable {s file between tail : Text} {location : Location} {found : Statement}
  (h : Reads s location found file between tail)

include h

theorem file_subset : file ⊆ s := by
  intro c hc
  rw [h.parts]
  exact List.mem_append_left _ hc

theorem message_subset : found.message ++ tail ⊆ s := by
  intro c hc
  rw [h.parts]
  exact List.mem_append_right _ (List.mem_append_right _ hc)

/-- The file is the one that stands at the start of the line, without blanks around it. -/
theorem isAt (htrimmed : s.trim = s) (hline : ∀ c ∈ s, isLineBoundary c = false) {d : Diagnostic}
    {line column : Nat} (hfile : d.file? = some location.file) (hd : d.line? = some (line : Int))
    (hd' : d.column? = some (column : Int)) : d.IsAt location.file line column := by
  have hfirst : ∀ c ∈ file.head?, isBlank c = false := by
    have hstart := ((Text.trim_eq_self_iff s).1 htrimmed).1
    obtain ⟨c, others, rfl⟩ := List.exists_cons_of_ne_nil h.file_ne_nil
    rw [h.parts] at hstart
    exact hstart
  refine ⟨hfile, hd, hd', ?_, ?_, ?_, ?_⟩
  · rw [h.file_trim]
    exact Text.trim_ne_nil h.file_ne_nil hfirst
  · rw [h.file_trim]
    exact Text.trim_trim file
  · rw [h.file_trim]
    exact fun hmem => h.file_parenthesis (Text.mem_of_mem_trim hmem)
  · rw [h.file_trim]
    exact fun c hc => hline c (h.file_subset (Text.mem_of_mem_trim hc))

theorem normalMessage (htrimmed : s.trim = s) : NormalMessage found.message found.project? := by
  refine h.splits.normalMessage h.message_first ?_
  have hlast := ((Text.trim_eq_self_iff s).1 htrimmed).2
  have hne : found.message ++ tail ≠ [] := by simp [h.splits.ne_nil]
  rwa [h.parts, ← List.append_assoc, List.getLast?_append_of_ne_nil _ hne] at hlast

theorem project_line (hline : ∀ c ∈ s, isLineBoundary c = false) :
    ∀ project ∈ found.project?, ∀ c ∈ project, isLineBoundary c = false := by
  intro project hproject c hc
  obtain ⟨blanks, -, -, -, htail⟩ :=
    exists_framed_of_projectIn? (h.splits.project.trans hproject)
  refine hline c (h.message_subset (List.mem_append_right _ ?_))
  rw [htail]
  simp [framed, hc]

theorem message_line (hline : ∀ c ∈ s, isLineBoundary c = false) :
    ∀ c ∈ found.message, isLineBoundary c = false :=
  fun c hc => hline c (h.message_subset (List.mem_append_left _ hc))

end Reads

/-- **What is read with a place is normal**, and its numbers fit. -/
theorem normalLocated_of_ofLine? {s : Text} (htrimmed : s.trim = s)
    (hline : ∀ c ∈ s, isLineBoundary c = false) {d : Diagnostic} (h : ofLine? s = some (.ok d))
    (hfile : d.file? ≠ none) : d.NormalLocated ∧ d.NumbersFit := by
  obtain ⟨location, found, hlocated, hd⟩ := exists_located_of_file? h hfile
  obtain ⟨file, between, tail, hreads⟩ := exists_reads_of_locatedStatement? hlocated
  obtain ⟨severity, line, column, hlineNumber, hcolumnNumber, rfl⟩ := exists_of_ofLocated hd
  refine ⟨⟨⟨hreads.code_ne_nil, hreads.code_isWord, hreads.normalMessage htrimmed,
    hreads.message_line hline, hreads.project_line hline⟩, location.file, line, column,
    hreads.isAt htrimmed hline rfl rfl rfl⟩, ?_⟩
  rintro n (hn | hn)
  · obtain rfl : line = n := by simpa using hn
    exact Text.lt_of_toWhole hlineNumber
  · obtain rfl : column = n := by simpa using hn
    exact Text.lt_of_toWhole hcolumnNumber

/-! ## Output -/

/-- Lines of diagnostics that are each read as they were are read as the diagnostics. -/
theorem ofOutput_unlines_line {ds : List Diagnostic} (h : ∀ d ∈ ds, reports d.line = [.ok d]) :
    ofOutput (Text.unlines (ds.map line)) = .ok ds := by
  have hreports : (ds.map line).flatMap reports = ds.map .ok := by
    rw [List.flatMap_map, List.map_eq_flatMap]
    exact List.flatMap_congr h
  rw [ofOutput_unlines, hreports, List.mapM_map]
  have hall : ds.mapM (id ∘ (.ok : Diagnostic → Except DiagnosticFault Diagnostic))
      = .ok (ds.map id) := mapM_eq_ok_map id (fun _ _ => rfl)
  rwa [List.map_id] at hall

/-- **Writing and reading diagnostics are inverse.** Normal diagnostics whose numbers fit can be
    shown, and their lines are read as these diagnostics and no others; and every diagnostic that is
    read with a place, whatever the output, is such a one. -/
theorem ofOutput_normal :
    (∀ ds : List Diagnostic, (∀ d ∈ ds, d.Normal ∧ d.NumbersFit) →
      (∀ d ∈ ds, d.shown = .ok d.text) ∧ ofOutput (Text.unlines (ds.map line)) = .ok ds)
    ∧ ∀ output ds, ofOutput output = .ok ds →
      ∀ d ∈ ds, d.file? ≠ none → d.NormalLocated ∧ d.NumbersFit := by
  constructor
  · intro ds hds
    refine ⟨fun d hd => (hds d hd).1.shown_eq (hds d hd).2, ofOutput_unlines_line (fun d hd => ?_)⟩
    obtain ⟨hlocated | hbare, hfit⟩ := hds d hd
    · exact hlocated.reports_eq hfit
    · exact hbare.reports_eq
  · intro output ds hread d hd hfile
    obtain ⟨read, hmem, hok⟩ := exists_of_mem_mapM hread d hd
    obtain ⟨trimmed, htrimmed, hofLine⟩ := List.mem_filterMap.1 hmem
    obtain ⟨line, hline, rfl⟩ := List.mem_map.1 htrimmed
    rw [show read = .ok d from hok] at hofLine
    exact normalLocated_of_ofLine? (Text.trim_trim line)
      (fun c hc => Text.isLineBoundary_of_mem_lines hline c (Text.mem_of_mem_trim hc)) hofLine hfile

/-- An error with brackets in its message and in its project, and a warning that reads like a line
    of another tool. -/
theorem ofOutput_normal_two :
    let error : Diagnostic := ⟨.error, "CS1003", "] expected in a [0] b", some "My App/A.cs",
      some 12, some 0, some "App [x"⟩
    let warning : Diagnostic := ⟨.warning, "W1", "x : error E1: [a] b", none, none, none, none⟩
    let output := Text.unlines ([error, warning].map line)
    (∀ d ∈ [error, warning], d.Normal ∧ d.NumbersFit) ∧ ofOutput output = .ok [error, warning]
      ∧ ∀ d ∈ [error, warning], d.file? ≠ none → d.NormalLocated ∧ d.NumbersFit := by
  intro error warning output
  have herrorMessage : NormalMessage error.message error.project? :=
    ⟨by decide, by decide, by rintro _ ⟨⟩; exact ⟨by decide, by decide⟩, by decide,
      fun _ => by decide +kernel⟩
  have hwarningMessage : NormalMessage warning.message warning.project? :=
    ⟨by decide, by decide, by simp [warning], fun _ => by decide +kernel, fun h => absurd rfl h⟩
  have herror : error.NormalLocated :=
    ⟨⟨by decide, List.all_eq_true.1 (by decide +kernel), herrorMessage,
      eq_false_of_any (by decide), by rintro _ ⟨⟩; exact eq_false_of_any (by decide)⟩,
      "My App/A.cs", 12, 0, rfl, rfl, rfl, by decide, by decide, by decide,
      eq_false_of_any (by decide)⟩
  have hwarning : warning.NormalBare :=
    ⟨⟨by decide, List.all_eq_true.1 (by decide +kernel), hwarningMessage,
      eq_false_of_any (by decide), by simp [warning]⟩, rfl, rfl, rfl, by decide,
      by simp [warning]⟩
  have hfit : ∀ n : Nat, n < 10 ^ 2 → n < 10 ^ digitLimit := fun n hn =>
    Nat.lt_of_lt_of_le hn (Nat.pow_le_pow_right (by decide) (by decide))
  have hds : ∀ d ∈ [error, warning], d.Normal ∧ d.NumbersFit := by
    simp only [List.forall_mem_cons, List.not_mem_nil, false_imp_iff, implies_true, and_true]
    refine ⟨⟨.inl herror, ?_⟩, ⟨.inr hwarning, ?_⟩⟩
    · rintro n (hn | hn)
      · exact hfit n (by simp [error] at hn; omega)
      · exact hfit n (by simp [error] at hn; omega)
    · rintro n (⟨⟨⟩⟩ | ⟨⟨⟩⟩)
  have hread := (ofOutput_normal.1 [error, warning] hds).2
  exact ⟨hds, hread, ofOutput_normal.2 output [error, warning] hread⟩

/-- A place of one digit more than a number is read from: the diagnostic is normal, but it cannot
    be shown, and its line is not read back. -/
theorem ofOutput_line_tooLong :
    let d : Diagnostic := ⟨.error, "E", "m", some "a", some ((10 ^ digitLimit : Nat) : Int),
      some 1, none⟩
    d.Normal ∧ d.shown = .error ⟨⟩
      ∧ ofOutput (Text.unlines ([d].map line))
        = .error (.number (.tooLong (digitLimit + 1))) := by
  generalize hlong : 10 ^ digitLimit = n
  intro d
  have hat : d.IsAt "a" n 1 :=
    ⟨rfl, rfl, rfl, by decide, by decide, by decide, eq_false_of_any (by decide)⟩
  have hcode : ∀ c ∈ ("E" : Text), isWord c = true := List.all_eq_true.1 (by decide +kernel)
  have hmessage : NormalMessage "m" none :=
    ⟨by decide, by decide, by simp, fun _ => by decide, fun h => absurd rfl h⟩
  have hline : ∀ c ∈ ("m" : Text), isLineBoundary c = false := eq_false_of_any (by decide)
  have hnormal : d.NormalLocated :=
    ⟨⟨by simp [d], hcode, hmessage, hline, by simp [d]⟩, "a", n, 1, hat⟩
  have hreports := hnormal.reports_tooLong hat (Nat.le_of_eq hlong)
  rw [← hlong, Text.length_ofNat_pow] at hreports
  refine ⟨.inl hnormal, hat.shown_tooLong (Nat.le_of_eq hlong), ?_⟩
  rw [ofOutput_unlines, List.map_singleton, List.flatMap_singleton, hreports]
  rfl

end CompileTrace.Diagnostic
