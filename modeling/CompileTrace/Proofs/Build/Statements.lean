import CompileTrace.Build.Diagnostic
import CompileTrace.Proofs.Text.Fields
import CompileTrace.Proofs.Text.Trimming

set_option autoImplicit false

/-! # The parts of a diagnostic on a line

A line is read from its start, and most of its parts end where a character comes that they cannot
hold. Only the message may hold anything: it ends where for the first time nothing but a project
between brackets follows, or at the end of the line (`Splits`). Each part is read back where it was
written (`statement?_append`, `location?_append`), and what is read stands in the line
(`exists_of_statement?`, `exists_of_location?`). -/

namespace CompileTrace.Diagnostic

/-! ## Projects at the end of a line -/

/-- Whether a text can stand between brackets as a project. -/
structure IsProject (project : Text) : Prop where
  ne_nil : project ≠ []
  closed : char ']' ∉ project

/-- A project between brackets, after some blanks. -/
def framed (blanks project : Text) : Text := blanks ++ char '[' :: (project ++ [char ']'])

theorem projectIn?_framed {blanks project : Text} (hne : blanks ≠ [])
    (hblanks : ∀ c ∈ blanks, isBlank c = true) (hproject : IsProject project) :
    projectIn? (framed blanks project) = some project := by
  have hdrop : (framed blanks project).dropWhile isBlank = char '[' :: (project ++ [char ']']) := by
    rw [framed, List.dropWhile_append_of_pos hblanks, List.dropWhile_cons_of_neg (by decide)]
  cases blanks with
  | nil => exact absurd rfl hne
  | cons b rest =>
    have hb : isBlank b = true := hblanks b List.mem_cons_self
    rw [framed, List.cons_append] at hdrop ⊢
    simp [projectIn?, hb, hdrop, hproject.ne_nil, hproject.closed]

theorem projectIn?_blank {blank : CodePoint} (hblank : isBlank blank = true) {project : Text}
    (hproject : IsProject project) :
    projectIn? (blank :: char '[' :: (project ++ [char ']'])) = some project :=
  projectIn?_framed (List.cons_ne_nil blank []) (by simpa using hblank) hproject

theorem exists_framed_of_projectIn? {s project : Text} (h : projectIn? s = some project) :
    ∃ blanks, blanks ≠ [] ∧ (∀ c ∈ blanks, isBlank c = true) ∧ IsProject project
      ∧ s = framed blanks project := by
  cases s with
  | nil => cases h
  | cons c rest =>
    simp only [projectIn?] at h
    split at h
    · next hc =>
      split at h
      · next inside hinside =>
        split at h
        · next hlast =>
          split at h
          · cases h
          · next hproject =>
            cases h
            simp only [Bool.or_eq_true, not_or, List.isEmpty_iff, List.contains_iff_mem] at hproject
            refine ⟨(c :: rest).takeWhile isBlank, by simp [hc],
              fun d hd => List.mem_takeWhile_imp hd, ⟨hproject.1, hproject.2⟩, ?_⟩
            rw [framed, List.dropLast_append_getLast? (char ']') hlast, ← hinside,
              List.takeWhile_append_dropWhile]
        · cases h
      · cases h
    · cases h

/-! ## Where a message ends -/

/-- Whether a message is parted from what follows it where a project first follows up to the end,
    or at the end if none does. -/
structure Splits (message tail : Text) (project? : Option Text) : Prop where
  ne_nil : message ≠ []
  project : projectIn? tail = project?
  tail_nil : project? = none → tail = []
  first : ∀ before rest, message = before ++ rest → before ≠ [] → rest ≠ [] →
    projectIn? (rest ++ tail) = none

namespace Splits

theorem singleton (c : CodePoint) {tail : Text} {project? : Option Text}
    (hproject : projectIn? tail = project?) (hnil : project? = none → tail = []) :
    Splits [c] tail project? := by
  refine ⟨by simp, hproject, hnil, fun before rest hmessage hbefore hrest => ?_⟩
  rcases List.append_eq_singleton_iff.1 hmessage.symm with ⟨rfl, -⟩ | ⟨-, rfl⟩
  · exact absurd rfl hbefore
  · exact absurd rfl hrest

variable {message tail : Text} {project? : Option Text}

theorem cons (h : Splits message tail project?) (hnone : projectIn? (message ++ tail) = none)
    (c : CodePoint) : Splits (c :: message) tail project? := by
  refine ⟨by simp, h.project, h.tail_nil, fun before rest hmessage hbefore hrest => ?_⟩
  cases before with
  | nil => exact absurd rfl hbefore
  | cons b before' =>
    rw [List.cons_append, List.cons.injEq] at hmessage
    by_cases hbefore' : before' = []
    · rwa [hmessage.2, hbefore', List.nil_append] at hnone
    · exact h.first before' rest hmessage.2 hbefore' hrest

theorem of_cons {c : CodePoint} (h : Splits (c :: message) tail project?) (hne : message ≠ []) :
    Splits message tail project? :=
  ⟨hne, h.project, h.tail_nil, fun before rest hmessage _ hrest =>
    h.first (c :: before) rest (by rw [hmessage, List.cons_append]) (by simp) hrest⟩

theorem splitProject_eq (h : Splits message tail project?) :
    splitProject (message ++ tail) = (message, project?) := by
  induction message with
  | nil => exact absurd rfl h.ne_nil
  | cons c rest ih =>
    by_cases hrest : rest = []
    · rw [hrest, List.singleton_append, splitProject, h.project]
      cases project? with
      | some project => rfl
      | none =>
        rw [h.tail_nil rfl]
        rfl
    · have hnone := h.first [c] rest rfl (by simp) hrest
      rw [List.cons_append, splitProject, hnone, ih (h.of_cons hrest)]

end Splits

/-- Every text that is not empty is parted. -/
theorem exists_splits {s : Text} (hne : s ≠ []) :
    ∃ tail, s = (splitProject s).1 ++ tail ∧ Splits (splitProject s).1 tail (splitProject s).2 := by
  induction s with
  | nil => exact absurd rfl hne
  | cons c rest ih =>
    rw [splitProject]
    cases hproject : projectIn? rest with
    | some project => exact ⟨rest, rfl, .singleton c hproject (by simp)⟩
    | none =>
      by_cases hrest : rest = []
      · rw [hrest]
        exact ⟨[], rfl, .singleton c rfl (fun _ => rfl)⟩
      · obtain ⟨tail, hsplit, hsplits⟩ := ih hrest
        refine ⟨tail, by rw [List.cons_append, ← hsplit], hsplits.cons ?_ c⟩
        rwa [← hsplit]

/-! ## Statements -/

theorem append_of_spelled? {word s found rest : Text} (h : spelled? word s = some (found, rest)) :
    s = found ++ rest := by
  induction word generalizing s found with
  | nil =>
    cases h
    rfl
  | cons letter word ih =>
    cases s with
    | nil => cases h
    | cons c s =>
      rw [spelled?] at h
      split at h
      · obtain ⟨⟨found', rest'⟩, hfound, hpair⟩ := Option.map_eq_some_iff.1 h
        cases hpair
        rw [ih hfound, List.cons_append]
      · cases h

theorem append_of_severity? {s found rest : Text} (h : severity? s = some (found, rest)) :
    s = found ++ rest := by
  obtain ⟨severity, -, hspelled⟩ := List.exists_of_findSome?_eq_some h
  exact append_of_spelled? hspelled

theorem severity?_append (severity : Severity) (rest : Text) :
    severity? (severity.name ++ rest) = some (severity.name, rest) := by
  cases severity <;> rfl

theorem head?_isBlank_of_isWord {code rest : Text} (hne : code ≠ [])
    (hcode : ∀ c ∈ code, isWord c = true) : ∀ c ∈ (code ++ rest).head?, isBlank c = false := by
  obtain ⟨first, others, rfl⟩ := List.exists_cons_of_ne_nil hne
  rintro c ⟨⟩
  exact isBlank_eq_false_of_isWord (hcode first List.mem_cons_self)

/-- **A statement is read where it was written.** -/
theorem statement?_append (severity : Severity) {code message tail : Text}
    {project? : Option Text} (hne : code ≠ []) (hcode : ∀ c ∈ code, isWord c = true)
    (hsplits : Splits message tail project?)
    (hmessage : ∀ c ∈ message.head?, isBlank c = false) :
    statement? (severity.name ++ char ' ' :: (code ++ char ':' :: char ' ' :: (message ++ tail)))
      = some ⟨severity.name, code, message, project?⟩ := by
  have hblanks : ∀ s : Text, (∀ c ∈ s.head?, isBlank c = false) →
      (char ' ' :: s).dropWhile isBlank = s := by
    intro s hs
    rw [List.dropWhile_cons_of_pos (by decide), Text.dropWhile_eq_self hs]
  have hbody : ∀ c ∈ (message ++ tail).head?, isBlank c = false := by
    obtain ⟨first, others, hfirst⟩ := List.exists_cons_of_ne_nil hsplits.ne_nil
    rw [hfirst] at hmessage ⊢
    exact hmessage
  have hspan : (code ++ char ':' :: char ' ' :: (message ++ tail)).span isWord
      = (code, char ':' :: char ' ' :: (message ++ tail)) :=
    span_append hcode (by rintro c ⟨⟩; decide +kernel)
  obtain ⟨first, others, hcons⟩ := List.exists_cons_of_ne_nil hne
  obtain ⟨first', others', hcons'⟩ := List.exists_cons_of_ne_nil hsplits.ne_nil
  have hlength : ∀ n : Nat, n ≠ n + 1 := by omega
  rw [statement?, severity?_append]
  simp only [hblanks _ (head?_isBlank_of_isWord hne hcode), hspan, List.length_cons,
    if_neg (hlength _)]
  rw [hcons]
  simp only [hblanks _ hbody]
  rw [hcons', List.cons_append]
  simp only [← List.cons_append, ← hcons', hsplits.splitProject_eq]

/-- What a statement reads: a word, and a message that begins without a blank and is parted from
    what follows it. -/
theorem exists_of_statement? {s : Text} {found : Statement} (h : statement? s = some found) :
    found.code ≠ [] ∧ (∀ c ∈ found.code, isWord c = true)
      ∧ (∀ c ∈ found.message.head?, isBlank c = false)
      ∧ ∃ before tail, s = before ++ (found.message ++ tail)
        ∧ Splits found.message tail found.project? := by
  rw [statement?] at h
  split at h
  · cases h
  · next severity rest hseverity =>
    dsimp only at h
    split at h
    · cases h
    · split at h
      · cases h
      · next code rest' hne hspan =>
        obtain ⟨hcode, hword⟩ := append_of_span hspan
        split at h
        · cases h
        · next hne' =>
          cases h
          obtain ⟨tail, hbody, hsplits⟩ := exists_splits (fun hnil => hne' hnil)
          refine ⟨fun hnil => hne hnil, hword, fun c hc => ?_,
            severity ++ (rest.takeWhile isBlank
              ++ (code ++ char ':' :: rest'.takeWhile isBlank)), tail,
            ?_, hsplits⟩
          · -- the message begins as the text after the blanks does
            refine Text.head?_dropWhile_isBlank rest' c ?_
            rw [hbody, List.head?_append, Option.mem_def.1 hc, Option.some_or]
            rfl
          · rw [← hbody, append_of_severity? hseverity]
            simp only [List.append_assoc, List.cons_append, List.takeWhile_append_dropWhile,
              ← hcode]
      · cases h

/-! ## Places -/

theorem digits?_append {digits rest : Text} (hne : digits ≠ [])
    (hdigits : ∀ c ∈ digits, isDecimalDigit c = true)
    (hrest : ∀ c ∈ rest.head?, isDecimalDigit c = false) :
    digits? (digits ++ rest) = some (digits, rest) := by
  obtain ⟨first, others, rfl⟩ := List.exists_cons_of_ne_nil hne
  rw [digits?, span_append hdigits hrest]

theorem append_of_digits? {s digits rest : Text} (h : digits? s = some (digits, rest)) :
    s = digits ++ rest ∧ ∀ c ∈ digits, isDecimalDigit c = true := by
  rw [digits?] at h
  split at h
  · cases h
  · exact append_of_span (Option.some.inj h)

/-- **A place is read where it was written.** -/
theorem location?_append {file line column : Text} (rest : Text) (hne : file ≠ [])
    (hfile : char '(' ∉ file) (hline : line ≠ [])
    (hlineDigits : ∀ c ∈ line, isDecimalDigit c = true)
    (hcolumn : column ≠ []) (hcolumnDigits : ∀ c ∈ column, isDecimalDigit c = true) :
    location? (file ++ char '(' :: (line ++ char ',' :: (column ++ char ')' :: char ':' :: rest)))
      = some (⟨file.trim, line, column⟩, rest) := by
  obtain ⟨first, others, rfl⟩ := List.exists_cons_of_ne_nil hne
  have hcut := Text.cutAt?_append '(' (first :: others)
    (line ++ char ',' :: (column ++ char ')' :: char ':' :: rest)) hfile
  have hline' :
      digits? (line ++ char ',' :: (column ++ char ')' :: char ':' :: rest)) = some (line, _) :=
    digits?_append hline hlineDigits (by rintro c ⟨⟩; decide)
  have hcolumn' : digits? (column ++ char ')' :: char ':' :: rest) = some (column, _) :=
    digits?_append hcolumn hcolumnDigits (by rintro c ⟨⟩; decide)
  have hcomma := Text.dropStart?_append [char ','] (column ++ char ')' :: char ':' :: rest)
  have hclose := Text.dropStart?_append [char ')', char ':'] rest
  rw [List.singleton_append] at hcomma
  rw [List.cons_append, List.singleton_append] at hclose
  simp only [location?, hcut, hline', Option.bind_eq_bind, Option.bind_some, hcomma, hcolumn',
    hclose]

/-- What a place reads: a file, which ends at the first parenthesis, and two numbers in digits. -/
theorem exists_of_location? {s rest : Text} {found : Location}
    (h : location? s = some (found, rest)) :
    ∃ file : Text, file ≠ [] ∧ char '(' ∉ file ∧ found.file = file.trim
      ∧ (∀ c ∈ found.line, isDecimalDigit c = true)
      ∧ (∀ c ∈ found.column, isDecimalDigit c = true)
      ∧ s = file ++ char '(' ::
        (found.line ++ char ',' :: (found.column ++ char ')' :: char ':' :: rest)) := by
  rw [location?] at h
  split at h
  · cases h
  · cases h
  · next file after hne hcut =>
    obtain ⟨hs, hfile⟩ := Text.eq_append_of_cutAt? hcut
    obtain ⟨⟨line, afterLine⟩, hline, h⟩ := Option.bind_eq_some_iff.1 h
    obtain ⟨afterComma, hcomma, h⟩ := Option.bind_eq_some_iff.1 h
    obtain ⟨⟨column, afterColumn⟩, hcolumn, h⟩ := Option.bind_eq_some_iff.1 h
    obtain ⟨rest', hclose, h⟩ := Option.bind_eq_some_iff.1 h
    cases h
    obtain ⟨hafter, hlineDigits⟩ := append_of_digits? hline
    obtain ⟨hafterComma, hcolumnDigits⟩ := append_of_digits? hcolumn
    refine ⟨file, fun hnil => hne hnil, hfile, rfl, hlineDigits, hcolumnDigits, ?_⟩
    rw [hs, hafter, Text.dropStart?_eq_some_iff.1 hcomma, hafterComma,
      Text.dropStart?_eq_some_iff.1 hclose]
    rfl

end CompileTrace.Diagnostic
