import CompileTrace.Proofs.CommandLine.Quoting

set_option autoImplicit false

/-! # Recorded arguments and what they stand for

The arguments of a line can be had as they were recorded or as what they stand for, and both come
from the same tokens. A reader that has to give only one of the two need not know of tokens: it
copies each argument while it reads the line, leaves the quotes of a region out unless they are
kept, and takes an escaping backslash back when the quote after it shows what it was for. Such a
reader (`copiedArguments`) gives the same (`copiedArguments_eq`). So both ways of reading fail on
the same lines and find equally many arguments, and a recorded argument by itself is one argument
and stands for what it does on the line (`arguments_modes_agree`). -/

namespace CompileTrace

namespace Text

/-! ## Escapes in a text of two parts -/

/-- Escapes are taken away part by part unless one is cut in two. -/
theorem unescapeQuotes_append (a b : Text)
    (h : a.getLast? = some (char '\\') → b.head? ≠ some (char '"')) :
    unescapeQuotes (a ++ b) = unescapeQuotes a ++ unescapeQuotes b := by
  fun_induction unescapeQuotes a with
  | case1 => rfl
  | case2 rest ih =>
    have hrest := ih (fun hlast => h (by simp [List.getLast?_cons, hlast]))
    simp only [List.cons_append, unescapeQuotes, hrest]
  | case3 c rest hescape ih =>
    have hrest := ih (fun hlast => h (by simp [List.getLast?_cons, hlast]))
    have hkept : ¬ (c = '\\' ∧ (rest ++ b).head? = some (char '"')) := by
      rintro ⟨rfl, hhead⟩
      cases rest with
      | nil => exact h rfl hhead
      | cons d more =>
        rw [List.cons_append, List.head?_cons, Option.some.injEq] at hhead
        exact hescape more rfl (by rw [hhead])
    rw [List.cons_append, unescapeQuotes_cons c _ hkept, hrest, List.cons_append]

/-- Any character but a quote is kept at the end. -/
theorem unescapeQuotes_concat (s : Text) (c : CodePoint) (hc : c ≠ '"') :
    unescapeQuotes (s ++ [c]) = unescapeQuotes s ++ [c] := by
  have hsingle : unescapeQuotes [c] = [c] := unescapeQuotes_cons c [] (by simp)
  rw [unescapeQuotes_append s [c] (by simp [hc]), hsingle]

/-- An escaped quote at the end loses its backslash. -/
theorem unescapeQuotes_escaped (s : Text) :
    unescapeQuotes (s ++ [char '\\', char '"']) = unescapeQuotes s ++ [char '"'] :=
  unescapeQuotes_append s _ (by simp)

end Text

/-! ## Copying arguments while reading -/

/-- Where a reader stands that copies each argument while it reads it: between arguments, in plain
    text, or in a region, of which it keeps the content read so far. All stand back to front. -/
inductive Copying
  | between
  | text (copied : Text)
  | region (content copied : Text)
  deriving DecidableEq, Repr

namespace Copying

/-- What is copied when a quote delimits a region. -/
def delimit (keepQuotes : Bool) (copied : Text) : Text :=
  if keepQuotes then char '"' :: copied else copied

/-- Reads one character: where the reader stands then, and the argument that the character ends. -/
def next (keepQuotes : Bool) (copying : Copying) (c : CodePoint) : Copying × Option Text :=
  match copying with
  | between =>
    if isBlank c then (between, none)
    else if c = '"' then (region [] (delimit keepQuotes []), none)
    else (text [c], none)
  | text copied =>
    if c = '"' then (region [] (delimit keepQuotes copied), none)
    else if isBlank c then (between, some copied.reverse)
    else (text (c :: copied), none)
  | region content copied =>
    if c ≠ '"' then (region (c :: content) (c :: copied), none)
    else if content.head? ≠ some (char '\\') then
      (between, some (delimit keepQuotes copied).reverse)
    -- the escaping backslash is the last character that was copied
    else (region (c :: content) (c :: if keepQuotes then copied else copied.tail), none)

/-- The arguments when the line is over, or the region that is still open. -/
def finish : Copying → Except Text (List Text)
  | between => .ok []
  | text copied => .ok [copied.reverse]
  | region content _ => .error (char '"' :: content.reverse)

/-- The arguments on the rest of a line, or the region that it leaves open. -/
def arguments (keepQuotes : Bool) (copying : Copying) : Text → Except Text (List Text)
  | [] => copying.finish
  | c :: rest =>
    let step := copying.next keepQuotes c
    (step.1.arguments keepQuotes rest).map (step.2.toList ++ ·)

end Copying

/-- The arguments on a command line, each copied while the line is read. -/
def copiedArguments (keepQuotes : Bool) (commandLine : Text) :
    Except UnclosedRegion (List Text) :=
  (Copying.between.arguments keepQuotes commandLine).mapError (⟨·, commandLine⟩)

namespace Reading

/-- What has been copied in a region after the text before it, back to front. -/
def copied (keepQuotes : Bool) (seen content : Text) : Text :=
  if keepQuotes then content ++ char '"' :: seen
  else (Text.unescapeQuotes content.reverse).reverse ++ seen

theorem copied_nil (keepQuotes : Bool) (seen : Text) :
    copied keepQuotes seen [] = Copying.delimit keepQuotes seen := by
  cases keepQuotes <;> rfl

theorem copied_cons (keepQuotes : Bool) (seen content : Text) (c : CodePoint) (hc : c ≠ '"') :
    copied keepQuotes seen (c :: content) = c :: copied keepQuotes seen content := by
  cases keepQuotes with
  | true => rfl
  | false => simp [copied, Text.unescapeQuotes_concat content.reverse c hc]

/-- An escaped quote takes the place of the backslash unless all is kept. -/
theorem copied_escaped (keepQuotes : Bool) (seen content : Text)
    (h : content.head? = some (char '\\')) :
    copied keepQuotes seen (char '"' :: content)
      = char '"' :: if keepQuotes then copied keepQuotes seen content
        else (copied keepQuotes seen content).tail := by
  obtain ⟨before, rfl⟩ := List.head?_eq_some_iff.1 h
  cases keepQuotes with
  | true => rfl
  | false =>
    have hbackslash := Text.unescapeQuotes_concat before.reverse '\\' (by decide)
    have hboth := Text.unescapeQuotes_escaped before.reverse
    simp [copied, hbackslash, hboth]

/-- With the closing quote the argument of the token has been copied. -/
theorem reverse_copied (keepQuotes : Bool) (seen content : Text) :
    (Copying.delimit keepQuotes (copied keepQuotes seen content)).reverse
      = Token.argument keepQuotes ⟨seen.reverse, some content.reverse⟩ := by
  cases keepQuotes with
  | true => simp [Copying.delimit, copied, Token.argument, Token.raw]
  | false => simp [Copying.delimit, copied, Token.argument, Token.value]

/-- Where a reader that copies stands when reading stands there. -/
def copy (keepQuotes : Bool) : Reading → Copying
  | between => .between
  | text seen => .text seen
  | region seen content _ => .region content (copied keepQuotes seen content)

/-- **One character leads both readers to the same place**, and they end the same argument. -/
theorem next_copy (keepQuotes : Bool) (reading : Reading) (c : CodePoint) (h : reading.Valid) :
    (reading.copy keepQuotes).next keepQuotes c
      = ((reading.next c).1.copy keepQuotes,
        (reading.next c).2.map (Token.argument keepQuotes)) := by
  cases reading with
  | between =>
    show Copying.next keepQuotes .between c = _
    simp only [next, Copying.next]
    split
    · rfl
    · split
      · rw [← copied_nil]
        rfl
      · rfl
  | text seen =>
    show Copying.next keepQuotes (.text seen) c = _
    simp only [next, Copying.next]
    split
    · rw [← copied_nil]
      rfl
    · split
      · cases keepQuotes <;> rfl
      · rfl
  | region seen content afterBackslash =>
    obtain ⟨-, -, hlast⟩ := h
    show Copying.next keepQuotes (.region content (copied keepQuotes seen content)) c = _
    by_cases hquote : c = '"'
    · subst hquote
      by_cases hescaped : content.head? = some (char '\\')
      · simp [next, Copying.next, copy, hlast.2 hescaped, hescaped,
          copied_escaped keepQuotes seen content hescaped]
      · have hcloses : ¬ afterBackslash = true := fun h => hescaped (hlast.1 h)
        simp [next, Copying.next, copy, hcloses, hescaped, reverse_copied]
    · simp [next, Copying.next, copy, hquote, copied_cons keepQuotes seen content c hquote]

/-- Both readers read the rest of a line alike. -/
theorem arguments_copy (keepQuotes : Bool) (reading : Reading) (s : Text) (h : reading.Valid) :
    (reading.copy keepQuotes).arguments keepQuotes s
      = (reading.tokens s).map (·.map (Token.argument keepQuotes)) := by
  induction s generalizing reading with
  | nil =>
    cases reading with
    | between => rfl
    | text seen => cases keepQuotes <;> rfl
    | region seen content afterBackslash => rfl
  | cons c rest ih =>
    rw [Copying.arguments, next_copy keepQuotes reading c h, tokens_cons,
      ih _ (next_valid reading c h).1]
    cases (reading.next c).1.tokens rest with
    | error openRegion => rfl
    | ok later => cases (reading.next c).2 <;> simp [Except.map]

end Reading

/-- **Copying each argument while the line is read gives what its tokens give.** -/
theorem copiedArguments_eq (keepQuotes : Bool) (commandLine : Text) :
    copiedArguments keepQuotes commandLine = arguments keepQuotes commandLine := by
  have hcopy : Copying.between.arguments keepQuotes commandLine = _ :=
    Reading.arguments_copy keepQuotes .between commandLine trivial
  rw [copiedArguments, arguments, tokenize, hcopy]
  cases Reading.between.tokens commandLine <;> rfl

/-! ## One tokenization -/

/-- A well-formed token by itself is one argument. -/
theorem arguments_raw (keepQuotes : Bool) (token : Token) (h : token.WellFormed) :
    arguments keepQuotes token.raw = .ok [token.argument keepQuotes] := by
  rw [arguments_eq_ok_iff]
  exact ⟨[token], tokenize_eq_ok_iff.2 (Reading.tokens_raw token h), rfl⟩

/-- **The two ways of reading are one tokenization.** Each is what a reader gives that copies the
    arguments while it reads. They fail on the same lines with the same fault. Where they succeed
    they find equally many arguments; a recorded argument, read by itself, is that one argument, or
    the one that it stands for on the line; the meanings of all in turn are those of the line; and
    the recorded arguments with a space between each two are read as the line is. -/
theorem arguments_modes_agree (commandLine : Text) :
    (∀ keepQuotes, copiedArguments keepQuotes commandLine = arguments keepQuotes commandLine)
      ∧ (∀ fault, arguments false commandLine = .error fault
          ↔ arguments true commandLine = .error fault)
      ∧ ∀ raws, arguments true commandLine = .ok raws →
        ∃ values, arguments false commandLine = .ok values ∧ values.length = raws.length
          ∧ (∀ pair ∈ raws.zip values,
            arguments true pair.1 = .ok [pair.1] ∧ arguments false pair.1 = .ok [pair.2])
          ∧ (raws.mapM (arguments false)).map List.flatten = .ok values
          ∧ ∀ keepQuotes, arguments keepQuotes (Text.join [char ' '] raws)
            = arguments keepQuotes commandLine := by
  refine ⟨fun keepQuotes => copiedArguments_eq keepQuotes commandLine, ?_, ?_⟩
  · intro fault
    rw [arguments_eq_error_iff, arguments_eq_error_iff]
  · intro raws hraws
    obtain ⟨found, htokens, rfl⟩ := arguments_eq_ok_iff.1 hraws
    have hwell := tokenize_wellFormed commandLine found htokens
    refine ⟨found.map Token.value, ?_, by simp, ?_, ?_, ?_⟩
    · exact arguments_eq_ok_iff.2 ⟨found, htokens, rfl⟩
    · intro pair hpair
      rw [List.zip_map'] at hpair
      obtain ⟨token, htoken, rfl⟩ := List.mem_map.1 hpair
      have hwell := hwell token htoken
      exact ⟨arguments_raw true token hwell, arguments_raw false token hwell⟩
    · have hparts : (found.map Token.raw).mapM (arguments false)
          = .ok (found.map (fun token => [token.value])) := by
        rw [List.mapM_map]
        exact mapM_eq_ok_map _ (fun token htoken => arguments_raw false token (hwell token htoken))
      have hflat : (found.map (fun token => [token.value])).flatten = found.map Token.value := by
        rw [← List.flatMap_def, ← List.map_eq_flatMap]
      show ((found.map Token.raw).mapM (arguments false)).map List.flatten = _
      rw [hparts]
      exact congrArg Except.ok hflat
    · intro keepQuotes
      have hjoin := tokenize_join_raw found hwell
      show arguments keepQuotes (Text.join [char ' '] (found.map Token.raw)) = _
      rw [arguments, arguments, hjoin, htokens]

/-- An escaped quote, an empty region right after another one, and plain text. -/
theorem arguments_modes_agree_escaped :
    let commandLine : Text := "/out:\"a \\\"b\"\"\" c".toText
    let raws : List Text := ["/out:\"a \\\"b\"".toText, "\"\"".toText, "c".toText]
    arguments true commandLine = .ok raws
      ∧ ∃ values, arguments false commandLine = .ok values ∧ values.length = 3
        ∧ arguments false (Text.join [char ' '] raws) = .ok values := by
  intro commandLine raws
  have hraws : arguments true commandLine = .ok raws := by decide
  obtain ⟨values, hvalues, hlength, -, -, hjoin⟩ :=
    (arguments_modes_agree commandLine).2.2 raws hraws
  exact ⟨hraws, values, hvalues, hlength, (hjoin false).trans hvalues⟩

end CompileTrace
