import CompileTrace.Proofs.CommandLine.Executable
import CompileTrace.Proofs.CommandLine.Quoting
import CompileTrace.Proofs.Compiler.Paths
import CompileTrace.Proofs.Compiler.Switches
import CompileTrace.Proofs.Text.Fields

set_option autoImplicit false

/-! # What a recorded command line tells

Builds record the compiler with its switches, each reference after the name of a switch and each
source by itself, all paths in quotes. Reading such a line takes four steps: the executable is
dropped, the rest is cut into tokens, switches are told from paths, and values are unquoted and
resolved. Each step treats some characters in a way of its own, and a path is *recordable* when
none of them does so with it. What was recorded is then what the line tells
(`interpretFrom_recorded`). -/

namespace CompileTrace

/-! ## Recorded paths -/

/-- A path that can be recorded as a reference: nothing in it separates the items of a list or a
    path from an alias, and nothing is taken from its ends. -/
structure RecordableReference (path : Text) : Prop where
  normal : Path.IsNormal path
  no_quote : char '"' ∉ path
  no_comma : char ',' ∉ path
  no_semicolon : char ';' ∉ path
  no_equals : char '=' ∉ path
  trimmed : path.trim = path
  last : path.getLast? ≠ some (char '\\')

/-- A path that can be recorded as a source: it cannot be taken for a switch, since it has a second
    slash before any colon. -/
structure RecordableSource (path : Text) : Prop where
  normal : Path.IsNormal path
  no_quote : char '"' ∉ path
  components : ∃ first second others, Path.components path = first :: second :: others
    ∧ char ':' ∉ first
  last : path.getLast? ≠ some (char '\\')

/-- A command line as builds record it. -/
def recordedLine (executable : Text) (references sources : List Text) : Text :=
  executable ++ " /noconfig"
    ++ references.flatMap (fun path => (" /reference:\"" ++ path ++ "\"" : Text))
    ++ sources.flatMap (fun path => (" \"" ++ path ++ "\"" : Text))

/-- The tokens of a recorded command line after the executable. -/
def recordedTokens (references sources : List Text) : List Token :=
  ⟨"/noconfig", none⟩
    :: (references.map (fun path => ⟨"/reference:", some path⟩)
      ++ sources.map (fun path => ⟨[], some path⟩))

/-- A recorded command line is the executable and then its tokens as they are recorded. -/
theorem recordedLine_eq_join (executable : Text) (references sources : List Text) :
    recordedLine executable references sources
      = executable
        ++ char ' ' ::
          Text.join [char ' '] ((recordedTokens references sources).map Token.raw) := by
  rw [recordedLine, recordedTokens, List.map_cons, Text.join_cons, List.map_append,
    List.flatMap_append, List.map_map, List.map_map, List.flatMap_map, List.flatMap_map]
  simp [Token.raw]

/-- The arguments that the recorded tokens stand for. -/
def recordedArguments (references sources : List Text) : List Text :=
  "/noconfig" :: (references.map (fun path => ("/reference:" ++ path : Text)) ++ sources)

theorem Token.wellFormed_quoted (text path : Text) (htext : ∀ c ∈ text, isPlain c = true)
    (hquote : char '"' ∉ path) (hlast : path.getLast? ≠ some (char '\\')) :
    Token.WellFormed ⟨text, some path⟩ := by
  refine ⟨htext, by simp, ?_, ?_⟩
  · rintro _ ⟨⟩
    have hescaped := Text.quotesEscaped_escapeQuotes path
    rwa [Text.escapeQuotes_eq_self path hquote] at hescaped
  · rintro _ ⟨⟩
    exact hlast

theorem Token.value_quoted (text path : Text) (hquote : char '"' ∉ path) :
    Token.value ⟨text, some path⟩ = text ++ path := by
  show text ++ path.unescapeQuotes = text ++ path
  rw [Text.unescapeQuotes_eq_self path hquote]

section

variable {references sources : List Text}
  (hreferences : ∀ path ∈ references, RecordableReference path)
  (hsources : ∀ path ∈ sources, RecordableSource path)

include hreferences hsources

theorem wellFormed_recordedTokens :
    ∀ token ∈ recordedTokens references sources, token.WellFormed := by
  intro token htoken
  rcases List.mem_cons.1 htoken with rfl | htoken
  · exact ⟨List.all_eq_true.1 (by decide), by decide, by simp, by simp⟩
  · rcases List.mem_append.1 htoken with htoken | htoken
    · obtain ⟨path, hpath, rfl⟩ := List.mem_map.1 htoken
      have h := hreferences path hpath
      exact Token.wellFormed_quoted _ path (List.all_eq_true.1 (by decide)) h.no_quote h.last
    · obtain ⟨path, hpath, rfl⟩ := List.mem_map.1 htoken
      have h := hsources path hpath
      exact Token.wellFormed_quoted _ path (by simp) h.no_quote h.last

/-- **A recorded command line is read as its tokens**, without the executable. -/
theorem tokenize_recordedLine (executable : Text)
    (hexecutable : ¬ [char ' ', char '/'] <:+: executable) :
    tokenize (dropExecutable (recordedLine executable references sources))
      = .ok (recordedTokens references sources) := by
  have hline := tokenize_join_raw _ (wellFormed_recordedTokens hreferences hsources)
  -- the first token is a switch, where the executable ends
  obtain ⟨rest, hrest⟩ : ∃ rest : Text,
      Text.join [char ' '] ((recordedTokens references sources).map Token.raw)
        = char '/' :: rest := by
    rw [recordedTokens, List.map_cons, Text.join_cons]
    exact ⟨_, rfl⟩
  rw [hrest] at hline
  rw [recordedLine_eq_join, hrest, dropExecutable_append executable rest hexecutable, hline]

/-- The recorded tokens stand for the arguments. -/
theorem value_recordedTokens :
    (recordedTokens references sources).map Token.value = recordedArguments references sources := by
  have hreference : references.map (fun path => Token.value ⟨"/reference:", some path⟩)
      = references.map (fun path => ("/reference:" ++ path : Text)) :=
    List.map_congr_left (fun path hpath =>
      Token.value_quoted _ path (hreferences path hpath).no_quote)
  have hsource : sources.map (fun path => Token.value ⟨[], some path⟩) = sources := by
    rw [List.map_congr_left (fun path hpath =>
      Token.value_quoted [] path (hsources path hpath).no_quote)]
    exact List.map_id sources
  rw [recordedTokens, List.map_cons, List.map_append, List.map_map, List.map_map,
    recordedArguments]
  exact congrArg₂ (fun first second => _ :: (first ++ second)) hreference hsource

end

/-! ## What the arguments tell -/

namespace RecordableSource

/-- A source has a second slash before any colon. -/
theorem exists_slash {path : Text} (h : RecordableSource path) :
    ∃ before after, path = char '/' :: (before ++ char '/' :: after) ∧ char ':' ∉ before := by
  obtain ⟨root, parts, hroot, hparts, rfl⟩ := h.normal
  obtain ⟨first, second, others, hcomponents, hcolon⟩ := h.components
  rw [Path.components_append root parts hroot (Path.areComponents hparts)] at hcomponents
  subst hcomponents
  rcases hroot with rfl | rfl
  · exact ⟨first, Text.join [char '/'] (second :: others), by simp [Text.join_cons_cons], hcolon⟩
  · exact ⟨[], _, rfl, by simp⟩

theorem ofArgument_eq {path : Text} (h : RecordableSource path) (base : Text) :
    Directive.ofArgument base path = .ok (.source path) := by
  obtain ⟨before, after, hpath, hcolon⟩ := h.exists_slash
  have hhead : path.head? ≠ some (char '@') := by simp [hpath]
  have hsplit : Switch.split? path = none := by
    rw [hpath]
    exact Switch.split?_path before after hcolon
  rw [Directive.ofArgument, if_neg hhead, hsplit, Text.unquote_eq_self path h.no_quote,
    h.normal.resolve_eq base]

end RecordableSource

namespace RecordableReference

variable {path : Text}

theorem ne_nil (h : RecordableReference path) : path ≠ [] := by
  rintro rfl
  exact absurd h.normal.isAbsolute (by decide)

/-- A reference is the only item of its list, and the item has no alias. -/
theorem referencePaths_eq (h : RecordableReference path) (base : Text) :
    Directive.referencePaths base path = [path] := by
  have hfields : path.fieldsBy Directive.isListSeparator = [path] := by
    refine fields_eq_singleton _ path (fun c hc => ?_)
    have hcomma : c ≠ ',' := fun hsame => h.no_comma (hsame ▸ hc)
    have hsemicolon : c ≠ ';' := fun hsame => h.no_semicolon (hsame ▸ hc)
    simp [Directive.isListSeparator, hcomma, hsemicolon]
  have hitem : Directive.referencePath? path = some path := by
    simp [Directive.referencePath?, h.trimmed, Text.unquote_eq_self path h.no_quote, h.ne_nil,
      Text.cutAt?_eq_none '=' path h.no_equals]
  simp [Directive.referencePaths, hfields, hitem, h.normal.resolve_eq base]

theorem ofArgument_eq (h : RecordableReference path) (base : Text) :
    Directive.ofArgument base ("/reference:" ++ path) = .ok (.references [path]) := by
  have hsplit : Switch.split? ("/reference:" ++ path) = some ("reference".toText, some path) :=
    Switch.split?_valued "reference" path (Or.inl rfl) (by decide) (by decide)
  have hrequired : ∀ argument, Directive.required argument (some path) = .ok path := by
    intro argument
    simp [Directive.required, Text.unquote_eq_self path h.no_quote, h.ne_nil]
  have hname : Switch.ofName "reference" (some path) = ⟨"reference", true, some path⟩ := rfl
  have hoption : OptionName.ofText? "reference" = some .reference := by decide
  rw [Directive.ofArgument, if_neg (by simp), hsplit]
  simp only [hname, Directive.ofSwitch, hoption, hrequired, Except.map, h.referencePaths_eq base]
  rfl

end RecordableReference

namespace CompilerArguments

theorem foldl_apply_references (paths : List Text) (a : CompilerArguments) :
    (paths.map (fun path => Directive.references [path])).foldl apply a
      = { a with references := a.references ++ paths } := by
  induction paths generalizing a with
  | nil => simp
  | cons path rest ih => simp [ih, apply]

theorem foldl_apply_sources (paths : List Text) (a : CompilerArguments) :
    (paths.map Directive.source).foldl apply a = { a with sources := a.sources ++ paths } := by
  induction paths generalizing a with
  | nil => simp
  | cons path rest ih => simp [ih, apply]

/-- What is told by arguments that name only references and sources and suppress the rest. -/
def recorded (base : Text) (references sources : List Text) : CompilerArguments :=
  { default base with
    references := references, sources := sources, unrecognized := ["/noconfig".toText] }

/-- **The recorded arguments tell what was recorded**, from whatever directory they are seen. -/
theorem interpretFrom_recorded (base : Text) {references sources : List Text}
    (hreferences : ∀ path ∈ references, RecordableReference path)
    (hsources : ∀ path ∈ sources, RecordableSource path) :
    interpretFrom base (recordedArguments references sources)
      = .ok (recorded base references sources) := by
  have hfirst : ["/noconfig".toText].mapM (Directive.ofArgument base)
      = .ok [.unrecognized "/noconfig"] := rfl
  have hothers : (references.map (fun path => ("/reference:" ++ path : Text))).mapM
        (Directive.ofArgument base)
      = .ok (references.map (fun path => Directive.references [path])) := by
    rw [List.mapM_map]
    exact mapM_eq_ok_map _ (fun path hpath => (hreferences path hpath).ofArgument_eq base)
  have hlast : sources.mapM (Directive.ofArgument base) = .ok (sources.map .source) :=
    mapM_eq_ok_map _ (fun path hpath => (hsources path hpath).ofArgument_eq base)
  have hall := mapM_append_eq_ok hfirst (mapM_append_eq_ok hothers hlast)
  rw [List.singleton_append] at hall
  rw [interpretFrom, recordedArguments, hall, Except.map, List.foldl_append, List.foldl_append,
    foldl_apply_references, foldl_apply_sources]
  rfl

end CompilerArguments

end CompileTrace
