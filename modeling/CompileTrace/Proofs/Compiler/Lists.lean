import CompileTrace.Proofs.Compiler.Composition
import CompileTrace.Proofs.Compiler.Paths
import CompileTrace.Proofs.Occurrences
import CompileTrace.Proofs.Text.Trimming

set_option autoImplicit false

/-! # Lists of references and symbols

A switch for references or symbols has a list for its value, whose items stand between commas and
semicolons. All items of all such switches are read one after the other (`OptionName.items`). Each
item of a reference list that is not empty makes one reference (`interpret_references`), an alias
without a path the base directory. The symbols are the items that are not blank, each where it
comes first (`interpret_symbols`). -/

namespace CompileTrace

/-! ## Values and items -/

/-- The value that a switch gives an option, without its quotes, if the switch is for the option. -/
def Switch.given? (switch : Switch) (option : OptionName) : Option Text :=
  if OptionName.ofText? switch.name = some option then some (switch.value?.getD []).unquote
  else none

namespace OptionName

/-- The value that an argument gives an option, if it is a switch for the option. -/
def given? (option : OptionName) (argument : Text) : Option Text :=
  (Switch.ofArgument? argument).bind (·.given? option)

/-- The items of the lists that arguments give an option, in order. -/
def items (option : OptionName) (args : List Text) : List Text :=
  (args.filterMap option.given?).flatMap (·.fieldsBy Directive.isListSeparator)

theorem items_append (option : OptionName) (args later : List Text) :
    option.items (args ++ later) = option.items args ++ option.items later := by
  simp [items]

end OptionName

namespace Directive

/-- What a directive adds to the references and names as symbols is what the switch lists of
    both. -/
def Lists (base : Text) (switch : Switch) (d : Directive) : Prop :=
  d.newReferences = (switch.given? .reference).toList.flatMap (referencePaths base)
    ∧ d.newSymbols = (switch.given? .define).toList.flatMap symbolNames

/-- A directive for a setting lists nothing. -/
theorem newReferences_of_setting {d : Directive} {s : Setting} (h : d.setting? = some s) :
    d.newReferences = [] ∧ d.newSymbols = [] := by
  cases d with
  | references paths => cases h
  | symbols names => cases h
  | _ => exact ⟨rfl, rfl⟩

/-- **What a switch adds to the references and symbols is what it lists.** -/
theorem ofSwitch_lists (base argument : Text) (switch : Switch) :
    Gives (ofSwitch base argument switch) (Lists base switch) := by
  obtain ⟨name, enabled, value?⟩ := switch
  unfold ofSwitch Lists Switch.given?
  simp only
  cases OptionName.ofText? name with
  | none => exact gives_ok ⟨rfl, rfl⟩
  | some option =>
    cases option with
    | reference =>
      refine gives_map _ (fun value hvalue => ?_)
      rw [eq_of_required hvalue]
      exact ⟨by simp [newReferences], by simp [newSymbols]⟩
    | define =>
      refine gives_map _ (fun value hvalue => ?_)
      rw [eq_of_required hvalue]
      exact ⟨by simp [newReferences], by simp [newSymbols]⟩
    | target =>
      exact gives_bind _ (fun value _ =>
        (ofTarget_serves argument value).imp (fun d hd => newReferences_of_setting hd.1))
    | nullable =>
      exact (ofNullable_serves argument _).imp (fun d hd => newReferences_of_setting hd.1)
    | warningLevel =>
      exact gives_bind _ (fun value _ =>
        (ofWarningLevel_serves argument value).imp (fun d hd => newReferences_of_setting hd.1))
    | warnAsError =>
      simp only [ofWarnAsError]
      split
      · exact gives_ok ⟨rfl, rfl⟩
      · exact gives_map _ (fun _ _ => ⟨rfl, rfl⟩)
    | noWarn => exact gives_bind _ (fun _ _ => gives_map _ (fun _ _ => ⟨rfl, rfl⟩))
    | documentation => exact gives_ok ⟨rfl, rfl⟩
    | toggle t =>
      cases value? with
      | none => exact gives_ok ⟨rfl, rfl⟩
      | some value => exact gives_ok ⟨rfl, rfl⟩
    | _ => exact gives_map _ (fun _ _ => ⟨rfl, rfl⟩)

theorem ofArgument_lists (base argument : Text) :
    Gives (ofArgument base argument) (fun d =>
      d.newReferences
          = (OptionName.reference.given? argument).toList.flatMap (referencePaths base)
        ∧ d.newSymbols = (OptionName.define.given? argument).toList.flatMap symbolNames) :=
  ofArgument_gives (P := fun switch? d =>
    d.newReferences = (switch?.bind (·.given? .reference)).toList.flatMap (referencePaths base)
      ∧ d.newSymbols = (switch?.bind (·.given? .define)).toList.flatMap symbolNames)
    (fun _ => ⟨rfl, rfl⟩) (ofSwitch_lists base argument)

section

variable {base : Text} {args : List Text} {directives : List Directive}

/-- What directives add is made of the values that their arguments give an option. -/
theorem flatMap_of_given (option : OptionName) (read : Directive → List Text)
    (list : Text → List Text)
    (hread : ∀ argument, Gives (ofArgument base argument)
      (fun d => read d = (option.given? argument).toList.flatMap list))
    (h : args.mapM (ofArgument base) = .ok directives) :
    directives.flatMap read = (args.filterMap option.given?).flatMap list := by
  rw [flatMap_of_mapM_eq_ok read _ (fun argument d hd => hread argument d hd) h,
    ← List.flatMap_assoc, List.filterMap_eq_flatMap_toList]

theorem flatMap_newReferences (h : args.mapM (ofArgument base) = .ok directives) :
    directives.flatMap newReferences
      = ((OptionName.reference.items args).filterMap referencePath?).map (Path.resolve base) := by
  rw [flatMap_of_given .reference newReferences _
      (fun argument => (ofArgument_lists base argument).imp (fun _ hd => hd.1)) h,
    OptionName.items, List.filterMap_flatMap, List.map_flatMap]
  rfl

theorem flatMap_newSymbols (h : args.mapM (ofArgument base) = .ok directives) :
    directives.flatMap newSymbols
      = ((OptionName.define.items args).map Text.trim).filter (fun s => !s.isEmpty) := by
  rw [flatMap_of_given .define newSymbols _
      (fun argument => (ofArgument_lists base argument).imp (fun _ hd => hd.2)) h,
    OptionName.items, List.map_flatMap, List.filter_flatMap]
  rfl

end

end Directive

/-! ## References -/

/-- What an item of a reference list says, with any alias. -/
def bareItem (item : Text) : Text := item.trim.unquote

/-- The path in an item of a reference list: what follows an alias and its equals sign, without
    quotes of its own, or all of it. -/
def pathPart (item : Text) : Text :=
  match (bareItem item).cutAt? (char '=') with
  | none => bareItem item
  | some (_, path) => path.unquote

/-- An item of a reference list that is an alias and no path. -/
def LacksPath (item : Text) : Prop := bareItem item ≠ [] ∧ pathPart item = []

theorem referencePath?_eq (item : Text) :
    Directive.referencePath? item
      = if bareItem item = [] then none else some (pathPart item) := by
  unfold Directive.referencePath? pathPart bareItem
  simp only [List.isEmpty_iff]
  split
  · rfl
  · cases item.trim.unquote.cutAt? (char '=') <;> rfl

theorem filterMap_referencePath? (items : List Text) :
    items.filterMap Directive.referencePath?
      = (items.filter (fun item => bareItem item ≠ [])).map pathPart := by
  induction items with
  | nil => rfl
  | cons item rest ih =>
    by_cases hitem : bareItem item = []
    · rw [List.filterMap_cons_none (by rw [referencePath?_eq, if_pos hitem]), ih,
        List.filter_cons_of_neg (by simp [hitem])]
    · rw [List.filterMap_cons_some (by rw [referencePath?_eq, if_neg hitem]), ih,
        List.filter_cons_of_pos (by simp [hitem]), List.map_cons]

/-- An item that has a path says something. -/
theorem bareItem_ne_nil {item : Text} (h : pathPart item ≠ []) : bareItem item ≠ [] := by
  intro hbare
  rw [pathPart, hbare] at h
  exact h rfl

/-- The paths are those of the items that say something. -/
theorem filter_map_pathPart (items : List Text) :
    (items.map pathPart).filter (· ≠ [])
      = ((items.filter (fun item => bareItem item ≠ [])).filter
          (fun item => pathPart item ≠ [])).map pathPart := by
  rw [List.filter_map, List.filter_filter]
  refine congrArg (List.map pathPart) (List.filter_congr (fun item _ => ?_))
  by_cases hpath : pathPart item = []
  · simp [hpath]
  · simp [hpath, bareItem_ne_nil hpath]

namespace CompilerArguments

variable {cwd directory : Text} {args : List Text} {a : CompilerArguments}

theorem baseDirectory_interpret (h : interpret cwd directory args = .ok a) :
    a.baseDirectory = baseOf cwd directory := by
  obtain ⟨directives, -, rfl⟩ := exists_of_map_eq_ok h
  exact baseDirectory_foldl directives _

/-- The base directory is in normal form if the working directory is. -/
theorem isNormal_baseDirectory (hcwd : Path.IsNormal cwd)
    (h : interpret cwd directory args = .ok a) : Path.IsNormal a.baseDirectory := by
  rw [baseDirectory_interpret h]
  unfold baseOf
  split
  · exact hcwd
  · exact Path.isNormal_resolve cwd directory hcwd.isAbsolute

theorem references_interpret (h : interpret cwd directory args = .ok a) :
    a.references
      = ((OptionName.reference.items args).filter (fun item => bareItem item ≠ [])).map
          (fun item => Path.resolve a.baseDirectory (pathPart item)) := by
  rw [baseDirectory_interpret h]
  obtain ⟨directives, hdirectives, rfl⟩ := exists_of_map_eq_ok h
  rw [references_foldl, Directive.flatMap_newReferences hdirectives, filterMap_referencePath?,
    List.map_map]
  rfl

/-- **The references are the paths of the items of all reference lists, in order, exactly if no
    item is an alias without a path.** An item that says nothing makes no reference, and an alias
    without a path makes the base directory one. -/
theorem interpret_references (hcwd : Path.IsNormal cwd)
    (h : interpret cwd directory args = .ok a) :
    a.references
        = ((OptionName.reference.items args).filter (fun item => bareItem item ≠ [])).map
          (fun item => if pathPart item = [] then a.baseDirectory
            else Path.resolve a.baseDirectory (pathPart item))
      ∧ (a.references
          = (((OptionName.reference.items args).map pathPart).filter (· ≠ [])).map
            (Path.resolve a.baseDirectory)
        ↔ ∀ item ∈ OptionName.reference.items args, ¬ LacksPath item) := by
  rw [references_interpret h]
  refine ⟨List.map_congr_left (fun item _ => ?_), ?_⟩
  · split
    · next hpath => rw [hpath, (isNormal_baseDirectory hcwd h).resolve_nil]
    · rfl
  · rw [filter_map_pathPart, List.map_map]
    generalize hsaid : (OptionName.reference.items args).filter (fun item => bareItem item ≠ [])
      = said
    have hlacks : (∀ item ∈ OptionName.reference.items args, ¬ LacksPath item)
        ↔ ∀ item ∈ said, decide (pathPart item ≠ []) = true := by
      simp [← hsaid, LacksPath]
    rw [hlacks]
    constructor
    · -- an alias without a path would make one reference too many
      intro hsame
      have hlength := congrArg List.length hsame
      rw [List.length_map, List.length_map] at hlength
      exact List.length_filter_eq_length_iff.1 hlength.symm
    · intro hall
      rw [List.filter_eq_self.2 hall]
      rfl

/-- Two aliases, of which one has its path in quotes, and an item that says nothing. -/
theorem interpret_references_aliases :
    let args : List Text := ["/r:a.dll,;B=\"b c.dll\"", "-Reference:A=../x.dll"]
    Path.IsNormal "/src" ∧ ∃ a, interpret "/src" [] args = .ok a
      ∧ a.references
          = ((OptionName.reference.items args).filter (fun item => bareItem item ≠ [])).map
            (fun item => if pathPart item = [] then a.baseDirectory
              else Path.resolve a.baseDirectory (pathPart item))
        ∧ (a.references
            = (((OptionName.reference.items args).map pathPart).filter (· ≠ [])).map
              (Path.resolve a.baseDirectory)
          ↔ ∀ item ∈ OptionName.reference.items args, ¬ LacksPath item) := by
  intro args
  have hcwd : Path.IsNormal "/src" := (Path.isNormal_iff _).2 ⟨rfl, rfl⟩
  exact ⟨hcwd, _, rfl, interpret_references hcwd rfl⟩

/-- An alias without a path makes the base directory a reference, though no item has a path. -/
theorem interpret_alias_without_path :
    interpret "/src" [] ["/r:A="] = .ok { default "/src" with references := ["/src"] }
      ∧ ((OptionName.reference.items ["/r:A="]).map pathPart).filter (· ≠ []) = [] :=
  ⟨rfl, rfl⟩

end CompilerArguments

/-! ## Symbols -/

/-- The symbols that arguments name, in order and as often as they name them. -/
def namedSymbols (args : List Text) : List Text :=
  ((OptionName.define.items args).map Text.trim).filter (fun s => !s.isEmpty)

theorem namedSymbols_append (args later : List Text) :
    namedSymbols (args ++ later) = namedSymbols args ++ namedSymbols later := by
  simp [namedSymbols, OptionName.items_append]

theorem mem_namedSymbols {args : List Text} {s : Text} :
    s ∈ namedSymbols args ↔ s ≠ [] ∧ ∃ item ∈ OptionName.define.items args, item.trim = s := by
  simp [namedSymbols, and_comm]

/-- No item holds a separator. -/
theorem isListSeparator_eq_false_of_mem_items {option : OptionName} {args : List Text} {item : Text}
    (h : item ∈ option.items args) : ∀ c ∈ item, Directive.isListSeparator c = false := by
  obtain ⟨value, -, hitem⟩ := List.mem_flatMap.1 h
  exact sep_eq_false_of_mem_fields _ value item hitem

theorem foldl_addSymbol_nil (names : List Text) : names.foldl addSymbol [] = names.eraseDups := by
  induction names using List.reverseRecOn with
  | nil => rfl
  | append_singleton init last ih =>
    rw [List.foldl_append, ih, eraseDups_concat]
    rfl

theorem prefix_foldl_addSymbol (names symbols : List Text) :
    symbols <+: names.foldl addSymbol symbols := by
  induction names generalizing symbols with
  | nil => exact List.prefix_rfl
  | cons name rest ih =>
    have hadd : symbols <+: addSymbol symbols name := by
      unfold addSymbol
      split
      · exact List.prefix_rfl
      · exact List.prefix_append symbols [name]
    exact hadd.trans (ih _)

namespace CompilerArguments

variable {cwd directory : Text} {args : List Text} {a : CompilerArguments}

theorem symbols_interpret (h : interpret cwd directory args = .ok a) :
    a.parse.symbols = (namedSymbols args).eraseDups := by
  obtain ⟨directives, hdirectives, rfl⟩ := exists_of_map_eq_ok h
  rw [symbols_foldl, Directive.flatMap_newSymbols hdirectives, ← foldl_addSymbol_nil]
  rfl

/-- **The symbols are the trimmed items of all lists of symbols that are not empty, each once and in
    the order in which they come first.** No symbol holds a separator or has a blank at its ends,
    and arguments that follow add symbols at the end only. -/
theorem interpret_symbols (h : interpret cwd directory args = .ok a) :
    a.parse.symbols.Nodup
      ∧ (∀ s ∈ a.parse.symbols, s ≠ [] ∧ char ',' ∉ s ∧ char ';' ∉ s
        ∧ (∀ c ∈ s.head?, isBlank c = false) ∧ ∀ c ∈ s.getLast?, isBlank c = false)
      ∧ (∀ s, s ∈ a.parse.symbols
        ↔ s ≠ [] ∧ ∃ item ∈ OptionName.define.items args, item.trim = s)
      ∧ a.parse.symbols.Pairwise
        (fun s t => (namedSymbols args).idxOf s < (namedSymbols args).idxOf t)
      ∧ ∀ later whole, interpret cwd directory (args ++ later) = .ok whole →
        a.parse.symbols <+: whole.parse.symbols := by
  have hmem : ∀ s, s ∈ a.parse.symbols
      ↔ s ≠ [] ∧ ∃ item ∈ OptionName.define.items args, item.trim = s := by
    intro s
    rw [symbols_interpret h, List.mem_eraseDups, mem_namedSymbols]
  refine ⟨?_, ?_, hmem, ?_, ?_⟩
  · rw [symbols_interpret h]
    exact nodup_eraseDups _
  · intro s hs
    obtain ⟨hne, item, hitem, rfl⟩ := (hmem s).1 hs
    have hsep : ∀ c ∈ item.trim, Directive.isListSeparator c = false :=
      fun c hc => isListSeparator_eq_false_of_mem_items hitem c (Text.mem_of_mem_trim hc)
    exact ⟨hne, fun hcomma => (by cases hsep ',' hcomma),
      fun hsemicolon => (by cases hsep ';' hsemicolon), Text.trim_ends item⟩
  · rw [symbols_interpret h]
    exact pairwise_idxOf_eraseDups _
  · intro later whole hwhole
    rw [symbols_interpret h, symbols_interpret hwhole, namedSymbols_append, ← foldl_addSymbol_nil,
      ← foldl_addSymbol_nil, List.foldl_append]
    exact prefix_foldl_addSymbol _ _

/-- A list in quotes with blanks and separators side by side, and a second list with a symbol of
    the first one. -/
theorem interpret_symbols_repeated :
    let args : List Text := ["/d:\" DEBUG;;TRACE,\"", "a.cs", "-define:NET; DEBUG ,net"]
    ∃ a, interpret "/src" [] args = .ok a
      ∧ a.parse.symbols = ["DEBUG".toText, "TRACE".toText, "NET".toText, "net".toText]
      ∧ a.parse.symbols.Nodup
      ∧ (∀ s ∈ a.parse.symbols, s ≠ [] ∧ char ',' ∉ s ∧ char ';' ∉ s
        ∧ (∀ c ∈ s.head?, isBlank c = false) ∧ ∀ c ∈ s.getLast?, isBlank c = false)
      ∧ (∀ s, s ∈ a.parse.symbols
        ↔ s ≠ [] ∧ ∃ item ∈ OptionName.define.items args, item.trim = s)
      ∧ a.parse.symbols.Pairwise
        (fun s t => (namedSymbols args).idxOf s < (namedSymbols args).idxOf t)
      ∧ ∀ later whole, interpret "/src" [] (args ++ later) = .ok whole →
        a.parse.symbols <+: whole.parse.symbols :=
  ⟨_, rfl, rfl, interpret_symbols rfl⟩

end CompilerArguments

end CompileTrace
