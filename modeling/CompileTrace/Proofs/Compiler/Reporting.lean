import CompileTrace.Proofs.Compiler.Composition
import CompileTrace.Proofs.Number.Digits
import CompileTrace.Proofs.Table

set_option autoImplicit false

/-! # How single diagnostics are reported

Arguments mention diagnostics in lists, each time with a change to how they are reported
(`ReportingChange.mentions`). The table of diagnostics takes the mentions one after the other, and
what it says of one diagnostic depends on the mentions of that diagnostic alone
(`get?_foldl_take`). So it is told in closed form: the last mention that is no relaxation decides,
and relaxations after it turn an error into a warning (`interpret_reporting`). -/

namespace CompileTrace

/-! ## Mentions -/

/-- The diagnostic that an item of a list means: a number, in the digits of any script, means the
    diagnostic of that number among the compiler's own, `CS` and at least four digits. -/
def diagnosticOf (item : Text) : Text :=
  match item.toNat? with
  | some n => "CS" ++ Text.padZeros 4 (Text.ofNat n)
  | none => item

/-- The items of a list of diagnostics that are not empty. -/
def diagnosticItems (value : Text) : List Text :=
  (value.unquote.fieldsBy Directive.isIdSeparator).filter (fun item => !item.isEmpty)

namespace ReportingChange

/-- The changes to single diagnostics that a change to several is. -/
def single (change : ReportingChange × List Text) : List (ReportingChange × Text) :=
  change.2.map (change.1, ·)

/-- The items that a switch lists, and the change that it asks for. A switch for warnings as errors
    that has no value lists nothing. -/
def listed? (switch : Switch) : Option (ReportingChange × List Text) :=
  let value := switch.value?.getD []
  match OptionName.ofText? switch.name with
  | some .noWarn => some (.suppress, diagnosticItems value.unquote)
  | some .warnAsError =>
    some (if switch.enabled then .promote else .relax, diagnosticItems value)
  | _ => none

/-- The diagnostics that a switch mentions, each with the change that it asks for. -/
def mentionsOf (switch : Switch) : List (ReportingChange × Text) :=
  (listed? switch).toList.flatMap (fun l => l.2.map (fun item => (l.1, diagnosticOf item)))

/-- The diagnostics that arguments mention, in order, each with the change that it is mentioned
    for. -/
def mentions (args : List Text) : List (ReportingChange × Text) :=
  (args.filterMap Switch.ofArgument?).flatMap mentionsOf

/-- The changes that a diagnostic is mentioned for. -/
def changesOf (id : Text) (mentions : List (ReportingChange × Text)) : List ReportingChange :=
  (mentions.filter (·.2 = id)).map Prod.fst

end ReportingChange

/-! ## What an item means -/

namespace Directive

/-- The diagnostic of an item, if it has one, is the one that it means. -/
theorem diagnosticId_gives (item : Text) : Gives (diagnosticId item) (· = diagnosticOf item) := by
  unfold diagnosticId diagnosticOf
  split
  · intro id hid
    obtain ⟨n, hn, rfl⟩ := exists_of_map_eq_ok (eq_ok_of_mapError hid)
    rw [((Text.toWhole_eq_ok_iff item n).1 hn).1]
  · next hdigits =>
    cases hread : item.toNat? with
    | none => exact gives_ok rfl
    | some n => exact absurd (Text.isDigits_of_toNat? hread) hdigits

theorem diagnosticIds_gives (value : Text) :
    Gives (diagnosticIds value) (· = (diagnosticItems value).map diagnosticOf) := by
  intro ids hids
  have hmap := map_of_mapM_eq_ok id diagnosticOf (fun item i hi => diagnosticId_gives item i hi)
    (show (diagnosticItems value).mapM diagnosticId = .ok ids from hids)
  rwa [List.map_id] at hmap

/-- The diagnostics that a directive changes, each with the change. -/
def mentions (d : Directive) : List (ReportingChange × Text) :=
  d.change?.toList.flatMap ReportingChange.single

theorem mentions_of_change? {d : Directive} (h : d.change? = none) : d.mentions = [] := by
  rw [mentions, h]
  rfl

/-- **What a switch tells changes the diagnostics that the switch mentions.** -/
theorem ofSwitch_mentions (base argument : Text) (switch : Switch) :
    Gives (ofSwitch base argument switch)
      (fun d => d.mentions = ReportingChange.mentionsOf switch) := by
  have hserves := ofSwitch_serves base argument switch
  cases hoption : OptionName.ofText? switch.name with
  | none =>
    refine hserves.imp (fun d hd => ?_)
    rw [mentions_of_change? (hd.2.trans (by rw [ReportingChange.ofSwitch?, hoption])),
      ReportingChange.mentionsOf, ReportingChange.listed?, hoption]
    rfl
  | some option =>
    cases option with
    | noWarn =>
      unfold ofSwitch
      rw [hoption]
      refine gives_bind _ (fun value hvalue => gives_map _ (fun ids hids => ?_))
      rw [ReportingChange.mentionsOf, ReportingChange.listed?, hoption,
        diagnosticIds_gives value ids hids, eq_of_required hvalue]
      simp [mentions, change?, ReportingChange.single]
    | warnAsError =>
      unfold ofSwitch
      rw [hoption]
      simp only [ofWarnAsError]
      split
      · next hempty =>
        refine gives_ok ?_
        rw [ReportingChange.mentionsOf, ReportingChange.listed?, hoption,
          List.isEmpty_iff.1 hempty]
        rfl
      · refine gives_map _ (fun ids hids => ?_)
        rw [ReportingChange.mentionsOf, ReportingChange.listed?, hoption,
          diagnosticIds_gives _ ids hids]
        simp [mentions, change?, ReportingChange.single]
    | _ =>
      refine hserves.imp (fun d hd => ?_)
      rw [mentions_of_change? (hd.2.trans (by rw [ReportingChange.ofSwitch?, hoption])),
        ReportingChange.mentionsOf, ReportingChange.listed?, hoption]
      rfl

theorem ofArgument_mentions (base argument : Text) :
    Gives (ofArgument base argument) (fun d => d.mentions
      = (Switch.ofArgument? argument).toList.flatMap ReportingChange.mentionsOf) :=
  ofArgument_gives
    (P := fun switch? d => d.mentions = switch?.toList.flatMap ReportingChange.mentionsOf)
    (fun _ => rfl)
    (fun switch => (ofSwitch_mentions base argument switch).imp (fun d hd => by simpa using hd))

theorem flatMap_mentions {base : Text} {args : List Text} {directives : List Directive}
    (h : args.mapM (ofArgument base) = .ok directives) :
    directives.flatMap mentions = ReportingChange.mentions args := by
  rw [flatMap_of_mapM_eq_ok mentions _ (fun argument d hd => ofArgument_mentions base argument d hd)
    h, ← List.flatMap_assoc, ReportingChange.mentions, List.filterMap_eq_flatMap_toList]

end Directive

/-! ## One mention -/

namespace ReportingChange

/-- How a diagnostic is reported after a change to it, if it is reported in any way of its own. -/
def react (reporting? : Option Reporting) : ReportingChange → Option Reporting
  | promote => some .error
  | suppress => some .suppress
  | relax => if reporting? = some .error then some .warn else reporting?

/-- A mention changes the reporting of the diagnostic that it mentions and of no other. -/
theorem get?_changeReporting (change : ReportingChange) (table : Table Reporting)
    (id other : Text) :
    (changeReporting change table id).get? other
      = if id = other then react (table.get? other) change else table.get? other := by
  cases change with
  | promote => exact Table.get?_put table id .error other
  | suppress => exact Table.get?_put table id .suppress other
  | relax =>
    unfold changeReporting react
    by_cases hid : id = other
    · subst hid
      rw [if_pos rfl]
      simp only
      split
      · rw [Table.get?_put, if_pos rfl]
      · rfl
    · rw [if_neg hid]
      simp only
      split
      · rw [Table.get?_put, if_neg hid]
      · rfl

/-- A mention that is no relaxation gives the diagnostic a place in the table, and a relaxation
    gives no place. -/
theorem names_changeReporting (change : ReportingChange) (table : Table Reporting) (id : Text) :
    (changeReporting change table id).map Prod.fst
      = if change = relax ∨ id ∈ table.map Prod.fst then table.map Prod.fst
        else table.map Prod.fst ++ [id] := by
  cases change with
  | promote =>
    simp only [reduceCtorEq, false_or]
    exact Table.names_put table id .error
  | suppress =>
    simp only [reduceCtorEq, false_or]
    exact Table.names_put table id .suppress
  | relax =>
    rw [if_pos (Or.inl rfl)]
    unfold changeReporting
    simp only
    split
    · next herror =>
      have hname : id ∈ table.map Prod.fst := by
        rw [← Table.isSome_get?_iff, herror]
        rfl
      rw [Table.names_put, if_pos hname]
    · rfl

/-! ## All mentions -/

/-- The table after one more mention. -/
def take (table : Table Reporting) (mention : ReportingChange × Text) : Table Reporting :=
  changeReporting mention.1 table mention.2

/-- Changes to several diagnostics each are changes to single ones. -/
theorem changeAll_eq_foldl_take (table : Table Reporting)
    (changes : List (ReportingChange × List Text)) :
    changeAll table changes = (changes.flatMap single).foldl take table := by
  simp only [changeAll, List.foldl_flatMap, single, List.foldl_map]
  rfl

theorem changesOf_cons (id : Text) (mention : ReportingChange × Text)
    (rest : List (ReportingChange × Text)) :
    changesOf id (mention :: rest)
      = if mention.2 = id then mention.1 :: changesOf id rest else changesOf id rest := by
  by_cases h : mention.2 = id
  · simp [changesOf, h]
  · simp [changesOf, h]

/-- **How a diagnostic is reported in the end depends on its own mentions alone.** -/
theorem get?_foldl_take (mentions : List (ReportingChange × Text)) (table : Table Reporting)
    (id : Text) :
    (mentions.foldl take table).get? id = (changesOf id mentions).foldl react (table.get? id) := by
  induction mentions generalizing table with
  | nil => rfl
  | cons mention rest ih =>
    rw [List.foldl_cons, ih, take, get?_changeReporting, changesOf_cons]
    split
    · rw [List.foldl_cons]
    · rfl

/-- The diagnostics of the table stand in the order in which they are first mentioned for a change
    that is no relaxation. -/
theorem names_foldl_take (mentions : List (ReportingChange × Text)) :
    (mentions.foldl take []).map Prod.fst
      = ((mentions.filter (·.1 ≠ relax)).map Prod.snd).eraseDups := by
  induction mentions using List.reverseRecOn with
  | nil => simp
  | append_singleton init last ih =>
    rw [List.foldl_append, List.foldl_cons, List.foldl_nil, take, names_changeReporting, ih,
      List.filter_append, List.map_append]
    by_cases hlast : last.1 = relax
    · simp [hlast]
    · have hkept : [last].filter (·.1 ≠ relax) = [last] := by simp [hlast]
      rw [hkept, List.map_singleton, eraseDups_concat]
      simp only [hlast, false_or]

/-! ## The changes to one diagnostic -/

theorem isSome_foldl_react (changes : List ReportingChange) (reporting? : Option Reporting) :
    (changes.foldl react reporting?).isSome = true
      ↔ reporting?.isSome = true ∨ ∃ change ∈ changes, change ≠ relax := by
  induction changes generalizing reporting? with
  | nil => simp
  | cons change rest ih =>
    rw [List.foldl_cons, ih]
    cases change with
    | promote => simp [react]
    | suppress => simp [react]
    | relax =>
      unfold react
      simp only
      split
      · next h => simp [h]
      · simp

/-- A relaxation keeps every way of reporting but that as an error. -/
theorem foldl_react_relax {changes : List ReportingChange} (h : ∀ change ∈ changes, change = relax)
    (reporting : Reporting) :
    changes.foldl react (some reporting)
      = some (if reporting = .error ∧ changes ≠ [] then .warn else reporting) := by
  induction changes generalizing reporting with
  | nil => simp
  | cons change rest ih =>
    rw [List.forall_mem_cons] at h
    rw [List.foldl_cons, h.1]
    cases reporting with
    | error =>
      rw [react, if_pos rfl, ih h.2]
      simp
    | warn =>
      rw [react, if_neg (by simp), ih h.2]
      simp
    | suppress =>
      rw [react, if_neg (by simp), ih h.2]
      simp

/-- The last change that is no relaxation decides, and relaxations after it turn an error into a
    warning. -/
theorem foldl_react_of_last {before after : List ReportingChange} {last : ReportingChange}
    (hlast : last ≠ relax) (hafter : ∀ change ∈ after, change = relax)
    (reporting? : Option Reporting) :
    (before ++ last :: after).foldl react reporting?
      = some (if last = suppress then .suppress else if after = [] then .error else .warn) := by
  rw [List.foldl_append, List.foldl_cons]
  cases last with
  | promote =>
    rw [react, foldl_react_relax hafter]
    simp
  | suppress =>
    rw [react, foldl_react_relax hafter]
    simp
  | relax => exact absurd rfl hlast

/-- A table says of each diagnostic what the mentions of it come to: there is an entry if it is
    mentioned for more than a relaxation, the last such mention decides, and relaxations after it
    turn an error into a warning. The entries stand in the order of the first such mentions. -/
structure Settled (mentions : List (ReportingChange × Text)) (table : Table Reporting) : Prop where
  entry : ∀ id, (∃ reporting, table.get? id = some reporting)
    ↔ ∃ change ∈ changesOf id mentions, change ≠ relax
  value : ∀ id before last after, changesOf id mentions = before ++ last :: after →
    last ≠ relax → (∀ change ∈ after, change = relax) → table.get? id
      = some (if last = suppress then .suppress else if after = [] then .error else .warn)
  order : (table.map Prod.fst).Pairwise (fun id other =>
    ((mentions.filter (·.1 ≠ relax)).map Prod.snd).idxOf id
      < ((mentions.filter (·.1 ≠ relax)).map Prod.snd).idxOf other)

/-- **What the table says after some mentions is what they come to.** -/
theorem settled_foldl_take (mentions : List (ReportingChange × Text)) :
    Settled mentions (mentions.foldl take []) where
  entry := by
    intro id
    rw [← Option.isSome_iff_exists, get?_foldl_take, isSome_foldl_react]
    simp [Table.get?]
  value := by
    intro id before last after hchanges hlast hafter
    rw [get?_foldl_take, hchanges]
    exact foldl_react_of_last hlast hafter _
  order := by
    rw [names_foldl_take]
    exact pairwise_idxOf_eraseDups _

end ReportingChange

/-- A diagnostic that is written out with its number means itself. -/
theorem diagnosticOf_numbered (digits : Text) : diagnosticOf ("CS" ++ digits) = "CS" ++ digits := by
  cases hread : Text.toNat? ("CS" ++ digits) with
  | none => rw [diagnosticOf, hread]
  | some n =>
    have hdigit := ((Text.exists_toNat?_iff _).1 ⟨n, hread⟩).2 'C' (by simp)
    exact absurd hdigit (by decide)

namespace CompilerArguments

variable {cwd directory : Text} {args : List Text} {a : CompilerArguments}

theorem reporting_interpret (h : interpret cwd directory args = .ok a) :
    a.compilation.reporting
      = (ReportingChange.mentions args).foldl ReportingChange.take [] := by
  obtain ⟨directives, hdirectives, rfl⟩ := exists_of_map_eq_ok h
  have hmentions : (directives.filterMap Directive.change?).flatMap ReportingChange.single
      = ReportingChange.mentions args := by
    rw [← Directive.flatMap_mentions hdirectives, List.filterMap_eq_flatMap_toList,
      List.flatMap_assoc]
    rfl
  rw [reporting_foldl, ReportingChange.changeAll_eq_foldl_take, hmentions]
  rfl

/-- **How single diagnostics are reported is what their mentions come to**, and nothing else in the
    arguments matters. A number and the diagnostic of that number are the same diagnostic. -/
theorem interpret_reporting (h : interpret cwd directory args = .ok a) :
    ReportingChange.Settled (ReportingChange.mentions args) a.compilation.reporting
      ∧ (∀ cwd' directory' args' b, interpret cwd' directory' args' = .ok b →
        ReportingChange.mentions args' = ReportingChange.mentions args →
          b.compilation.reporting = a.compilation.reporting)
      ∧ ∀ numeral n, numeral.toNat? = some n →
        diagnosticOf numeral = diagnosticOf ("CS" ++ Text.padZeros 4 (Text.ofNat n)) := by
  rw [reporting_interpret h]
  refine ⟨ReportingChange.settled_foldl_take _, ?_, ?_⟩
  · intro cwd' directory' args' b hb hsame
    rw [reporting_interpret hb, hsame]
  · intro numeral n hread
    rw [diagnosticOf_numbered, diagnosticOf, hread]

/-- A diagnostic is suppressed, made an error under another spelling and relaxed, and one that is
    only relaxed has no entry. -/
theorem interpret_reporting_relaxed :
    let args : List Text := ["/nowarn:12,CA1", "/w:2", "/warnaserror+:CA2;CS0012",
      "-WarnAsError-:\"0012 CA1,CA3\"", "/warnaserror"]
    ∃ a, interpret "/src" [] args = .ok a
      ∧ a.compilation.reporting
        = [("CS0012".toText, .warn), ("CA1".toText, .suppress), ("CA2".toText, .error)]
      ∧ ReportingChange.Settled (ReportingChange.mentions args) a.compilation.reporting
      ∧ (∀ cwd' directory' args' b, interpret cwd' directory' args' = .ok b →
        ReportingChange.mentions args' = ReportingChange.mentions args →
          b.compilation.reporting = a.compilation.reporting)
      ∧ ∀ numeral n, numeral.toNat? = some n →
        diagnosticOf numeral = diagnosticOf ("CS" ++ Text.padZeros 4 (Text.ofNat n)) :=
  ⟨_, rfl, rfl, interpret_reporting rfl⟩

end CompilerArguments

end CompileTrace
