import CompileTrace.Build.Request
import CompileTrace.Proofs.CommandLine.Quoting
import CompileTrace.Proofs.Table
import CompileTrace.Proofs.Text.Fields

set_option autoImplicit false

/-! # Properties on the command line

The settings at the end of a build command say which properties the build has. Escaping a value is
undone by unquoting it, in either of the two ways in which it is written (`unquote_escapeValue`),
and no accepted name holds an equals sign, so that a setting is read back as the name and the value
it was made from (`propertyOfArgument?_propertyArgument`). The settings are then those of the
properties that take effect, and no others (`checkedCommand_sets`). -/

namespace CompileTrace

/-! ## Values -/

/-- A value is read back from its switch, whether it stands between quotes there or not. -/
theorem unquote_escapeValue (value : Text) : (escapeValue value).unquote = value := by
  unfold escapeValue Text.unquote
  split
  · rw [List.cons_append, Text.dropEnclosingQuotes_enclosed, Text.unescapeQuotes_escapeQuotes]
  · rw [Text.dropEnclosingQuotes_eq_self _ (Text.head?_escapeQuotes value),
      Text.unescapeQuotes_escapeQuotes]

/-! ## Names -/

theorem isNamePart_of_isNameStart {c : CodePoint} (h : isNameStart c = true) :
    isNamePart c = true := by
  rw [isNameStart, Bool.or_eq_true] at h
  rcases h with h | h
  · simp [isNamePart, CodePoint.isAlphanum, h]
  · simp [isNamePart, h]

theorem isNamePart_of_isPlainName {name : Text} (h : isPlainName name = true) :
    ∀ c ∈ name, isNamePart c = true := by
  cases name with
  | nil => simp
  | cons first rest =>
    rw [isPlainName, Bool.and_eq_true, List.all_eq_true] at h
    intro c hc
    rcases List.mem_cons.1 hc with rfl | hc
    · exact isNamePart_of_isNameStart h.1
    · exact h.2 c hc

/-- The names that are accepted are made of the characters of plain names and of line feeds. -/
theorem isNamePart_of_isPropertyName {name : Text} (h : isPropertyName name = true) :
    ∀ c ∈ name, isNamePart c = true ∨ c = '\n' := by
  rw [isPropertyName, Bool.or_eq_true, Bool.and_eq_true, beq_iff_eq] at h
  intro c hc
  rcases h with hplain | ⟨hlast, hplain⟩
  · exact Or.inl (isNamePart_of_isPlainName hplain c hc)
  · rw [← List.dropLast_append_getLast? (char '\n') hlast, List.mem_append,
      List.mem_singleton] at hc
    exact hc.imp_left (isNamePart_of_isPlainName hplain c)

theorem equals_notMem_of_isPropertyName {name : Text} (h : isPropertyName name = true) :
    char '=' ∉ name := by
  intro hmem
  have hpart := isNamePart_of_isPropertyName h '=' hmem
  revert hpart
  decide

/-! ## Settings -/

/-- The name and the value that an argument sets, if it sets a property: the value stands behind
    the first equals sign, and is read as the values of other switches are. -/
def propertyOfArgument? (argument : Text) : Option (Text × Text) :=
  match argument.dropStart? "/p:" with
  | none => none
  | some setting => (setting.cutAt? (char '=')).map (fun (name, value) => (name, value.unquote))

/-- A setting is read back. -/
theorem propertyOfArgument?_propertyArgument {property : Text × Text}
    (h : isPropertyName property.1 = true) :
    propertyOfArgument? (propertyArgument property) = some property := by
  have hsetting : propertyArgument property
      = ("/p:" : Text) ++ (property.1 ++ char '=' :: escapeValue property.2) := by
    show "/p:".toText ++ property.1 ++ "=".toText ++ escapeValue property.2 = _
    simp
  rw [propertyOfArgument?, hsetting, Text.dropStart?_append]
  simp only [Text.cutAt?_append _ _ _ (equals_notMem_of_isPropertyName h), Option.map_some,
    unquote_escapeValue]

theorem map_propertyArgument {properties : Properties}
    (h : ∀ p ∈ properties, isPropertyName p.1 = true) :
    (properties.map propertyArgument).map propertyOfArgument? = properties.map some := by
  rw [List.map_map]
  exact List.map_congr_left (fun p hp => propertyOfArgument?_propertyArgument (h p hp))

/-! ## The properties that take effect -/

section

variable (configuration platform : Text) (given : Properties)

/-- The names of the properties: the configuration, the platform, and what else is given. -/
def propertyNames : List Text :=
  ("Configuration".toText :: "Platform".toText :: given.map Prod.fst).eraseDups

/-- The value of a property: the last that is given for it, or else the configuration or
    platform. -/
def effectiveValue (name : Text) : Text :=
  (Table.get? given.reverse name).getD
    (if name = "Configuration".toText then configuration else platform)

/-- The properties that take effect, in the order of their names. -/
def effectiveProperties : Properties :=
  (propertyNames given).map (fun name => (name, effectiveValue configuration platform given name))

/-- Merging is making a table of the configuration, the platform and what is given. -/
theorem mergeProperties_eq_ofList (given : List (Text × Option Text)) :
    mergeProperties configuration platform given
      = Table.ofList (("Configuration".toText, some configuration)
          :: ("Platform".toText, some platform) :: given) := by
  have hstart : Table.ofList [("Configuration".toText, some configuration),
        ("Platform".toText, some platform)]
      = [("Configuration".toText, some configuration), ("Platform".toText, some platform)] := by
    have hne : "Configuration".toText ≠ "Platform".toText := by decide
    simp only [Table.ofList, Table.putAll, List.foldl, Table.put, if_neg hne]
  rw [mergeProperties, ← hstart, Table.ofList, ← Table.putAll_append]
  rfl

theorem names_asGiven : given.asGiven.map Prod.fst = given.map Prod.fst := by
  simp [Properties.asGiven]

theorem get?_asGiven (name : Text) :
    Table.get? given.asGiven name = (Table.get? given name).map some := by
  induction given with
  | nil => rfl
  | cons pair rest ih =>
    by_cases h : pair.1 = name
    · simp [Properties.asGiven, Table.get?, h]
    · simpa [Properties.asGiven, Table.get?, h] using ih

theorem names_mergeProperties :
    (mergeProperties configuration platform given.asGiven).map Prod.fst = propertyNames given := by
  rw [mergeProperties_eq_ofList, Table.names_ofList, List.map_cons, List.map_cons, names_asGiven]
  rfl

/-- Where nothing is given, there is only the configuration and the platform. -/
theorem value_of_get?_defaults {name : Text} {value : Option Text}
    (h : Table.get? ([("Platform".toText, some platform)]
      ++ [("Configuration".toText, some configuration)]) name = some value) :
    value = some (if name = "Configuration".toText then configuration else platform) := by
  rw [Table.get?_append, Table.get?, Table.get?, Table.get?, Table.get?] at h
  by_cases hname : name = "Configuration".toText
  · have hne : "Platform".toText ≠ name := by
      rw [hname]
      decide
    rw [if_neg hne, if_pos hname.symm, Option.none_or] at h
    rw [if_pos hname, Option.some.inj h]
  · have hne : "Configuration".toText ≠ name := Ne.symm hname
    rw [if_neg hne, Option.or_none] at h
    split at h
    · rw [if_neg hname, Option.some.inj h]
    · cases h

/-- Each merged property has the value that takes effect. -/
theorem effectiveValue_of_mem {pair : Text × Option Text}
    (h : pair ∈ mergeProperties configuration platform given.asGiven) :
    pair.2 = some (effectiveValue configuration platform given pair.1) := by
  rw [mergeProperties_eq_ofList] at h
  have hvalue := Table.get?_of_mem (Table.nodup_names_ofList _) pair h
  have hreverse : given.asGiven.reverse = Properties.asGiven given.reverse := by
    simp [Properties.asGiven]
  rw [Table.get?_ofList, List.reverse_cons, List.reverse_cons, List.append_assoc,
    Table.get?_append, hreverse, get?_asGiven] at hvalue
  rw [effectiveValue]
  cases hgiven : Table.get? given.reverse pair.1 with
  | some value =>
    rw [hgiven] at hvalue
    exact (Option.some.inj hvalue).symm
  | none =>
    rw [hgiven] at hvalue
    exact value_of_get?_defaults configuration platform hvalue

/-- Merging gives the properties that take effect. -/
theorem mergeProperties_asGiven :
    mergeProperties configuration platform given.asGiven
      = (effectiveProperties configuration platform given).asGiven := by
  have hpairs : (effectiveProperties configuration platform given).asGiven
      = (mergeProperties configuration platform given.asGiven).map
          (fun pair => (pair.1, some (effectiveValue configuration platform given pair.1))) := by
    rw [effectiveProperties, ← names_mergeProperties configuration platform]
    simp [Properties.asGiven]
  rw [hpairs, List.map_congr_left (g := id), List.map_id]
  intro pair hpair
  exact Prod.ext rfl (effectiveValue_of_mem configuration platform given hpair).symm

end

/-! ## Checked commands -/

/-- Either some name is not accepted, or all are and the properties are as they were. -/
theorem checkProperties_cases (properties : Properties) :
    match checkProperties properties.asGiven with
    | .error e => ∃ name ∈ properties.map Prod.fst, isPropertyName name = false
        ∧ e = .badPropertyName name
    | .ok checked => checked = properties ∧ ∀ p ∈ properties, isPropertyName p.1 = true := by
  rw [checkProperties]
  cases hfind : properties.asGiven.find? (fun p => !isPropertyName p.1) with
  | some pair =>
    have hbad := List.find?_some hfind
    have hmem := List.mem_map_of_mem (f := Prod.fst) (List.mem_of_find?_eq_some hfind)
    rw [names_asGiven] at hmem
    exact ⟨pair.1, hmem, by simpa using hbad, rfl⟩
  | none =>
    have hall := List.find?_eq_none.1 hfind
    refine ⟨by simp [Properties.asGiven, Function.comp_def], fun p hp => ?_⟩
    have hmem : (p.1, some p.2) ∈ properties.asGiven := List.mem_map_of_mem hp
    simpa using hall _ hmem

/-- A command is the part that does not depend on the properties, and then a setting for each. -/
theorem buildCommand_eq_append (tool : BuildTool) (target log : Text) (properties : Properties) :
    buildCommand tool target log properties
      = buildCommand tool target log [] ++ properties.map propertyArgument := by
  simp [buildCommand]

/-- Settings are read back from a command, which therefore tells the properties it was made from,
    whatever is built with whichever tool. -/
theorem eq_of_buildCommand_eq {tool tool' : BuildTool} {target target' log log' : Text}
    {properties properties' : Properties} (h : ∀ p ∈ properties, isPropertyName p.1 = true)
    (h' : ∀ p ∈ properties', isPropertyName p.1 = true)
    (heq : buildCommand tool target log properties
      = buildCommand tool' target' log' properties') : properties = properties' := by
  rw [buildCommand_eq_append, buildCommand_eq_append tool'] at heq
  have hsettings := (List.append_inj heq rfl).2
  have hread := congrArg (List.map propertyOfArgument?) hsettings
  rw [map_propertyArgument h, map_propertyArgument h'] at hread
  exact (List.map_inj_right (fun _ _ => Option.some.inj)).1 hread

theorem checkedCommand_cases (tool : BuildTool) (target log : Text) (properties : Properties) :
    match checkedCommand tool target log properties.asGiven with
    | .error e => ∃ name ∈ properties.map Prod.fst, isPropertyName name = false
        ∧ e = .badPropertyName name
    | .ok command => command = buildCommand tool target log properties
        ∧ ∀ p ∈ properties, isPropertyName p.1 = true := by
  have hchecked := checkProperties_cases properties
  rw [checkedCommand]
  cases hresult : checkProperties properties.asGiven with
  | error e =>
    rw [hresult] at hchecked
    exact hchecked
  | ok checked =>
    rw [hresult] at hchecked
    obtain ⟨rfl, hnames⟩ := hchecked
    exact ⟨rfl, hnames⟩

/-- A name that is not accepted was given by the caller. -/
theorem mem_given_of_not_isPropertyName {given : Properties} {name : Text}
    (hmem : name ∈ propertyNames given) (hbad : isPropertyName name = false) :
    name ∈ given.map Prod.fst := by
  rw [propertyNames, List.mem_eraseDups, List.mem_cons, List.mem_cons] at hmem
  rcases hmem with rfl | rfl | hmem
  · exact absurd hbad (by decide)
  · exact absurd hbad (by decide)
  · exact hmem

/-- **A build command sets exactly the properties that take effect**, each once and in the order of
    their names, behind eight arguments that do not depend on them; that is so unless some name
    that was given is not accepted. No other merged properties make the same command. -/
theorem checkedCommand_sets (tool : BuildTool) (target log configuration platform : Text)
    (given : Properties) :
    (match checkedCommand tool target log
        (mergeProperties configuration platform given.asGiven) with
      | .error e => ∃ name ∈ given.map Prod.fst, isPropertyName name = false
          ∧ e = .badPropertyName name
      | .ok command => ∃ settings, command = buildCommand tool target log [] ++ settings
          ∧ (buildCommand tool target log []).length = 8
          ∧ settings.map propertyOfArgument?
            = (effectiveProperties configuration platform given).map some)
      ∧ ∀ (tool' : BuildTool) (target' log' configuration' platform' : Text)
          (given' : Properties) (command : List Text),
        checkedCommand tool target log (mergeProperties configuration platform given.asGiven)
            = .ok command →
        checkedCommand tool' target' log'
            (mergeProperties configuration' platform' given'.asGiven) = .ok command →
        mergeProperties configuration platform given.asGiven
          = mergeProperties configuration' platform' given'.asGiven := by
  -- merged properties are those that take effect, in either way of giving them
  simp only [mergeProperties_asGiven]
  have hgiven := checkedCommand_cases tool target log
    (effectiveProperties configuration platform given)
  constructor
  · cases hresult : checkedCommand tool target log
        (effectiveProperties configuration platform given).asGiven with
    | error e =>
      rw [hresult] at hgiven
      obtain ⟨name, hmem, hbad, rfl⟩ := hgiven
      have hnames : (effectiveProperties configuration platform given).map Prod.fst
          = propertyNames given := by
        simp [effectiveProperties, Function.comp_def]
      exact ⟨name, mem_given_of_not_isPropertyName (hnames ▸ hmem) hbad, hbad, rfl⟩
    | ok command =>
      rw [hresult] at hgiven
      obtain ⟨rfl, hnames⟩ := hgiven
      exact ⟨_, buildCommand_eq_append tool target log _, rfl, map_propertyArgument hnames⟩
  · intro tool' target' log' configuration' platform' given' command hcommand hcommand'
    have hgiven' := checkedCommand_cases tool' target' log'
      (effectiveProperties configuration' platform' given')
    rw [hcommand] at hgiven
    rw [hcommand'] at hgiven'
    rw [eq_of_buildCommand_eq hgiven.2 hgiven'.2 (hgiven.1.symm.trans hgiven'.1)]

/-- A platform with quotes, given as a property or as the platform: the command is the same, and so
    are the properties. -/
theorem checkedCommand_sets_overridden :
    let tool : BuildTool := ⟨BuildTool.defaultPath, BuildTool.defaultVerbosity⟩
    let overriding := mergeProperties "Debug" "Any CPU"
      (Properties.asGiven [("Out", "a \\".toText), ("Platform", "\"x\"".toText)])
    let direct := mergeProperties "Debug" "\"x\"" (Properties.asGiven [("Out", "a \\".toText)])
    let command := ["dotnet", "msbuild", "/a.sln", "/t:rebuild", "/binaryLogger:/b.log",
      "/verbosity:minimal", "/nologo", "/interactive:false", "/p:Configuration=Debug",
      "/p:Platform=\\\"x\\\"", "/p:Out=\"a \\\""].map String.toText
    checkedCommand tool "/a.sln" "/b.log" overriding = .ok command
      ∧ checkedCommand tool "/a.sln" "/b.log" direct = .ok command ∧ overriding = direct := by
  intro tool overriding direct command
  have hoverriding : checkedCommand tool "/a.sln" "/b.log" overriding = .ok command := by
    decide +kernel
  have hdirect : checkedCommand tool "/a.sln" "/b.log" direct = .ok command := by decide +kernel
  exact ⟨hoverriding, hdirect, (checkedCommand_sets tool "/a.sln" "/b.log" "Debug" "Any CPU" _).2
    tool "/a.sln" "/b.log" "Debug" "\"x\"" _ command hoverriding hdirect⟩

end CompileTrace
