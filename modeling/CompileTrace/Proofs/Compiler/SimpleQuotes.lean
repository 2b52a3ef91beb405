import CompileTrace.Proofs.CommandLine.Quoting
import CompileTrace.Proofs.Compiler.Effects
import CompileTrace.Proofs.Compiler.Recorded

set_option autoImplicit false

/-! # Arguments in simple quotes

Arguments can be interpreted as they were recorded or as what they stand for, and it can matter
which: in quotes a leading slash begins no switch, and an empty list in quotes is a list still. But
quotes that are *simple*, around a whole argument or around the whole value of a switch, are taken
away wherever a value is looked at, and taking them away twice does no harm. So a line whose
arguments have simple quotes, or none, tells the same in both ways (`interpret_simplyQuoted`). Only
what is not recognized is kept as it was given. -/

namespace CompileTrace

/-! ## Simple quotes -/

/-- A recorded argument has simple quotes: none at all, or one pair around the whole of something
    that is no switch and no response file even without them, or one pair around the whole value of
    a switch. -/
inductive SimplyQuoted : Text → Prop
  | bare (raw : Text) (hraw : char '"' ∉ raw) : SimplyQuoted raw
  | enclosed (content : Text) (hcontent : char '"' ∉ content)
      (hhead : ∀ c ∈ content.head?, c ≠ '/' ∧ c ≠ '-' ∧ c ≠ '@') :
      SimplyQuoted (char '"' :: content ++ [char '"'])
  | valued (lead : CodePoint) (name content : Text) (hlead : lead = '/' ∨ lead = '-')
      (hcolon : char ':' ∉ name) (hslash : lead = '/' → char '/' ∉ name)
      (hcontent : char '"' ∉ content) (hne : content ≠ []) :
      SimplyQuoted (lead :: name ++ [char ':'] ++ char '"' :: content ++ [char '"'])

/-- Simple quotes are taken away. -/
theorem Text.unquote_enclosed (content : Text) (h : char '"' ∉ content) :
    unquote (char '"' :: content ++ [char '"']) = content := by
  rw [unquote, List.cons_append, dropEnclosingQuotes_enclosed, unescapeQuotes_eq_self content h]

namespace Token

variable {token : Token}

theorem quote_notMem_text (h : token.WellFormed) : char '"' ∉ token.text := by
  intro hmem
  exact ((isPlain_iff '"').1 (h.plain _ hmem)).2 rfl

/-- A token that is recorded without quotes has no region. -/
theorem region?_eq_none (h : char '"' ∉ token.raw) : token.region? = none := by
  obtain ⟨text, _ | content⟩ := token
  · rfl
  · simp [raw] at h

/-- The region of a token is told by how it was recorded, unless a backslash stands before the
    quote. -/
theorem eq_of_raw (h : token.WellFormed) (before content : Text)
    (hlast : before.getLast? ≠ some (char '\\'))
    (hraw : token.raw = before ++ char '"' :: content ++ [char '"']) :
    token = ⟨before, some content⟩ := by
  have htext := quote_notMem_text h
  obtain ⟨text, _ | inside⟩ := token
  · rw [show raw ⟨text, none⟩ = text from rfl] at hraw
    simp [hraw] at htext
  · have hregion : text ++ char '"' :: inside = before ++ char '"' :: content :=
      (List.append_inj' hraw rfl).1
    rcases List.append_eq_append_iff.1 hregion with
      ⟨between, hbefore, hinside⟩ | ⟨between, rfl, hcontent⟩
    · cases between with
      | nil =>
        rw [List.nil_append, List.cons.injEq] at hinside
        rw [hbefore, List.append_nil, hinside.2]
      | cons c rest =>
        -- the quote would stand in the region, and close it
        rw [List.cons_append, List.cons.injEq] at hinside
        have hescaped := h.escaped inside rfl rest content hinside.2
        rw [hbefore, List.getLast?_append, List.getLast?_cons, hescaped] at hlast
        simp at hlast
    · cases between with
      | nil =>
        rw [List.nil_append, List.cons.injEq] at hcontent
        rw [List.append_nil, hcontent.2]
      | cons c rest =>
        rw [List.cons_append, List.cons.injEq] at hcontent
        rw [← hcontent.1] at htext
        simp at htext

end Token

/-! ## Telling alike -/

/-- What a token tells as it was recorded and as what it stands for: nothing both times, or the
    same, or that it is not recognized. -/
inductive ToldAlike (token : Token) :
    Except ArgumentFault Directive → Except ArgumentFault Directive → Prop
  | fault (first second : ArgumentFault) : ToldAlike token (.error first) (.error second)
  | same (d : Directive) (hd : d.newUnrecognized = []) : ToldAlike token (.ok d) (.ok d)
  | unrecognized :
      ToldAlike token (.ok (.unrecognized token.raw)) (.ok (.unrecognized token.value))

namespace ToldAlike

variable {token : Token} {α : Type} {x y : Except ArgumentFault α}

theorem map (h : x.toOption = y.toOption) (f : α → Directive)
    (hf : ∀ a, (f a).newUnrecognized = []) : ToldAlike token (x.map f) (y.map f) := by
  rcases errors_or_same_of_toOption_eq h with ⟨first, second, rfl, rfl⟩ | ⟨a, rfl, rfl⟩
  · exact fault first second
  · exact same _ (hf a)

theorem bind (h : x.toOption = y.toOption) {f g : α → Except ArgumentFault Directive}
    (hfg : ∀ a, ToldAlike token (f a) (g a)) : ToldAlike token (x.bind f) (y.bind g) := by
  rcases errors_or_same_of_toOption_eq h with ⟨first, second, rfl, rfl⟩ | ⟨a, rfl, rfl⟩
  · exact fault first second
  · exact hfg a

theorem exists_ok_iff {first second : Except ArgumentFault Directive}
    (h : ToldAlike token first second) : (∃ d, first = .ok d) ↔ ∃ d, second = .ok d := by
  cases h with
  | fault f g => simp
  | same d hd => simp
  | unrecognized => simp

end ToldAlike

/-- Two switches are the same but for quotes around their values. -/
structure Switch.Alike (first second : Switch) : Prop where
  name : first.name = second.name
  enabled : first.enabled = second.enabled
  value : first.value?.map Text.unquote = second.value?.map Text.unquote
  empty : first.value?.map List.isEmpty = second.value?.map List.isEmpty

namespace Switch

theorem Alike.refl (switch : Switch) : switch.Alike switch := ⟨rfl, rfl, rfl, rfl⟩

theorem ofName_alike (name : Text) {first second : Text} (hvalue : first.unquote = second.unquote)
    (hfirst : first ≠ []) (hsecond : second ≠ []) :
    (ofName name (some first)).Alike (ofName name (some second)) := by
  have hunquoted : (some first).map Text.unquote = (some second).map Text.unquote :=
    congrArg some hvalue
  have hempty : (some first).map List.isEmpty = (some second).map List.isEmpty := by
    rw [Option.map_some, Option.map_some, List.isEmpty_eq_false_iff.2 hfirst,
      List.isEmpty_eq_false_iff.2 hsecond]
  unfold ofName
  split
  · exact ⟨rfl, rfl, hunquoted, hempty⟩
  · exact ⟨rfl, rfl, hunquoted, hempty⟩
  · exact ⟨rfl, rfl, hunquoted, hempty⟩

end Switch

namespace Directive

variable {token : Token} {first second : Switch}

theorem required_alike (h : first.Alike second) (raw value : Text) :
    (required raw first.value?).toOption = (required value second.value?).toOption := by
  have hvalue : (first.value?.getD []).unquote = (second.value?.getD []).unquote := by
    have hunquoted := h.value
    cases hfirst : first.value? with
    | none =>
      rw [hfirst, Option.map_none, eq_comm, Option.map_eq_none_iff] at hunquoted
      rw [hunquoted]
    | some v =>
      rw [hfirst, Option.map_some, eq_comm, Option.map_eq_some_iff] at hunquoted
      obtain ⟨w, hsecond, hw⟩ := hunquoted
      rw [hsecond]
      exact hw.symm
  unfold required
  rw [hvalue]
  simp only
  split <;> rfl

theorem ofTarget_alike (raw value kind : Text) :
    ToldAlike token (ofTarget raw kind) (ofTarget value kind) := by
  unfold ofTarget
  cases OutputKind.ofName? kind.lower with
  | none => exact .fault _ _
  | some k => exact .same _ rfl

theorem ofWarningLevel_alike (raw value level : Text) :
    ToldAlike token (ofWarningLevel raw level) (ofWarningLevel value level) := by
  unfold ofWarningLevel
  cases level.isDigits with
  | false => exact .fault _ _
  | true =>
    cases level.toWhole with
    | error fault => exact .fault _ _
    | ok n => exact .same _ rfl

theorem ofNullable_alike (h : first.Alike second) (raw value : Text) :
    ToldAlike token (ofNullable raw first) (ofNullable value second) := by
  obtain ⟨name, enabled, value?⟩ := first
  obtain ⟨name', enabled', value'?⟩ := second
  obtain ⟨rfl, rfl, hunquoted, -⟩ := h
  unfold ofNullable
  cases enabled with
  | false => exact .same _ rfl
  | true =>
    cases value? with
    | none =>
      cases value'? with
      | none => exact .same _ rfl
      | some w => cases hunquoted
    | some v =>
      cases value'? with
      | none => cases hunquoted
      | some w =>
        have hvalue : v.unquote = w.unquote := Option.some.inj hunquoted
        simp only [hvalue, Bool.not_true, Bool.false_eq_true, if_false]
        cases Nullability.ofName? w.unquote.lower with
        | none => exact .fault _ _
        | some choice => exact .same _ rfl

theorem ofWarnAsError_alike (h : first.Alike second) :
    ToldAlike token (ofWarnAsError first) (ofWarnAsError second) := by
  obtain ⟨name, enabled, value?⟩ := first
  obtain ⟨name', enabled', value'?⟩ := second
  obtain ⟨rfl, rfl, hunquoted, hempty⟩ := h
  unfold ofWarnAsError
  cases value? with
  | none =>
    cases value'? with
    | none => exact .same _ rfl
    | some w => cases hunquoted
  | some v =>
    cases value'? with
    | none => cases hunquoted
    | some w =>
      have hvalue : v.unquote = w.unquote := Option.some.inj hunquoted
      have hnone : v.isEmpty = w.isEmpty := Option.some.inj hempty
      simp only [Option.getD_some, hnone]
      cases w.isEmpty with
      | true => exact .same _ rfl
      | false =>
        refine ToldAlike.map ?_ _ (fun _ => rfl)
        rw [diagnosticIds, diagnosticIds, hvalue]

/-- **Switches that are the same but for quotes around their values tell the same**, whichever
    option they are for. -/
theorem ofSwitch_alike (h : first.Alike second) (base : Text) :
    ToldAlike token (ofSwitch base token.raw first) (ofSwitch base token.value second) := by
  have hrequired := required_alike h token.raw token.value
  unfold ofSwitch
  rw [h.name]
  simp only
  cases OptionName.ofText? second.name with
  | none => exact .unrecognized
  | some option =>
    cases option with
    | target => exact .bind hrequired (ofTarget_alike _ _)
    | nullable => exact ofNullable_alike h _ _
    | warningLevel => exact .bind hrequired (ofWarningLevel_alike _ _)
    | warnAsError => exact ofWarnAsError_alike h
    | noWarn => exact .bind hrequired (fun _ => .map rfl _ (fun _ => rfl))
    | documentation => exact .same _ rfl
    | toggle t =>
      have hnone : first.value?.isNone = second.value?.isNone := by
        rw [← Option.isNone_map (f := Text.unquote), h.value, Option.isNone_map]
      simp only [hnone, h.enabled]
      cases second.value?.isNone with
      | true => exact .same _ rfl
      | false => exact .unrecognized
    | _ => exact .map hrequired _ (fun _ => rfl)

theorem ofArgument_eq_source {argument : Text}
    (h : ∀ c ∈ argument.head?, c ≠ '/' ∧ c ≠ '-' ∧ c ≠ '@') (base : Text) :
    ofArgument base argument = .ok (.source (Path.resolve base argument.unquote)) := by
  have hresponse : argument.head? ≠ some (char '@') := fun hhead => (h '@' hhead).2.2 rfl
  rw [ofArgument, if_neg hresponse,
    Switch.split?_eq_none (fun c hc => ⟨(h c hc).1, (h c hc).2.1⟩)]

theorem ofArgument_valued {lead : CodePoint} (name value : Text) (hlead : lead = '/' ∨ lead = '-')
    (hcolon : char ':' ∉ name) (hslash : lead = '/' → char '/' ∉ name) (base : Text) :
    ofArgument base (lead :: (name ++ char ':' :: value))
      = if name.lower.isEmpty then .error (.missingName (lead :: (name ++ char ':' :: value)))
        else ofSwitch base (lead :: (name ++ char ':' :: value))
          (Switch.ofName name.lower (some value)) := by
  have hresponse : (lead :: (name ++ char ':' :: value)).head? ≠ some (char '@') := by
    rcases hlead with rfl | rfl
    · simp
    · simp
  rw [ofArgument, if_neg hresponse, Switch.split?_valued name value hlead hcolon hslash]

/-- An argument tells the same as itself. -/
theorem ofArgument_alike_self (base argument : Text) (hraw : token.raw = argument)
    (hvalue : token.value = argument) :
    ToldAlike token (ofArgument base argument) (ofArgument base argument) := by
  unfold ofArgument
  split
  · exact .fault _ _
  · cases Switch.split? argument with
    | none => exact .same _ rfl
    | some parts =>
      simp only
      split
      · exact .fault _ _
      · have halike : ToldAlike token
            (ofSwitch base token.raw (Switch.ofName parts.1 parts.2))
            (ofSwitch base token.value (Switch.ofName parts.1 parts.2)) :=
          ofSwitch_alike (.refl _) base
        rwa [hraw, hvalue] at halike

/-- **A token in simple quotes tells the same as it was recorded and as what it stands for.** -/
theorem ofArgument_alike (base : Text) (hwell : token.WellFormed)
    (h : SimplyQuoted token.raw) :
    ToldAlike token (ofArgument base token.raw) (ofArgument base token.value) := by
  generalize hraw : token.raw = recorded at h
  cases h with
  | bare _ hquote =>
    rw [← hraw] at hquote
    have hregion := Token.region?_eq_none hquote
    have hvalue : token.value = recorded := by
      rw [← hraw, Token.value, Token.raw, hregion]
    rw [hvalue]
    exact ofArgument_alike_self base recorded hraw hvalue
  | enclosed content hcontent hhead =>
    have htoken : token = ⟨[], some content⟩ :=
      Token.eq_of_raw hwell [] content (by simp) hraw
    have hvalue : token.value = content := by
      rw [htoken]
      exact Text.unescapeQuotes_eq_self content hcontent
    have hquoted : ofArgument base (char '"' :: content ++ [char '"'])
        = .ok (.source (Path.resolve base (Text.unquote (char '"' :: content ++ [char '"'])))) :=
      ofArgument_eq_source (by simp) base
    rw [hvalue, hquoted, ofArgument_eq_source hhead, Text.unquote_enclosed content hcontent,
      Text.unquote_eq_self content hcontent]
    exact .same _ rfl
  | valued lead name content hlead hcolon hslash hcontent hne =>
    have hcolonLast : (lead :: name ++ [char ':']).getLast? ≠ some (char '\\') := by
      rw [List.getLast?_append]
      simp
    have htoken : token = ⟨lead :: name ++ [char ':'], some content⟩ :=
      Token.eq_of_raw hwell _ content hcolonLast hraw
    have hvalue : token.value = lead :: (name ++ char ':' :: content) := by
      rw [htoken]
      simp [Token.value, Text.unescapeQuotes_eq_self content hcontent]
    have hrecorded : lead :: name ++ [char ':'] ++ char '"' :: content ++ [char '"']
        = lead :: (name ++ char ':' :: (char '"' :: content ++ [char '"'])) := by simp
    rw [hrecorded] at hraw ⊢
    rw [hvalue, ofArgument_valued name _ hlead hcolon hslash,
      ofArgument_valued name _ hlead hcolon hslash]
    split
    · exact .fault _ _
    · have hswitch : (Switch.ofName name.lower (some (char '"' :: content ++ [char '"']))).Alike
          (Switch.ofName name.lower (some content)) := by
        refine Switch.ofName_alike _ ?_ (by simp) hne
        rw [Text.unquote_enclosed content hcontent, Text.unquote_eq_self content hcontent]
      have halike : ToldAlike token _ _ := ofSwitch_alike hswitch base
      rwa [hraw, hvalue] at halike

/-! ## Many tokens -/

/-- A directive says more than that an argument is not recognized. -/
def isRecognized (d : Directive) : Bool := d.newUnrecognized.isEmpty

/-- Tokens that tell the same as they were recorded and as what they stand for give the same
    directives both times, but for those not recognized, which are some of the tokens. -/
theorem filter_isRecognized_alike {base : Text} {found : List Token}
    (h : ∀ t ∈ found, ToldAlike t (ofArgument base t.raw) (ofArgument base t.value))
    {first second : List Directive}
    (hfirst : (found.map Token.raw).mapM (ofArgument base) = .ok first)
    (hsecond : (found.map Token.value).mapM (ofArgument base) = .ok second) :
    first.filter isRecognized = second.filter isRecognized
      ∧ ∃ kept : List Token, kept.Sublist found
        ∧ first.flatMap newUnrecognized = kept.map Token.raw
        ∧ second.flatMap newUnrecognized = kept.map Token.value := by
  induction found generalizing first second with
  | nil =>
    cases hfirst
    cases hsecond
    exact ⟨rfl, [], List.Sublist.slnil, rfl, rfl⟩
  | cons t rest ih =>
    rw [List.forall_mem_cons] at h
    obtain ⟨d, ds, hd, hds, rfl⟩ := mapM_cons_eq_ok hfirst
    obtain ⟨e, es, he, hes, rfl⟩ := mapM_cons_eq_ok hsecond
    obtain ⟨hfilter, kept, hkept, hfirstKept, hsecondKept⟩ := ih h.2 hds hes
    have htold := h.1
    rw [hd, he] at htold
    cases htold with
    | same _ hnone =>
      refine ⟨by rw [List.filter_cons, List.filter_cons, hfilter], kept, hkept.cons t, ?_, ?_⟩
      · rw [List.flatMap_cons, hnone, List.nil_append, hfirstKept]
      · rw [List.flatMap_cons, hnone, List.nil_append, hsecondKept]
    | unrecognized =>
      refine ⟨hfilter, t :: kept, hkept.cons_cons t, ?_, ?_⟩
      · rw [List.flatMap_cons, hfirstKept]
        rfl
      · rw [List.flatMap_cons, hsecondKept]
        rfl

end Directive

namespace CompilerArguments

/-- What is recognized is carried out whatever was left unrecognized before. -/
theorem apply_isRecognized {d : Directive} (h : d.isRecognized = true) (a : CompilerArguments)
    (kept : List Text) :
    { a.apply d with unrecognized := kept } = { a with unrecognized := kept }.apply d := by
  cases d with
  | unrecognized argument => cases h
  | _ => rfl

/-- Apart from what is not recognized, arguments are what the directives that are recognized make
    them. -/
theorem foldl_apply_isRecognized (directives : List Directive) (a : CompilerArguments)
    (kept : List Text) :
    { directives.foldl apply a with unrecognized := kept }
      = (directives.filter Directive.isRecognized).foldl apply
          { a with unrecognized := kept } := by
  induction directives generalizing a with
  | nil => rfl
  | cons d rest ih =>
    rw [List.foldl_cons, ih, List.filter_cons]
    split
    · next hd => rw [List.foldl_cons, apply_isRecognized hd]
    · next hd =>
      cases d with
      | unrecognized argument => rfl
      | _ => exact absurd rfl hd

/-- Arguments can be interpreted if each of them tells something. -/
theorem exists_interpret_iff (cwd directory : Text) (args : List Text) :
    (∃ a, interpret cwd directory args = .ok a)
      ↔ ∀ argument ∈ args, ∃ d, Directive.ofArgument (baseOf cwd directory) argument = .ok d := by
  rw [interpret, interpretFrom, exists_map_eq_ok_iff]
  constructor
  · rintro ⟨directives, h⟩
    exact exists_of_mapM_eq_ok h
  · exact exists_mapM_eq_ok

/-- What the tokens of a line tell as they were recorded and as what they stand for is the same, but
    that the ones not recognized are given as they were recorded and as what they stand for. -/
structure Alike (found : List Token) (recorded meant : CompilerArguments) : Prop where
  same : { recorded with unrecognized := meant.unrecognized } = meant
  unrecognized : ∃ kept : List Token, kept.Sublist found
    ∧ recorded.unrecognized = kept.map Token.raw ∧ meant.unrecognized = kept.map Token.value

/-- **A command line whose arguments have simple quotes, or none, tells the same as it was recorded
    and as what it stands for**, in whatever directory: both can be interpreted, or neither, and the
    results differ only in how the arguments that were not recognized are written. -/
theorem interpret_simplyQuoted (cwd directory commandLine : Text) (recorded : List Text)
    (hrecorded : arguments true commandLine = .ok recorded)
    (hsimple : ∀ raw ∈ recorded, SimplyQuoted raw) :
    ∃ found meant, tokenize commandLine = .ok found ∧ recorded = found.map Token.raw
      ∧ meant = found.map Token.value ∧ arguments false commandLine = .ok meant
      ∧ ((∃ a, interpret cwd directory recorded = .ok a)
        ↔ ∃ b, interpret cwd directory meant = .ok b)
      ∧ ∀ a b, interpret cwd directory recorded = .ok a → interpret cwd directory meant = .ok b →
        Alike found a b := by
  obtain ⟨found, hfound, rfl⟩ := arguments_eq_ok_iff.1 hrecorded
  have htold : ∀ t ∈ found, ToldAlike t (Directive.ofArgument (baseOf cwd directory) t.raw)
      (Directive.ofArgument (baseOf cwd directory) t.value) := by
    intro t ht
    exact Directive.ofArgument_alike _ (tokenize_wellFormed commandLine found hfound t ht)
      (hsimple t.raw (List.mem_map_of_mem ht))
  refine ⟨found, _, hfound, rfl, rfl, arguments_eq_ok_iff.2 ⟨found, hfound, rfl⟩, ?_, ?_⟩
  · rw [exists_interpret_iff, exists_interpret_iff, List.forall_mem_map, List.forall_mem_map]
    exact forall₂_congr (fun t ht => (htold t ht).exists_ok_iff)
  · intro a b ha hb
    obtain ⟨first, hfirst, rfl⟩ := exists_of_map_eq_ok ha
    obtain ⟨second, hsecond, rfl⟩ := exists_of_map_eq_ok hb
    obtain ⟨hfilter, kept, hkept, hraws, hvalues⟩ :=
      Directive.filter_isRecognized_alike htold hfirst hsecond
    refine ⟨?_, kept, hkept, ?_, ?_⟩
    · rw [foldl_apply_isRecognized, hfilter, ← foldl_apply_isRecognized]
    · rw [unrecognized_foldl, hraws]
      rfl
    · rw [unrecognized_foldl, hvalues]
      rfl

/-- A source, a value and something unrecognized in quotes, and a switch without. -/
theorem interpret_simplyQuoted_analyzer :
    let commandLine : Text := "\"my file.cs\" /t:\"library\" -analyzer:\"a b.dll\" /o+"
    let recorded : List Text :=
      ["\"my file.cs\"", "/t:\"library\"", "-analyzer:\"a b.dll\"", "/o+"]
    arguments true commandLine = .ok recorded ∧ (∀ raw ∈ recorded, SimplyQuoted raw)
      ∧ ∃ found meant, tokenize commandLine = .ok found ∧ recorded = found.map Token.raw
        ∧ meant = found.map Token.value ∧ arguments false commandLine = .ok meant
        ∧ ((∃ a, interpret "/src" [] recorded = .ok a) ↔ ∃ b, interpret "/src" [] meant = .ok b)
        ∧ ∀ a b, interpret "/src" [] recorded = .ok a → interpret "/src" [] meant = .ok b →
          Alike found a b := by
  intro commandLine recorded
  have hsimple : ∀ raw ∈ recorded, SimplyQuoted raw := by
    simp only [recorded, List.forall_mem_cons]
    exact ⟨.enclosed "my file.cs" (by decide) (by simp),
      .valued '/' "t" "library" (by simp) (by decide) (by decide) (by decide) (by decide),
      .valued '-' "analyzer" "a b.dll" (by simp) (by decide) (by decide) (by decide) (by decide),
      .bare "/o+" (by decide), by simp⟩
  exact ⟨rfl, hsimple, interpret_simplyQuoted "/src" [] commandLine recorded rfl hsimple⟩

/-- Quotes around nothing are not simple: they make a list of no warnings, where without them all
    warnings are meant. -/
example :
    (interpret "/src" [] ["/warnaserror:\"\""]).map (·.compilation.warningsAsErrors) = .ok false
      ∧ (interpret "/src" [] ["/warnaserror:"]).map (·.compilation.warningsAsErrors) = .ok true :=
  ⟨rfl, rfl⟩

end CompilerArguments

end CompileTrace
