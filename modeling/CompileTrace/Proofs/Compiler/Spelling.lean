import CompileTrace.Proofs.Compiler.Numerals
import CompileTrace.Proofs.Compiler.SimpleQuotes
import CompileTrace.Proofs.Text.LetterCase

set_option autoImplicit false

/-! # The spelling of switches

A switch may begin with a slash or a hyphen, its name may be in any case, and some options have two
names. How it is spelled matters only where the argument is quoted: in the words of a fault, and
where an argument is kept that is not recognized (`Directive.ofSwitch_requote`). So spelling one
switch in another way leaves all else as it was (`interpret_respelled`). -/

namespace CompileTrace

namespace Switch

/-! ## Names -/

/-- The two names of options that have two. -/
def synonyms : List (Text × Text) :=
  [("reference", "r"), ("define", "d"), ("target", "t"), ("warn", "w"), ("main", "m"),
   ("optimize", "o")]

/-- What may stand at the end of a name: a sign, or none. -/
def signs : List Text := [[], [char '+'], [char '-']]

/-- Whether two names are the same in lower case, or there the two names of one option. -/
def SameName (name other : Text) : Prop :=
  name.lower = other.lower ∨ (name.lower, other.lower) ∈ synonyms
    ∨ (other.lower, name.lower) ∈ synonyms

instance (name other : Text) : Decidable (SameName name other) :=
  inferInstanceAs (Decidable (_ ∨ _ ∨ _))

/-- A switch in two spellings: with a hyphen for its slash, or with another name for the same option
    and the same sign. -/
inductive Respelled : Text → Text → Prop
  | hyphen {body : Text} (h : split? (char '/' :: body) ≠ none) :
    Respelled (char '/' :: body) (char '-' :: body)
  | renamed {lead : CodePoint} {name other sign : Text} {value? : Option Text}
    (h : split? (spell lead (name ++ sign) value?) ≠ none) (hcolon : char ':' ∉ name)
    (hsign : sign ∈ signs) (hname : SameName name other) :
    Respelled (spell lead (name ++ sign) value?) (spell lead (other ++ sign) value?)

section

variable {name other sign : Text}

theorem mem_signs_iff : sign ∈ signs ↔ sign = [] ∨ sign = [char '+'] ∨ sign = [char '-'] := by
  simp [signs]

theorem lower_append_sign (hsign : sign ∈ signs) (name : Text) :
    (name ++ sign).lower = name.lower ++ sign := by
  rcases mem_signs_iff.1 hsign with rfl | rfl | rfl
  · simp
  · exact Text.lower_concat (Or.inl rfl) name
  · exact Text.lower_concat (Or.inr rfl) name

/-- A name has no colon and no slash in it that the other name does not have. -/
theorem SameName.mem (h : SameName name other) {c : CodePoint} (hc : c = ':' ∨ c = '/')
    (hmem : c ∈ other) : c ∈ name := by
  have hlow : c.toNat < 0x41 := by
    rcases hc with rfl | rfl
    · decide
    · decide
  have hplain : ∀ pair ∈ synonyms, c ∉ pair.1 ∧ c ∉ pair.2 := by
    rcases hc with rfl | rfl
    · decide
    · decide
  rw [← Text.mem_lower hlow] at hmem ⊢
  rcases h with heq | hpair | hpair
  · rwa [heq]
  · exact absurd hmem (hplain _ hpair).2
  · exact absurd hmem (hplain _ hpair).1

theorem SameName.eq_nil_iff (h : SameName name other) : name = [] ↔ other = [] := by
  have hne : ∀ pair ∈ synonyms, pair.1 ≠ [] ∧ pair.2 ≠ [] := by decide
  rw [← Text.lower_eq_nil_iff name, ← Text.lower_eq_nil_iff other]
  rcases h with heq | hpair | hpair
  · rw [heq]
  · simp [hne _ hpair]
  · simp [hne _ hpair]

/-- A sign is told from the name before it, which ends in no sign of its own. -/
theorem ofName_append_sign (hsign : sign ∈ signs)
    (hlast : name.getLast? ≠ some (char '+') ∧ name.getLast? ≠ some (char '-'))
    (value? : Option Text) :
    ofName (name ++ sign) value? = ⟨name, sign ≠ [char '-'], value?⟩ := by
  rcases mem_signs_iff.1 hsign with rfl | rfl | rfl
  · rw [List.append_nil]
    unfold ofName
    split
    · next hplus => exact absurd hplus hlast.1
    · next hminus => exact absurd hminus hlast.2
    · simp
  · simp [ofName]
  · simp [ofName]

end

/-! ## Switches for the same option -/

/-- Whether two switches are for the same option, if for any, with the same sign and value. -/
structure Agrees (first second : Switch) : Prop where
  option : OptionName.ofText? first.name = OptionName.ofText? second.name
  enabled : first.enabled = second.enabled
  value : first.value? = second.value?

theorem Agrees.refl (switch : Switch) : switch.Agrees switch := ⟨rfl, rfl, rfl⟩

theorem Agrees.symm {first second : Switch} (h : first.Agrees second) : second.Agrees first :=
  ⟨h.option.symm, h.enabled.symm, h.value.symm⟩

/-- The synonyms are names of one option, whatever their sign. -/
theorem agrees_of_synonyms {pair : Text × Text} (h : pair ∈ synonyms) {sign : Text}
    (hsign : sign ∈ signs) (value? : Option Text) :
    (ofName (pair.1 ++ sign) value?).Agrees (ofName (pair.2 ++ sign) value?) := by
  have htable : ∀ pair ∈ synonyms, OptionName.ofText? pair.1 = OptionName.ofText? pair.2
      ∧ (pair.1.getLast? ≠ some (char '+') ∧ pair.1.getLast? ≠ some (char '-'))
      ∧ (pair.2.getLast? ≠ some (char '+') ∧ pair.2.getLast? ≠ some (char '-')) := by
    decide
  obtain ⟨hoption, hfirst, hsecond⟩ := htable pair h
  rw [ofName_append_sign hsign hfirst, ofName_append_sign hsign hsecond]
  exact ⟨hoption, rfl, rfl⟩

theorem SameName.agrees {name other sign : Text} (h : SameName name other) (hsign : sign ∈ signs)
    (value? : Option Text) :
    (ofName (name ++ sign).lower value?).Agrees (ofName (other ++ sign).lower value?) := by
  rw [lower_append_sign hsign, lower_append_sign hsign]
  rcases h with heq | hpair | hpair
  · rw [heq]
    exact Agrees.refl _
  · exact agrees_of_synonyms hpair hsign value?
  · exact (agrees_of_synonyms hpair hsign value?).symm

/-- **A switch in two spellings is read as two switches that agree**, or both times as one without a
    name. -/
theorem Respelled.exists_agrees {argument argument' : Text} (h : Respelled argument argument') :
    ∃ name name' value?, split? argument = some (name, value?)
      ∧ split? argument' = some (name', value?) ∧ name.isEmpty = name'.isEmpty
      ∧ (ofName name value?).Agrees (ofName name' value?) := by
  cases h with
  | hyphen h =>
    obtain ⟨⟨name, value?⟩, hsplit⟩ := Option.ne_none_iff_exists'.1 h
    exact ⟨name, name, value?, hsplit, (split?_hyphen h).trans hsplit, rfl, Agrees.refl _⟩
  | @renamed lead name other sign value? h hcolon hsign hname =>
    have hplain : char ':' ∉ sign := by
      rcases mem_signs_iff.1 hsign with rfl | rfl | rfl <;> decide
    have hcolon' : char ':' ∉ other := fun hmem => hcolon (hname.mem (Or.inl rfl) hmem)
    have hslash : char '/' ∈ other → char '/' ∈ name := hname.mem (Or.inr rfl)
    have hnil : name ++ sign = [] ↔ other ++ sign = [] := by
      rw [List.append_eq_nil_iff, List.append_eq_nil_iff, hname.eq_nil_iff]
    have hfirst := @split?_spell lead _ value? (List.not_mem_append hcolon hplain)
    have hsecond := @split?_spell lead _ value? (List.not_mem_append hcolon' hplain)
    rw [hfirst] at h
    split_ifs at h hfirst with hspelled
    · refine ⟨_, _, value?, hfirst, ?_, ?_, hname.agrees hsign value?⟩
      · rw [hsecond, if_pos]
        rw [← hnil]
        refine ⟨⟨hspelled.1.1, fun hlead hmem => hspelled.1.2 hlead ?_⟩, hspelled.2⟩
        rw [List.mem_append] at hmem ⊢
        exact hmem.imp_left hslash
      · rw [Bool.eq_iff_iff, List.isEmpty_iff, List.isEmpty_iff, Text.lower_eq_nil_iff,
          Text.lower_eq_nil_iff, hnil]
    · exact absurd rfl h

end Switch

/-! ## Where an argument is quoted -/

/-- The same fault of an argument that is written in another way. -/
def ArgumentFault.requote (argument : Text) : ArgumentFault → ArgumentFault
  | responseFile _ => responseFile argument
  | missingName _ => missingName argument
  | missingValue _ => missingValue argument
  | unknownTarget kind _ => unknownTarget kind argument
  | unknownNullability _ => unknownNullability argument
  | badWarningLevel level _ => badWarningLevel level argument
  | number fault => number fault

namespace Directive

/-- The same directive of an argument that is written in another way. -/
def requote (argument : Text) : Directive → Directive
  | unrecognized _ => unrecognized argument
  | d => d

/-- What an argument tells, if it is written in another way. -/
def requoted (argument : Text) (told : Except ArgumentFault Directive) :
    Except ArgumentFault Directive :=
  (told.map (requote argument)).mapError (ArgumentFault.requote argument)

section

variable {argument argument' : Text} {α : Type} {x y : Except ArgumentFault α}

theorem requoted_map (h : y = x.mapError (ArgumentFault.requote argument)) (f : α → Directive)
    (hf : ∀ a, requote argument (f a) = f a) : y.map f = requoted argument (x.map f) := by
  rw [h]
  cases x with
  | error fault => rfl
  | ok a =>
    show Except.ok (f a) = Except.ok (requote argument (f a))
    rw [hf]

theorem requoted_bind (h : y = x.mapError (ArgumentFault.requote argument))
    {f g : α → Except ArgumentFault Directive} (hfg : ∀ a, g a = requoted argument (f a)) :
    y.bind g = requoted argument (x.bind f) := by
  rw [h]
  cases x with
  | error fault => rfl
  | ok a => exact hfg a

theorem required_requote (argument argument' : Text) (value? : Option Text) :
    required argument' value?
      = (required argument value?).mapError (ArgumentFault.requote argument') := by
  simp only [required]
  split <;> rfl

/-- The faults of diagnostic ids quote no argument. -/
theorem diagnosticIds_requote (argument value : Text) :
    diagnosticIds value = (diagnosticIds value).mapError (ArgumentFault.requote argument) := by
  cases hids : diagnosticIds value with
  | ok ids => rfl
  | error fault =>
    obtain ⟨_, item, _, -, -, hitem⟩ := mapM_eq_error_iff.1 hids
    obtain ⟨reason, rfl⟩ := number_of_diagnosticId hitem
    rfl

theorem ofTarget_requote (argument argument' value : Text) :
    ofTarget argument' value = requoted argument' (ofTarget argument value) := by
  unfold ofTarget
  cases OutputKind.ofName? value.lower <;> rfl

theorem ofWarningLevel_requote (argument argument' level : Text) :
    ofWarningLevel argument' level = requoted argument' (ofWarningLevel argument level) := by
  unfold ofWarningLevel
  cases level.isDigits with
  | false => rfl
  | true => cases level.toWhole <;> rfl

variable {first second : Switch}

theorem ofNullable_requote (h : first.Agrees second) (argument argument' : Text) :
    ofNullable argument' second = requoted argument' (ofNullable argument first) := by
  unfold ofNullable
  rw [← h.enabled, ← h.value]
  cases first.enabled with
  | false => rfl
  | true =>
    cases first.value? with
    | none => rfl
    | some value =>
      cases hname : Nullability.ofName? value.unquote.lower with
      | none =>
        simp only [hname]
        rfl
      | some choice =>
        simp only [hname]
        rfl

theorem ofWarnAsError_requote (h : first.Agrees second) (argument : Text) :
    ofWarnAsError second = requoted argument (ofWarnAsError first) := by
  unfold ofWarnAsError
  rw [← h.enabled, ← h.value]
  simp only
  split
  · rfl
  · exact requoted_map (diagnosticIds_requote argument _) _ (fun _ => rfl)

/-- **Switches that agree tell the same**, but for the argument that they quote. -/
theorem ofSwitch_requote (h : first.Agrees second) (base argument argument' : Text) :
    ofSwitch base argument' second = requoted argument' (ofSwitch base argument first) := by
  have hrequired := required_requote argument argument' first.value?
  unfold ofSwitch
  rw [← h.option, ← h.value]
  simp only
  cases OptionName.ofText? first.name with
  | none => rfl
  | some option =>
    cases option with
    | out => exact requoted_map hrequired _ (fun _ => rfl)
    | target => exact requoted_bind hrequired (ofTarget_requote argument argument')
    | reference => exact requoted_map hrequired _ (fun _ => rfl)
    | define => exact requoted_map hrequired _ (fun _ => rfl)
    | languageVersion => exact requoted_map hrequired _ (fun _ => rfl)
    | nullable => exact ofNullable_requote h argument argument'
    | warningLevel => exact requoted_bind hrequired (ofWarningLevel_requote argument argument')
    | warnAsError => exact ofWarnAsError_requote h argument'
    | noWarn =>
      exact requoted_bind hrequired
        (fun v => requoted_map (diagnosticIds_requote argument' v) _ (fun _ => rfl))
    | platform => exact requoted_map hrequired _ (fun _ => rfl)
    | main => exact requoted_map hrequired _ (fun _ => rfl)
    | documentation => rfl
    | toggle t =>
      rw [← h.enabled]
      cases first.value? <;> rfl

/-- What an argument tells that is read as no switch or as one is what it would tell if it were
    written as it is. -/
theorem ofArgument_requote_self (base argument : Text) :
    ofArgument base argument = requoted argument (ofArgument base argument) := by
  unfold ofArgument
  split
  · rfl
  · split
    · rfl
    · split
      · rfl
      · exact ofSwitch_requote (Switch.Agrees.refl _) base argument argument

theorem ofArgument_requote (h : Switch.Respelled argument argument') (base : Text) :
    ofArgument base argument' = requoted argument' (ofArgument base argument) := by
  obtain ⟨name, name', value?, hsplit, hsplit', hempty, hagrees⟩ := h.exists_agrees
  have hresponse : ∀ {argument : Text} {parts}, Switch.split? argument = some parts →
      argument.head? ≠ some (char '@') := by
    intro argument parts hsplit hhead
    rw [Switch.split?_eq_none (by simp [hhead])] at hsplit
    cases hsplit
  unfold ofArgument
  rw [if_neg (hresponse hsplit), if_neg (hresponse hsplit'), hsplit, hsplit']
  simp only
  rw [← hempty]
  split
  · rfl
  · exact ofSwitch_requote hagrees base argument argument'

end

end Directive

namespace CompilerArguments

/-! ## Many arguments -/

/-- What arguments tell in all where one of them, of which it is known what those before it tell, is
    written in one way and in another: the same fault, but for what it quotes, or the same, but for
    this argument among those that are not recognized. -/
inductive Rewritten (argument argument' : Text) (before : Except ArgumentFault CompilerArguments) :
    Except ArgumentFault CompilerArguments → Except ArgumentFault CompilerArguments → Prop
  | fault (fault : ArgumentFault) :
    Rewritten argument argument' before (.error fault) (.error fault)
  | quoted (fault : ArgumentFault) :
    Rewritten argument argument' before (.error fault) (.error (fault.requote argument'))
  | same (a : CompilerArguments) : Rewritten argument argument' before (.ok a) (.ok a)
  | unrecognized (a first : CompilerArguments) (later : List Text) (hfirst : before = .ok first) :
    Rewritten argument argument' before
      (.ok { a with unrecognized := first.unrecognized ++ argument :: later })
      (.ok { a with unrecognized := first.unrecognized ++ argument' :: later })

variable {argument argument' : Text}

/-- What arguments tell in all, one of them told apart from those before and after it. -/
theorem interpretFrom_middle (base : Text) (before after : List Text) (argument : Text) :
    interpretFrom base (before ++ argument :: after) = (do
      let first ← before.mapM (Directive.ofArgument base)
      let d ← Directive.ofArgument base argument
      let later ← after.mapM (Directive.ofArgument base)
      return (first ++ d :: later).foldl apply (default base)) := by
  rw [interpretFrom, List.mapM_append, List.mapM_cons]
  cases before.mapM (Directive.ofArgument base) with
  | error fault => rfl
  | ok first =>
    cases Directive.ofArgument base argument with
    | error fault => rfl
    | ok d => cases after.mapM (Directive.ofArgument base) <;> rfl

/-- The directives around an argument that is not recognized are carried out as if it were not
    there. -/
theorem foldl_unrecognized (base argument : Text) (first later : List Directive) :
    (first ++ .unrecognized argument :: later).foldl apply (default base)
      = { (first ++ later).foldl apply (default base) with
          unrecognized := (first.foldl apply (default base)).unrecognized
            ++ argument :: later.flatMap Directive.newUnrecognized } := by
  have hkept := unrecognized_foldl (first ++ .unrecognized argument :: later) (default base)
  have hsame : ∀ kept, { (first ++ .unrecognized argument :: later).foldl apply (default base)
      with unrecognized := kept }
        = { (first ++ later).foldl apply (default base) with unrecognized := kept } := by
    intro kept
    rw [foldl_apply_isRecognized, foldl_apply_isRecognized, List.filter_append, List.filter_append]
    rfl
  rw [List.flatMap_append, List.flatMap_cons] at hkept
  rw [← hsame, unrecognized_foldl first, List.append_assoc]
  generalize (first ++ .unrecognized argument :: later).foldl apply (default base) = told at hkept ⊢
  exact congrArg (fun kept => { told with unrecognized := kept }) hkept

/-- **How a switch is spelled does not matter**: spelled in another way, it can be interpreted or
    not as before, and tells the same, but that it is quoted, in a fault or where it is not
    recognized, as it is spelled. -/
theorem interpret_respelled (cwd directory : Text) (before after : List Text)
    (h : Switch.Respelled argument argument') :
    Rewritten argument argument' (interpret cwd directory before)
      (interpret cwd directory (before ++ argument :: after))
      (interpret cwd directory (before ++ argument' :: after)) := by
  unfold interpret
  generalize baseOf cwd directory = base
  have hself := Directive.ofArgument_requote_self base argument
  rw [interpretFrom_middle, interpretFrom_middle, Directive.ofArgument_requote h base,
    interpretFrom]
  cases before.mapM (Directive.ofArgument base) with
  | error fault => exact .fault fault
  | ok first =>
    cases htold : Directive.ofArgument base argument with
    | error fault => exact .quoted fault
    | ok d =>
      cases after.mapM (Directive.ofArgument base) with
      | error fault => exact .fault fault
      | ok later =>
        cases d with
        | unrecognized kept =>
          rw [htold] at hself
          cases hself
          show Rewritten argument argument' _
            (.ok ((first ++ .unrecognized argument :: later).foldl apply (default base)))
            (.ok ((first ++ .unrecognized argument' :: later).foldl apply (default base)))
          rw [foldl_unrecognized, foldl_unrecognized]
          exact .unrecognized _ _ _ rfl
        | _ => exact .same _

/-- A toggle with a value, which is not recognized by either of its names. -/
theorem interpret_respelled_toggle :
    Switch.Respelled "/Optimize+:yes" "/O+:yes"
      ∧ Rewritten "/Optimize+:yes" "/O+:yes" (interpret "/src" [] ["a.cs", "/unsafe"])
        (interpret "/src" [] ["a.cs", "/unsafe", "/Optimize+:yes", "/o-"])
        (interpret "/src" [] ["a.cs", "/unsafe", "/O+:yes", "/o-"]) := by
  have h : Switch.Respelled "/Optimize+:yes" "/O+:yes" :=
    @Switch.Respelled.renamed '/' "Optimize" "O" [char '+'] (some "yes")
      (by decide +kernel) (by decide)
      (by decide) (by decide +kernel)
  exact ⟨h, interpret_respelled "/src" [] ["a.cs", "/unsafe"] ["/o-"] h⟩

end CompilerArguments

end CompileTrace
