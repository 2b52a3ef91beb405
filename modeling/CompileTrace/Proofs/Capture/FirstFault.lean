import CompileTrace.Proofs.Capture.Independence
import CompileTrace.Proofs.Invocation.Dumps
import CompileTrace.Proofs.Workspace.Stages

set_option autoImplicit false

/-! # The first bad line

The lines of a dump are read and assembled one by one, so that two kinds of errors meet: those of
lines that are no records, and those of records that do not become projects. The first line with
either decides (`capture_first_bad_line`): its error is the one of the capture, and no line after it
is as much as looked at. Whether a record fails does not depend on those before it
(`fault?_of_create`), and within a record the first stage that fails is told
(`capture_record_error_iff`). -/

namespace CompileTrace

/-! ## Members of a record -/

namespace Record

/-- The names of the members, in the order in which they are looked up. -/
def names : List Text := ["language", "projectFilePath", "projectDirectory", "commandLineArguments"]

/-- The first name that an object lacks. -/
def lacking? (members : List (Text × Json)) : Option Text :=
  names.find? (fun name => (Table.get? members name).isNone)

/-- Four members are looked up one after the other. -/
theorem lookUp_eq_error_iff (members : List (Text × Json)) (a b c d : Text) (fault : RecordFault) :
    (do let language ← member (.object members) a
        let projectFile ← member (.object members) b
        let projectDirectory ← member (.object members) c
        let commandLine ← member (.object members) d
        (.ok ⟨language, projectFile, projectDirectory, commandLine⟩ : Except RecordFault Record))
        = .error fault
      ↔ ∃ name, [a, b, c, d].find? (fun name => (Table.get? members name).isNone) = some name
        ∧ fault = .missingField name := by
  cases ha : Table.get? members a with
  | none => simp [member, ha, bind, Except.bind, eq_comm]
  | some va =>
    cases hb : Table.get? members b with
    | none => simp [member, ha, hb, bind, Except.bind, eq_comm]
    | some vb =>
      cases hc : Table.get? members c with
      | none => simp [member, ha, hb, hc, bind, Except.bind, eq_comm]
      | some vc =>
        cases hd : Table.get? members d with
        | none => simp [member, ha, hb, hc, hd, bind, Except.bind, eq_comm]
        | some vd => simp [member, ha, hb, hc, hd, bind, Except.bind]

/-- An object is no record if it lacks a member, of which the first is told. -/
theorem ofJson_object_eq_error_iff (members : List (Text × Json)) (fault : RecordFault) :
    ofJson (.object members) = .error fault
      ↔ ∃ name, lacking? members = some name ∧ fault = .missingField name :=
  lookUp_eq_error_iff members _ _ _ _ fault

end Record

/-! ## Bad entries -/

namespace Assembler

/-- Nothing after an error matters. -/
theorem compileAll_append_of_error (a : Assembler) {s last : AssemblyState}
    {recording : Recording} {error : AssemblyError}
    (h : a.compileAll s recording = (.error error, last)) (rest : Recording) :
    a.compileAll s (recording ++ rest) = (.error error, last) := by
  induction recording generalizing s error with
  | nil => cases h
  | cons entry others ih =>
    cases entry with
    | error e =>
      rw [compileAll] at h
      rw [List.cons_append, compileAll, h]
    | ok r =>
      rw [compileAll] at h
      rw [List.cons_append, compileAll]
      by_cases hof : r.isOf a.language = true
      · rw [if_pos hof] at h ⊢
        rcases hcreate : a.create r s with ⟨e | compiled, after⟩
        · rw [hcreate] at h
          exact h
        · rw [hcreate] at h
          rcases hothers : a.compileAll after others with ⟨e | more, last'⟩
          · simp only [hothers] at h
            cases h
            simp only [ih hothers]
          · simp only [hothers] at h
            cases h
      · rw [if_neg hof] at h ⊢
        exact ih h

end Assembler

namespace Capturer

section

variable {c : Capturer} {s : AssemblyState} {error : AssemblyError}

/-- A capture fails as compiling does. -/
theorem capture_eq_error_iff_compileAll {recording : Recording} :
    (c.capture recording s).1 = .error error
      ↔ (c.assembler.compileAll (Assembler.fresh s) recording).1 = .error error := by
  have hcapture := c.capture_eq_compileAll recording s
  rcases hall : c.assembler.compileAll (Assembler.fresh s) recording with ⟨e | compiled, last⟩
  · rw [hall] at hcapture
    rw [hcapture]
    simp
  · rw [hall] at hcapture
    obtain ⟨assembled, hassembled, -⟩ := hcapture
    rw [hassembled]
    simp

/-- A record alone fails as making its project does. -/
theorem capture_singleton_eq_error_iff {r : Record} (hof : r.isOf c.language = true)
    (s : AssemblyState) (error : AssemblyError) :
    (c.capture [.ok r] s).1 = .error error
      ↔ (c.assembler.create r (Assembler.fresh s)).1 = .error error := by
  have hof' : r.isOf c.assembler.language = true := hof
  rw [capture_eq_error_iff_compileAll, Assembler.compileAll, if_pos hof']
  rcases c.assembler.create r (Assembler.fresh s) with ⟨e | compiled, after⟩
  · simp
  · simp [Assembler.compileAll]

/-- A capture that fails leaves what comes after the failure aside. -/
theorem capture_append_of_error {recording : Recording}
    (h : (c.capture recording s).1 = .error error) (rest : Recording) :
    c.capture (recording ++ rest) s = c.capture recording s := by
  have hcapture := c.capture_eq_compileAll recording s
  have hmore := c.capture_eq_compileAll (recording ++ rest) s
  rw [capture_eq_error_iff_compileAll] at h
  rcases hall : c.assembler.compileAll (Assembler.fresh s) recording with ⟨result, last⟩
  rw [hall] at h hcapture
  obtain rfl : result = .error error := h
  rw [Assembler.compileAll_append_of_error _ hall rest] at hmore
  rw [hcapture, hmore]

end

variable (c : Capturer)

/-- Why an entry of a recording fails on its own, if it does. -/
def fault? (alone : AssemblyState) : Except DumpError Record → Option AssemblyError
  | .error error => some (.dump error)
  | .ok r =>
    if r.isOf c.language then
      match (c.capture [.ok r] alone).1 with
      | .error error => some error
      | .ok _ => none
    else none

variable {c} (hcwd : Path.isAbsolute c.setup.disk.cwd = true) (alone : AssemblyState)

include hcwd

/-- **A record fails in a recording as it does alone.** -/
theorem fault?_of_create {r : Record} (hof : r.isOf c.language = true) {s : AssemblyState}
    (hs : s.cache.Faithful c.load) :
    c.fault? alone (.ok r) = match (c.assembler.create r s).1 with
      | .error error => some error
      | .ok _ => none := by
  have hsame := Assembler.create_sameOutcome (a := c.assembler) hcwd r s (Assembler.fresh alone) hs
    (ReferenceCache.faithful_start _ _)
  have halone := capture_singleton_eq_error_iff hof alone
  rw [fault?, if_pos hof]
  generalize (c.assembler.create r s).1 = result at hsame
  generalize (c.assembler.create r (Assembler.fresh alone)).1 = result' at hsame halone
  cases hsame with
  | failed error => rw [(halone error).2 rfl]
  | made arguments halike =>
    cases hcapture : (c.capture [.ok r] alone).1 with
    | error error => cases (halone error).1 hcapture
    | ok made => rfl

/-- A recording is compiled exactly if none of its entries fails, and else fails as the first. -/
theorem findSome?_fault?_eq {s : AssemblyState} (hs : s.cache.Faithful c.load)
    (recording : Recording) :
    recording.findSome? (c.fault? alone) = match (c.assembler.compileAll s recording).1 with
      | .error error => some error
      | .ok _ => none := by
  induction recording generalizing s with
  | nil => rfl
  | cons entry rest ih =>
    cases entry with
    | error error => rfl
    | ok r =>
      rw [List.findSome?_cons, Assembler.compileAll]
      by_cases hof : r.isOf c.assembler.language = true
      · rw [if_pos hof, fault?_of_create hcwd alone hof hs]
        have hfaithful := Assembler.create_faithful (a := c.assembler) hcwd r s hs
        rcases hcreate : c.assembler.create r s with ⟨error | compiled, after⟩
        · rfl
        · rw [hcreate] at hfaithful
          -- the record leaves a faithful cache, from which the rest fails as from any other
          simp only [ih hfaithful]
          rcases c.assembler.compileAll after rest with ⟨error | others, last⟩ <;> rfl
      · have hnone : c.fault? alone (.ok r) = none := if_neg hof
        rw [if_neg hof, hnone]
        exact ih hs

/-- **A capture fails with the error of the first entry that fails on its own**, if there is one. -/
theorem capture_eq_error_iff (recording : Recording) (s : AssemblyState) (error : AssemblyError) :
    (c.capture recording s).1 = .error error
      ↔ recording.findSome? (c.fault? alone) = some error := by
  rw [capture_eq_error_iff_compileAll, findSome?_fault?_eq hcwd alone
    (ReferenceCache.faithful_start _ _) recording (s := Assembler.fresh s)]
  cases (c.assembler.compileAll (Assembler.fresh s) recording).1 with
  | error e => simp
  | ok compiled => simp

/-- **A record alone fails in the first stage that does.** -/
theorem capture_record_error_iff {i : Invocation} (hof : i.language = c.language)
    (error : AssemblyError) :
    (c.capture [.ok i.record] alone).1 = .error error ↔ i.FailsWith c.assembler error := by
  have hof' : i.record.isOf c.language = true := by
    simp [Record.isOf, Invocation.record, hof, Json.text?]
  rw [capture_singleton_eq_error_iff hof']
  exact Assembler.create_record_error_iff (a := c.assembler) hcwd i
    (ReferenceCache.faithful_start _ _) error

end Capturer

/-! ## Bad lines -/

namespace Capturer

/-- What is wrong with a numbered line of a dump, if it is bad: it is no JSON, or beyond what its
    reader takes; it is no object; it lacks a member; or it is a record of the language that cannot
    be captured alone. A blank line is not bad. -/
inductive BadLine (c : Capturer) (levels : Nat) (path : Text) (alone : AssemblyState) :
    Text × Nat → AssemblyError → Prop
  | notJson {line : Text} {number : Nat} {fault : JsonFault} (hline : line.trim ≠ [])
    (h : Json.read levels line.trim = .error fault) (hfault : ∀ limit, fault ≠ .beyond limit) :
    BadLine c levels path alone (line, number) (.dump (.invalidJson path number fault))
  | beyond {line : Text} {number : Nat} {limit : JsonLimit}
    (h : Json.read levels line.trim = .error (.beyond limit)) :
    BadLine c levels path alone (line, number) (.dump (.beyond limit))
  | notAnObject {line : Text} {number : Nat} {value : Json}
    (h : Json.read levels line.trim = .ok value) (hvalue : ∀ members, value ≠ .object members) :
    BadLine c levels path alone (line, number) (.dump (.notAnObject path number))
  | lacksMember {line : Text} {number : Nat} {members : List (Text × Json)} {name : Text}
    (h : Json.read levels line.trim = .ok (.object members))
    (hname : Record.lacking? members = some name) :
    BadLine c levels path alone (line, number) (.dump (.record (.missingField name)))
  | failsAlone {line : Text} {number : Nat} {members : List (Text × Json)} {r : Record}
    {error : AssemblyError} (h : Json.read levels line.trim = .ok (.object members))
    (hrecord : Record.ofJson (.object members) = .ok r) (hof : r.isOf c.language = true)
    (herror : (c.capture [.ok r] alone).1 = .error error) :
    BadLine c levels path alone (line, number) error

variable {c : Capturer} {levels : Nat} {path : Text} {alone : AssemblyState}

theorem read_nil : Json.read levels [] = .error .value := rfl

/-- What can be read as JSON stands on a line that is not blank. -/
theorem trim_ne_nil_of_read {line : Text} {value : Json}
    (h : Json.read levels line.trim = .ok value) : line.trim ≠ [] := by
  intro hnil
  rw [hnil, read_nil] at h
  cases h

theorem readLine?_eq_some {line : Text} (h : line.trim ≠ []) (number : Nat) :
    Dump.readLine? levels path (line, number) = some (Dump.entry levels path number line.trim) :=
  if_neg (fun hempty => h (List.isEmpty_iff.1 hempty))

theorem entry_of_fault {text : Text} {fault : JsonFault} (h : Json.read levels text = .error fault)
    (hfault : ∀ limit, fault ≠ .beyond limit) (number : Nat) :
    Dump.entry levels path number text = .error (.invalidJson path number fault) := by
  rw [Dump.entry, h]
  cases fault with
  | beyond limit => exact absurd rfl (hfault limit)
  | _ => rfl

theorem entry_of_no_object {text : Text} {value : Json} (h : Json.read levels text = .ok value)
    (hvalue : ∀ members, value ≠ .object members) (number : Nat) :
    Dump.entry levels path number text = .error (.notAnObject path number) := by
  rw [Dump.entry, h]
  cases value with
  | object members => exact absurd rfl (hvalue members)
  | _ => rfl

theorem entry_of_object {text : Text} {members : List (Text × Json)}
    (h : Json.read levels text = .ok (.object members)) (number : Nat) :
    Dump.entry levels path number text = (Record.ofJson (.object members)).mapError .record := by
  rw [Dump.entry, h]

theorem fault?_eq_some_iff (r : Record) (error : AssemblyError) :
    c.fault? alone (.ok r) = some error
      ↔ r.isOf c.language = true ∧ (c.capture [.ok r] alone).1 = .error error := by
  rw [fault?]
  by_cases hof : r.isOf c.language = true
  · rw [if_pos hof]
    cases (c.capture [.ok r] alone).1 with
    | error e => simp [hof]
    | ok made => simp
  · simp [hof]

/-- **A line is bad exactly if its entry fails on its own.** -/
theorem badLine_iff (line : Text × Nat) (error : AssemblyError) :
    c.BadLine levels path alone line error
      ↔ (Dump.readLine? levels path line).bind (c.fault? alone) = some error := by
  constructor
  · intro h
    cases h with
    | notJson hline h hfault =>
      rw [readLine?_eq_some hline, Option.bind_some, entry_of_fault h hfault, fault?]
    | @beyond line number limit h =>
      have hline : line.trim ≠ [] := by
        intro hnil
        rw [hnil, read_nil] at h
        cases h
      rw [readLine?_eq_some hline, Option.bind_some, Dump.entry, h, fault?]
    | notAnObject h hvalue =>
      rw [readLine?_eq_some (trim_ne_nil_of_read h), Option.bind_some,
        entry_of_no_object h hvalue, fault?]
    | lacksMember h hname =>
      have hrecord := (Record.ofJson_object_eq_error_iff _ _).2 ⟨_, hname, rfl⟩
      rw [readLine?_eq_some (trim_ne_nil_of_read h), Option.bind_some, entry_of_object h,
        hrecord, Except.mapError, fault?]
    | failsAlone h hrecord hof herror =>
      rw [readLine?_eq_some (trim_ne_nil_of_read h), Option.bind_some, entry_of_object h,
        hrecord, Except.mapError]
      exact (fault?_eq_some_iff _ _).2 ⟨hof, herror⟩
  · intro h
    obtain ⟨line, number⟩ := line
    obtain ⟨entry, hentry, hfault⟩ := Option.bind_eq_some_iff.1 h
    have hline : line.trim ≠ [] := by
      intro hnil
      rw [Dump.readLine?, hnil] at hentry
      cases hentry
    rw [readLine?_eq_some hline, Option.some.injEq] at hentry
    subst hentry
    cases hread : Json.read levels line.trim with
    | error fault =>
      by_cases hlimit : ∃ limit, fault = .beyond limit
      · obtain ⟨limit, rfl⟩ := hlimit
        rw [Dump.entry, hread, fault?] at hfault
        cases hfault
        exact .beyond hread
      · rw [not_exists] at hlimit
        rw [entry_of_fault hread hlimit, fault?] at hfault
        cases hfault
        exact .notJson hline hread hlimit
    | ok value =>
      by_cases hobject : ∃ members, value = .object members
      · obtain ⟨members, rfl⟩ := hobject
        rw [entry_of_object hread] at hfault
        cases hrecord : Record.ofJson (.object members) with
        | error missing =>
          obtain ⟨name, hname, rfl⟩ := (Record.ofJson_object_eq_error_iff _ _).1 hrecord
          rw [hrecord, Except.mapError, fault?] at hfault
          cases hfault
          exact .lacksMember hread hname
        | ok r =>
          rw [hrecord, Except.mapError] at hfault
          obtain ⟨hof, herror⟩ := (fault?_eq_some_iff _ _).1 hfault
          exact .failsAlone hread hrecord hof herror
      · rw [not_exists] at hobject
        rw [entry_of_no_object hread hobject, fault?] at hfault
        cases hfault
        exact .notAnObject hread hobject

/-! ## The first one -/

section

variable (hcwd : Path.isAbsolute c.setup.disk.cwd = true) (alone : AssemblyState)

include hcwd

/-- **Lines are captured with the error of the first bad one**, if there is one. -/
theorem capture_lines_eq_error_iff (lines : List (Text × Nat)) (s : AssemblyState)
    (error : AssemblyError) :
    (c.capture (lines.filterMap (Dump.readLine? levels path)) s).1 = .error error
      ↔ ∃ before line after, lines = before ++ line :: after
        ∧ c.BadLine levels path alone line error
        ∧ ∀ l ∈ before, ∀ e, ¬ c.BadLine levels path alone l e := by
  have hnone : ∀ l, (Dump.readLine? levels path l).bind (c.fault? alone) = none
      ↔ ∀ e, ¬ c.BadLine levels path alone l e := by
    intro l
    rw [Option.eq_none_iff_forall_ne_some]
    exact forall_congr' (fun e => not_congr (badLine_iff l e).symm)
  rw [capture_eq_error_iff hcwd alone, findSome?_filterMap, List.findSome?_eq_some_iff]
  simp only [← badLine_iff, hnone]

/-- Lines are captured exactly if none of them is bad. -/
theorem capture_lines_fails_iff (lines : List (Text × Nat)) (s : AssemblyState) :
    (∃ error, (c.capture (lines.filterMap (Dump.readLine? levels path)) s).1 = .error error)
      ↔ ∃ line ∈ lines, ∃ error, c.BadLine levels path alone line error := by
  have hfault := fun error => capture_eq_error_iff hcwd alone
    (lines.filterMap (Dump.readLine? levels path)) s error
  simp only [hfault, findSome?_filterMap, badLine_iff]
  rw [← Option.isSome_iff_exists, List.findSome?_isSome_iff]
  simp only [Option.isSome_iff_exists]

/-- **The first bad line of a dump decides.** Its capture fails exactly if a line is bad; then it
    fails with the error of the first one, which tells the number of the line if the line is no
    JSON; and it is the same, with all that it leaves behind, whatever follows that line. A record
    of texts is bad in the first of its stages that fails. -/
theorem capture_first_bad_line (levels : Nat) {bytes : Bytes} {text : Text}
    (hfile : c.setup.disk.read path = .ok bytes) (htext : Utf8.decode bytes = .ok text)
    (s : AssemblyState) :
    let recording := c.setup.disk.readDump levels path
    let lines := text.fileLines.zipIdx 1
    let bad := c.BadLine levels path alone
    ((∃ error, (c.capture recording s).1 = .error error) ↔ ∃ line ∈ lines, ∃ error, bad line error)
      ∧ (∀ before line after error, lines = before ++ line :: after →
          (∀ l ∈ before, ∀ e, ¬ bad l e) → bad line error →
          (c.capture recording s).1 = .error error
            ∧ ∀ others, c.capture recording s
              = c.capture ((before ++ line :: others).filterMap (Dump.readLine? levels path)) s)
      ∧ (∀ number fault, (AssemblyError.dump (.invalidJson path number fault)).message
          = path ++ ":" ++ Text.ofNat number ++ ": invalid JSON (" ++ fault.message ++ ")")
      ∧ ∀ (i : Invocation) error, i.language = c.language →
          ((c.capture [.ok i.record] alone).1 = .error error ↔ i.FailsWith c.assembler error) := by
  intro recording lines bad
  have hrecording : recording = lines.filterMap (Dump.readLine? levels path) := by
    simp only [recording, Disk.readDump, hfile]
    exact Dump.ofContent_eq_lines levels path htext
  refine ⟨?_, ?_, fun number fault => rfl,
    fun i error hof => capture_record_error_iff hcwd alone hof error⟩
  · rw [hrecording]
    exact capture_lines_fails_iff hcwd alone lines s
  · intro before line after error hlines hbefore hline
    have hcut : (c.capture ((before ++ [line]).filterMap (Dump.readLine? levels path)) s).1
        = .error error :=
      (capture_lines_eq_error_iff hcwd alone _ s error).2 ⟨before, line, [], rfl, hline, hbefore⟩
    -- whatever stands after the bad line, the capture is that of the lines up to it
    have hsame : ∀ others,
        c.capture ((before ++ line :: others).filterMap (Dump.readLine? levels path)) s
          = c.capture ((before ++ [line]).filterMap (Dump.readLine? levels path)) s := by
      intro others
      have happend := capture_append_of_error hcut (others.filterMap (Dump.readLine? levels path))
      rwa [← List.filterMap_append, List.append_assoc, List.singleton_append] at happend
    rw [hrecording, hlines]
    exact ⟨by rw [hsame, hcut], fun others => (hsame after).trans (hsame others).symm⟩

end

/-- A dump whose third line is no JSON, after a blank line and a record that can be captured and
    before one that cannot. -/
def brokenText : Text :=
  "\n" ++ Invocation.line ⟨csharp, "/src/A.csproj", "/src", "csc /r:/lib/C.dll A.cs"⟩ ++ "\n\x7b\n"
    ++ Invocation.line ⟨csharp, "/src/A.csproj", "/src", "csc \"A.cs"⟩

/-- A capturer with that dump beside a library and two sources. -/
def broken : Capturer :=
  { sharing with setup := { sharing.setup with disk :=
      ⟨sharingDisk.tree.add ["log".toText] (.file (Utf8.encode brokenText) false), "/src"⟩ } }

/-- The third line of the dump is told by its number, and nothing after it matters. -/
theorem capture_first_bad_line_third :
    Path.isAbsolute broken.setup.disk.cwd = true
      ∧ broken.setup.disk.read "/log" = .ok (Utf8.encode brokenText)
      ∧ Utf8.decode (Utf8.encode brokenText) = .ok brokenText
      ∧ (broken.capture (broken.setup.disk.readDump 100 "/log") .initial).1
        = .error (.dump (.invalidJson "/log" 3 .propertyName)) := by
  have hcwd : Path.isAbsolute broken.setup.disk.cwd = true := by decide
  have hfile : broken.setup.disk.read "/log" = .ok (Utf8.encode brokenText) := rfl
  have hchars : brokenText.AllChars := by decide +kernel
  have htext := Utf8.decode_encode hchars
  obtain ⟨-, hfirst, -, -⟩ := capture_first_bad_line (c := broken) hcwd .initial 100
    hfile htext .initial
  have hlines : brokenText.fileLines.zipIdx 1 = (brokenText.fileLines.zipIdx 1).take 2
      ++ ([char '\x7b'], 3) :: (brokenText.fileLines.zipIdx 1).drop 3 := by
    decide +kernel
  have hbefore : ∀ l ∈ (brokenText.fileLines.zipIdx 1).take 2,
      (Dump.readLine? 100 "/log" l).bind (broken.fault? .initial) = none := by
    decide +kernel
  have hline : broken.BadLine 100 "/log" .initial ([char '\x7b'], 3)
      (.dump (.invalidJson "/log" 3 .propertyName)) :=
    .notJson (by decide) rfl (by rintro limit ⟨⟩)
  have hfails := hfirst _ _ _ _ hlines
    (fun l hl e hbad => by
      rw [badLine_iff, hbefore l hl] at hbad
      cases hbad) hline
  exact ⟨hcwd, hfile, htext, hfails.1⟩

end Capturer

end CompileTrace
