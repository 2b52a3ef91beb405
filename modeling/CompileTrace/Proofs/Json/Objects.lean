import CompileTrace.Proofs.Json.Strings

set_option autoImplicit false

/-! # Objects of texts that are written and read

An object whose members are texts is written on one line of printable ASCII
(`isPlainAscii_of_mem_toLine`), from its opening brace to the closing one, and the line is read as
the object that its members make (`read_toLine`). -/

namespace CompileTrace.Json

/-- An object of texts. -/
def ofTextMembers (members : List (Text × Text)) : Json :=
  object (members.map (fun m => (m.1, text m.2)))

/-! ## The line -/

/-- A member as it is written. -/
def writeMember (m : Text × Text) : Text :=
  writeString m.1 ++ char ':' :: char ' ' :: writeString m.2

/-- What stands in the line after the first member. -/
def writeLaterMembers (members : List (Text × Text)) : Text :=
  members.flatMap (fun m => char ',' :: char ' ' :: writeMember m)

theorem writeMembers_texts (depth : Nat) (members : List (Text × Text)) :
    writeMembers .line depth (members.map (fun m => (m.1, text m.2)))
      = writeLaterMembers members := by
  induction members with
  | nil => rfl
  | cons m rest ih =>
    rw [List.map_cons, writeMembers, ih, writeLaterMembers, writeLaterMembers, List.flatMap_cons,
      writeMember, write]
    simp [Layout.separator]

/-- The line of an object of texts. -/
theorem toLine_ofTextMembers (m : Text × Text) (rest : List (Text × Text)) :
    (ofTextMembers (m :: rest)).toLine
      = char '\x7b' :: (writeMember m ++ (writeLaterMembers rest ++ [char '\x7d'])) := by
  rw [ofTextMembers, List.map_cons, toLine, write, writeMembers_texts, writeMember, write]
  simp [Layout.lineBreak]

theorem isPlainAscii_of_mem_writeMember {m : Text × Text} {c : CodePoint} (h : c ∈ writeMember m) :
    isPlainAscii c = true := by
  rw [writeMember, List.mem_append, List.mem_cons, List.mem_cons] at h
  rcases h with h | rfl | rfl | h
  · exact isPlainAscii_of_mem_writeString h
  · rfl
  · rfl
  · exact isPlainAscii_of_mem_writeString h

theorem isPlainAscii_of_mem_writeLaterMembers {members : List (Text × Text)} {c : CodePoint}
    (h : c ∈ writeLaterMembers members) : isPlainAscii c = true := by
  obtain ⟨m, -, hc⟩ := List.mem_flatMap.1 h
  rw [List.mem_cons, List.mem_cons] at hc
  rcases hc with rfl | rfl | hc
  · rfl
  · rfl
  · exact isPlainAscii_of_mem_writeMember hc

/-- **An object of texts is written in printable ASCII.** -/
theorem isPlainAscii_of_mem_toLine {members : List (Text × Text)} {c : CodePoint}
    (h : c ∈ (ofTextMembers members).toLine) : isPlainAscii c = true := by
  cases members with
  | nil =>
    have hmem : c ∈ [char '\x7b', char '\x7d'] := by
      rw [ofTextMembers, List.map_nil, toLine, write] at h
      exact h
    rw [List.mem_cons, List.mem_singleton] at hmem
    rcases hmem with rfl | rfl
    · rfl
    · rfl
  | cons m rest =>
    rw [toLine_ofTextMembers, List.mem_cons, List.mem_append, List.mem_append,
      List.mem_singleton] at h
    rcases h with rfl | h | h | rfl
    · rfl
    · exact isPlainAscii_of_mem_writeMember h
    · exact isPlainAscii_of_mem_writeLaterMembers h
    · rfl

/-! ## Reading it -/

theorem skipSpace_cons {c : CodePoint} (hc : isSpace c = false) (s : Text) :
    skipSpace (c :: s) = c :: s := by
  rw [skipSpace, List.dropWhile_cons_of_neg (by simp [hc])]

theorem skipSpace_space (s : Text) : skipSpace (char ' ' :: s) = skipSpace s := rfl

/-- No word begins with a quote. -/
theorem readWord?_quote (s : Text) : readWord? (char '"' :: s) = none := rfl

/-- No word begins with a brace. -/
theorem readWord?_brace (s : Text) : readWord? (char '\x7b' :: s) = none := rfl

theorem writeString_append (s rest : Text) :
    writeString s ++ rest = char '"' :: (s.flatMap escapedChar ++ char '"' :: rest) := by
  simp [writeString]

/-- A string is read as a value. -/
theorem readValue_writeString (fuel levels : Nat) (s rest : Text) (hs : s.Unpaired) :
    readValue (fuel + 1) levels (writeString s ++ rest) = .ok (text s, rest) := by
  rw [writeString_append, readValue, readWord?_quote]
  simp only [readString_flatMap s rest hs]
  rfl

/-- Whether the name and the text of a member have no pairs of halves. -/
def UnpairedMember (m : Text × Text) : Prop := m.1.Unpaired ∧ m.2.Unpaired

/-- What is read after a member: the end of the object, or more members. -/
def readAfterMember (fuel levels : Nat) (found : Table Json) (s : Text) :
    Except JsonFault (Json × Text) :=
  match s with
  | char '\x7d' :: after => .ok (object found, after)
  | char ',' :: rest => readMembers fuel levels found (skipSpace rest)
  | _ => .error .comma

/-- A member is read, and then either the object ends or another member follows. -/
theorem readMembers_writeMember (fuel levels : Nat) (found : Table Json) (m : Text × Text)
    (hm : UnpairedMember m) (s : Text) :
    readMembers (fuel + 2) levels found (writeMember m ++ s)
      = readAfterMember (fuel + 1) levels (found.put m.1 (text m.2)) (skipSpace s) := by
  have hvalue : skipSpace (char ' ' :: (writeString m.2 ++ s)) = writeString m.2 ++ s := by
    rw [writeString_append, skipSpace_space, skipSpace_cons (by decide)]
  rw [writeMember, List.append_assoc, writeString_append, readMembers]
  simp only [readString_flatMap _ _ hm.1, List.cons_append]
  rw [skipSpace_cons (by decide)]
  simp only [hvalue, readValue_writeString _ _ _ _ hm.2]
  rfl

/-- Members are read one after the other into the table of those found. -/
theorem readMembers_write (fuel levels : Nat) (found : Table Json) (m : Text × Text)
    (rest : List (Text × Text)) (hm : UnpairedMember m) (hrest : ∀ n ∈ rest, UnpairedMember n)
    (hfuel : rest.length + 1 < fuel) (after : Text) :
    readMembers fuel levels found
        (writeMember m ++ (writeLaterMembers rest ++ char '\x7d' :: after))
      = .ok (object (found.putAll ((m :: rest).map (fun n => (n.1, text n.2)))), after) := by
  induction rest generalizing fuel found m with
  | nil =>
    obtain ⟨fuel, rfl⟩ : ∃ k, fuel = k + 2 := Nat.exists_eq_add_of_le' hfuel
    rw [writeLaterMembers, List.flatMap_nil, List.nil_append]
    refine (readMembers_writeMember fuel levels found m hm _).trans ?_
    rw [skipSpace_cons (by decide)]
    rfl
  | cons n others ih =>
    rw [List.length_cons] at hfuel
    obtain ⟨fuel, rfl⟩ : ∃ k, fuel = k + 2 := Nat.exists_eq_add_of_le' (by omega)
    have hnext : skipSpace
        (char ' ' :: (writeMember n ++ (writeLaterMembers others ++ char '\x7d' :: after)))
        = writeMember n ++ (writeLaterMembers others ++ char '\x7d' :: after) := by
      rw [writeMember, List.append_assoc, writeString_append, skipSpace_space,
        skipSpace_cons (by decide)]
    have hmore := ih (fuel + 1) (found.put m.1 (text m.2)) n (hrest n List.mem_cons_self)
      (fun k hk => hrest k (List.mem_cons_of_mem _ hk)) (by omega)
    rw [writeLaterMembers, List.flatMap_cons, ← writeLaterMembers, List.append_assoc,
      List.cons_append, List.cons_append]
    refine (readMembers_writeMember fuel levels found m hm _).trans ?_
    rw [skipSpace_cons (by decide), readAfterMember, hnext, hmore]
    rfl

theorem length_le_length_writeLaterMembers (members : List (Text × Text)) :
    members.length ≤ (writeLaterMembers members).length := by
  induction members with
  | nil => exact Nat.le_refl _
  | cons m rest ih =>
    rw [writeLaterMembers, List.flatMap_cons, ← writeLaterMembers]
    simp only [List.length_cons, List.length_append]
    omega

/-- **The line of an object of texts is read as the object that its members make.** -/
theorem read_toLine {levels : Nat} (hlevels : 0 < levels) (members : List (Text × Text))
    (hmembers : ∀ m ∈ members, UnpairedMember m) :
    read levels (ofTextMembers members).toLine
      = .ok (object (Table.ofList (members.map (fun m => (m.1, text m.2))))) := by
  obtain ⟨levels, rfl⟩ : ∃ k, levels = k + 1 := Nat.exists_eq_add_of_le' hlevels
  cases members with
  | nil => rfl
  | cons m rest =>
    have hlength := length_le_length_writeLaterMembers rest
    have hvalue : ∀ fuel, rest.length + 1 < fuel →
        readValue (fuel + 1) (levels + 1) (ofTextMembers (m :: rest)).toLine
          = .ok (object (Table.ofList ((m :: rest).map (fun m => (m.1, text m.2)))), []) := by
      intro fuel hfuel
      have hread := readMembers_write fuel levels [] m rest (hmembers m List.mem_cons_self)
        (fun n hn => hmembers n (List.mem_cons_of_mem _ hn)) hfuel []
      have hquote : writeMember m ++ (writeLaterMembers rest ++ [char '\x7d'])
          = char '"' :: (m.1.flatMap escapedChar
            ++ char '"' :: char ':' :: char ' ' ::
              (writeString m.2 ++ (writeLaterMembers rest ++ [char '\x7d']))) := by
        simp [writeMember, writeString]
      rw [hquote] at hread
      rw [toLine_ofTextMembers, hquote, readValue, readWord?_brace]
      simp only [skipSpace_cons (c := '"') (by decide)]
      exact hread
    have hread := hvalue (ofTextMembers (m :: rest)).toLine.length (by
      rw [toLine_ofTextMembers]
      simp only [List.length_cons, List.length_append]
      omega)
    have hstart : skipSpace (ofTextMembers (m :: rest)).toLine
        = (ofTextMembers (m :: rest)).toLine := by
      rw [toLine_ofTextMembers, skipSpace_cons (by decide)]
    have hmark : (ofTextMembers (m :: rest)).toLine.head? ≠ some (char '\uFEFF') := by
      rw [toLine_ofTextMembers]
      simp
    rw [read, if_neg hmark, hstart, hread]
    rfl

end CompileTrace.Json
