import CompileTrace.Proofs.Text.Utf8
import Mathlib.Data.List.Induction

set_option autoImplicit false

/-! # Reading only what was written in UTF-8

Bytes are read without a fault only if they are the bytes of a text, which is then the one that is
read (`decode_eq_ok_iff`). The bytes so far of a character that has begun write it in whatever way
they go on within the bounds (`Begun.Spells`). With that a reading accounts for every byte that it
has taken, as long as it has found no fault (`Scan.Accounts.next`, `accounts_foldl`). Texts begin
alike if their bytes do (`encode_prefix_iff`), so that a byte order mark is told from any text that
does not begin with its character (`dropMark_encode`). -/

namespace CompileTrace.Utf8

/-! ## The bytes of a text -/

theorem encode_append (s t : Text) : encode (s ++ t) = encode s ++ encode t :=
  List.flatMap_append

theorem encode_concat (s : List Char) (c : Char) :
    encode (Text.ofChars (s ++ [c])) = encode (Text.ofChars s) ++ encodeChar c := by
  rw [Text.ofChars_append, encode_append]
  exact congrArg _ (List.flatMap_singleton encodeChar (char c))

/-- The bytes of a character are those that the standard gives it. -/
theorem encodeChar_eq_utf8EncodeChar (c : Char) :
    encodeChar c = String.utf8EncodeChar c := by
  have hvalid := isValidChar_toNat c
  have hval : c.val.toNat = c.toNat := rfl
  have hbytes : encodeChar c = (encodeCode c.toNat).map UInt8.ofNat := rfl
  rw [hbytes]
  simp only [encodeCode, String.utf8EncodeChar, hval]
  generalize c.toNat = n at hvalid
  by_cases hone : n < 0x80
  · rw [if_pos hone, if_pos (Nat.le_of_lt_succ hone), List.map_singleton]
  rw [if_neg hone, if_neg (by omega : ¬ n ≤ 0x7F)]
  by_cases htwo : n < 0x800
  · have hfirst : n / 64 % 32 + 192 = 0xC0 + n / 0x40 := by omega
    rw [if_pos htwo, if_pos (Nat.le_of_lt_succ htwo), hfirst, Nat.add_comm (n % 64)]
    rfl
  rw [if_neg htwo, if_neg (by omega : ¬ n ≤ 0x7FF)]
  by_cases hthree : n < 0x10000
  · have hfirst : n / 4096 % 16 + 224 = 0xE0 + n / 0x1000 := by omega
    rw [if_pos hthree, if_pos (Nat.le_of_lt_succ hthree), hfirst, Nat.add_comm (n / 64 % 64),
      Nat.add_comm (n % 64)]
    rfl
  have hfirst : n / 262144 % 8 + 240 = 0xF0 + n / 0x40000 := by omega
  rw [if_neg hthree, if_neg (by omega : ¬ n ≤ 0xFFFF), hfirst, Nat.add_comm (n / 4096 % 64),
    Nat.add_comm (n / 64 % 64), Nat.add_comm (n % 64)]
  rfl

theorem toByteArray_encode (s : List Char) :
    (encode (Text.ofChars s)).toByteArray = s.utf8Encode := by
  rw [encode, Text.ofChars, List.flatMap_map, List.utf8Encode,
    funext encodeChar_eq_utf8EncodeChar]

/-- What is valid UTF-8 is the bytes of a text. -/
theorem isValidUTF8_iff {bytes : Bytes} :
    bytes.toByteArray.IsValidUTF8 ↔ ∃ s, bytes = encode (Text.ofChars s) := by
  constructor
  · rintro ⟨s, hs⟩
    rw [← toByteArray_encode, List.toByteArray_inj] at hs
    exact ⟨s, hs⟩
  · rintro ⟨s, rfl⟩
    exact ⟨s, toByteArray_encode s⟩

/-! ## A character that has begun -/

/-- Whether so many further bytes, the first of them within bounds, write a character whose code
    point is told by the bytes so far, in whatever way they go on. -/
def Writes : Nat → Nat → Nat → Nat → Bytes → Prop
  | 0, code, _, _, written => ∃ c : Char, c.toNat = code ∧ written = encodeChar c
  | missing + 1, code, least, greatest, written =>
    ∀ b : UInt8, least ≤ b.toNat → b.toNat ≤ greatest →
      Writes missing (code * 0x40 + (b.toNat - 0x80)) 0x80 0xBF (written ++ [b])

/-- The bytes so far of a character that has begun: some are still to come, and with them it is
    written in whatever way it goes on. -/
def Begun.Spells (begun : Begun) (written : Bytes) : Prop :=
  0 < begun.missing
    ∧ Writes begun.missing begun.code begun.least begun.greatest written

/-- The bytes of a valid code point write its character. -/
theorem exists_char {code : Nat} {written : Bytes} (hcode : code.isValidChar)
    (h : encodeCode code = written.map UInt8.toNat) :
    ∃ c : Char, c.toNat = code ∧ written = encodeChar c := by
  refine ⟨Char.ofNatAux code hcode, rfl, ?_⟩
  show written = (encodeCode code).map UInt8.ofNat
  rw [h, List.map_map]
  exact (List.map_id'' (fun b => UInt8.ofNat_toNat) written).symm

/-- A byte that is a character of its own writes it. -/
theorem writes_one {b : UInt8} (hb : b.toNat < 0x80) : [b] = encodeChar (Char.ofNat b.toNat) := by
  have hcode : encodeCode b.toNat = [b].map UInt8.toNat := by
    rw [encodeCode, if_pos hb]
    rfl
  obtain ⟨c, hc, hbytes⟩ := exists_char (Or.inl (by omega)) hcode
  rw [← hc, Char.ofNat_toNat, hbytes]

theorem spells_two {b : UInt8} (hlow : 0xC2 ≤ b.toNat) (hhigh : b.toNat < 0xE0) :
    Begun.Spells ⟨b, 1, b.toNat - 0xC0, 1, 0x80, 0xBF⟩ [b] := by
  refine ⟨Nat.one_pos, ?_⟩
  intro second (hleast : 0x80 ≤ second.toNat) (hgreatest : second.toNat ≤ 0xBF)
  show ∃ c : Char, c.toNat = (b.toNat - 0xC0) * 0x40 + (second.toNat - 0x80)
    ∧ [b, second] = encodeChar c
  refine exists_char (Or.inl (by omega)) ?_
  rw [encodeCode, if_neg (by omega), if_pos (by omega)]
  simp only [List.map_cons, List.map_nil, List.cons.injEq, and_true]
  omega

theorem spells_three {b : UInt8} (hlow : 0xE0 ≤ b.toNat) (hhigh : b.toNat < 0xF0) :
    Begun.Spells ⟨b, 1, b.toNat - 0xE0, 2, if b.toNat = 0xE0 then 0xA0 else 0x80,
      if b.toNat = 0xED then 0x9F else 0xBF⟩ [b] := by
  refine ⟨Nat.two_pos, ?_⟩
  intro second (hleast : (if b.toNat = 0xE0 then 0xA0 else 0x80) ≤ second.toNat)
    (hgreatest : second.toNat ≤ if b.toNat = 0xED then 0x9F else 0xBF)
    third (hthird : 0x80 ≤ third.toNat) (hthird' : third.toNat ≤ 0xBF)
  -- what the bounds of the second byte keep out
  have hlonger : 0x80 ≤ second.toNat ∧ (b.toNat = 0xE0 → 0xA0 ≤ second.toNat) := by
    split at hleast <;> omega
  have hhalf : second.toNat ≤ 0xBF ∧ (b.toNat = 0xED → second.toNat ≤ 0x9F) := by
    split at hgreatest <;> omega
  clear hleast hgreatest
  show ∃ c : Char, c.toNat = ((b.toNat - 0xE0) * 0x40 + (second.toNat - 0x80)) * 0x40
      + (third.toNat - 0x80) ∧ [b, second, third] = encodeChar c
  refine exists_char ?_ ?_
  · unfold Nat.isValidChar
    omega
  · rw [encodeCode, if_neg (by omega), if_neg (by omega), if_pos (by omega)]
    simp only [List.map_cons, List.map_nil, List.cons.injEq, and_true]
    omega

theorem spells_four {b : UInt8} (hlow : 0xF0 ≤ b.toNat) (hhigh : b.toNat < 0xF5) :
    Begun.Spells ⟨b, 1, b.toNat - 0xF0, 3, if b.toNat = 0xF0 then 0x90 else 0x80,
      if b.toNat = 0xF4 then 0x8F else 0xBF⟩ [b] := by
  refine ⟨Nat.succ_pos 2, ?_⟩
  intro second (hleast : (if b.toNat = 0xF0 then 0x90 else 0x80) ≤ second.toNat)
    (hgreatest : second.toNat ≤ if b.toNat = 0xF4 then 0x8F else 0xBF)
    third (hthird : 0x80 ≤ third.toNat) (hthird' : third.toNat ≤ 0xBF)
    fourth (hfourth : 0x80 ≤ fourth.toNat) (hfourth' : fourth.toNat ≤ 0xBF)
  have hlonger : 0x80 ≤ second.toNat ∧ (b.toNat = 0xF0 → 0x90 ≤ second.toNat) := by
    split at hleast <;> omega
  have habove : second.toNat ≤ 0xBF ∧ (b.toNat = 0xF4 → second.toNat ≤ 0x8F) := by
    split at hgreatest <;> omega
  clear hleast hgreatest
  show ∃ c : Char, c.toNat = (((b.toNat - 0xF0) * 0x40 + (second.toNat - 0x80)) * 0x40
      + (third.toNat - 0x80)) * 0x40 + (fourth.toNat - 0x80)
      ∧ [b, second, third, fourth] = encodeChar c
  refine exists_char ?_ ?_
  · unfold Nat.isValidChar
    omega
  · rw [encodeCode, if_neg (by omega), if_neg (by omega), if_neg (by omega)]
    simp only [List.map_cons, List.map_nil, List.cons.injEq, and_true]
    omega

/-- The last byte completes the character. -/
theorem Begun.Spells.last {begun : Begun} {written : Bytes} (h : begun.Spells written)
    (hlast : begun.missing = 1) {b : UInt8} (hleast : begun.least ≤ b.toNat)
    (hgreatest : b.toNat ≤ begun.greatest) :
    written ++ [b] = encodeChar (Char.ofNat (begun.code * 0x40 + (b.toNat - 0x80))) := by
  obtain ⟨-, hwrites⟩ := h
  rw [hlast] at hwrites
  obtain ⟨c, hc, hbytes⟩ := hwrites b hleast hgreatest
  rw [← hc, Char.ofNat_toNat, hbytes]

/-- Any byte before the last one is one of those so far. -/
theorem Begun.Spells.more {begun : Begun} {written : Bytes} (h : begun.Spells written)
    (hmore : begun.missing ≠ 1) {b : UInt8} (hleast : begun.least ≤ b.toNat)
    (hgreatest : b.toNat ≤ begun.greatest) :
    Begun.Spells ⟨begun.first, begun.width + 1, begun.code * 0x40 + (b.toNat - 0x80),
      begun.missing - 1, 0x80, 0xBF⟩ (written ++ [b]) := by
  obtain ⟨hmissing, hwrites⟩ := h
  obtain ⟨missing, hcount⟩ : ∃ missing, begun.missing = missing + 2 :=
    ⟨begun.missing - 2, by omega⟩
  rw [hcount] at hwrites
  simp only [Begun.Spells, hcount]
  exact ⟨Nat.succ_pos missing, hwrites b hleast hgreatest⟩

/-- What a byte begins: the whole of what it writes, or bytes so far. -/
theorem beginning_cases (b : UInt8) :
    (∃ c, beginning b = .whole c ∧ [b] = encodeChar c)
      ∨ (∃ begun, beginning b = .begun begun ∧ begun.Spells [b])
      ∨ beginning b = .none := by
  unfold beginning
  simp only
  split
  · next hone => exact Or.inl ⟨_, rfl, writes_one hone⟩
  · split
    · exact Or.inr (Or.inr rfl)
    · split
      · next hlow hhigh => exact Or.inr (Or.inl ⟨_, rfl, spells_two (by omega) hhigh⟩)
      · split
        · next hlow hhigh => exact Or.inr (Or.inl ⟨_, rfl, spells_three (by omega) hhigh⟩)
        · split
          · next hlow hhigh => exact Or.inr (Or.inl ⟨_, rfl, spells_four (by omega) hhigh⟩)
          · exact Or.inr (Or.inr rfl)

/-! ## What a reading has found -/

/-- A reading begins a character by adding at most one item. -/
theorem suffix_found_begin (scan : Scan) (b : UInt8) : scan.found <:+ (scan.begin b).found := by
  unfold Scan.begin
  split
  · exact List.suffix_cons _ _
  · exact List.suffix_rfl
  · exact List.suffix_cons _ _

/-- What a reading has found it keeps. -/
theorem suffix_found_next (scan : Scan) (b : UInt8) : scan.found <:+ (scan.next b).found := by
  unfold Scan.next
  split
  · exact suffix_found_begin scan b
  · split
    · simp only
      split
      · exact List.suffix_cons _ _
      · exact List.suffix_rfl
    · exact (List.suffix_cons _ scan.found).trans (suffix_found_begin ⟨_, _, _⟩ b)

theorem suffix_found_foldl (bytes : Bytes) (scan : Scan) :
    scan.found <:+ (bytes.foldl Scan.next scan).found := by
  induction bytes generalizing scan with
  | nil => exact List.suffix_rfl
  | cons b rest ih => exact (suffix_found_next scan b).trans (ih _)

/-- The items of a reading so far, in order, are the characters of a text. -/
def Scan.Found (scan : Scan) (s : List Char) : Prop := scan.found.reverse = s.map Item.char

theorem Scan.Found.no_fault {scan : Scan} {s : List Char} (h : scan.Found s) (fault : Fault) :
    .fault fault ∉ scan.found := by
  intro hmem
  rw [← List.mem_reverse, h] at hmem
  simp at hmem

/-- The bytes that no item has been found for yet: none, or those of the character that has
    begun. -/
def Scan.Pending (scan : Scan) (pending : Bytes) : Prop :=
  match scan.begun? with
  | none => pending = []
  | some begun => begun.Spells pending

theorem Scan.Pending.eq_nil {scan : Scan} {pending : Bytes} (h : scan.Pending pending)
    (hnone : scan.begun? = none) : pending = [] := by
  rwa [Scan.Pending, hnone] at h

theorem Scan.Pending.spells {scan : Scan} {pending : Bytes} {begun : Begun}
    (h : scan.Pending pending) (hbegun : scan.begun? = some begun) : begun.Spells pending := by
  rwa [Scan.Pending, hbegun] at h

/-- Whether a reading that has found no fault in some bytes tells them: the characters found write
    them, up to those of a character that has begun. -/
def Scan.Accounts (scan : Scan) (bytes : Bytes) : Prop :=
  ∀ s, scan.Found s → ∃ pending, scan.Pending pending ∧ bytes = encode (Text.ofChars s) ++ pending

/-- A character more. -/
theorem exists_of_found_cons {position : Nat} {begun? : Option Begun} {c : Char}
    {found : List Item} {s : List Char} (h : Scan.Found ⟨position, begun?, .char c :: found⟩ s) :
    ∃ before, s = before ++ [c] ∧ found.reverse = before.map Item.char := by
  rw [Scan.Found, List.reverse_cons] at h
  obtain ⟨before, last, rfl, hbefore, hlast⟩ := List.map_eq_append_iff.1 h.symm
  obtain ⟨d, rfl, hd⟩ := List.map_eq_singleton_iff.1 hlast
  cases hd
  exact ⟨before, rfl, hbefore.symm⟩

/-- Beginning a character keeps the account, if none has begun. -/
theorem Scan.Accounts.begin {scan : Scan} {bytes : Bytes} (hnone : scan.begun? = none)
    (h : scan.Accounts bytes) (b : UInt8) : (scan.begin b).Accounts (bytes ++ [b]) := by
  intro s hs
  unfold Scan.begin at hs ⊢
  rcases beginning_cases b with ⟨c, hb, hc⟩ | ⟨begun, hb, hspells⟩ | hb
  · simp only [hb] at hs ⊢
    obtain ⟨before, rfl, hbefore⟩ := exists_of_found_cons hs
    obtain ⟨pending, hpending, rfl⟩ := h before hbefore
    refine ⟨[], rfl, ?_⟩
    rw [hpending.eq_nil hnone, encode_concat, ← hc]
    simp
  · simp only [hb] at hs ⊢
    obtain ⟨pending, hpending, rfl⟩ := h s hs
    refine ⟨[b], hspells, ?_⟩
    rw [hpending.eq_nil hnone]
    simp
  · simp only [hb] at hs
    exact absurd List.mem_cons_self (hs.no_fault _)

/-- **Every byte keeps the account.** -/
theorem Scan.Accounts.next {scan : Scan} {bytes : Bytes} (h : scan.Accounts bytes) (b : UInt8) :
    (scan.next b).Accounts (bytes ++ [b]) := by
  cases hbegun : scan.begun? with
  | none =>
    have hnext : scan.next b = scan.begin b := by simp [Scan.next, hbegun]
    rw [hnext]
    exact h.begin hbegun b
  | some begun =>
    intro s hs
    by_cases hbounds : begun.least ≤ b.toNat ∧ b.toNat ≤ begun.greatest
    · obtain ⟨hleast, hgreatest⟩ := hbounds
      simp only [Scan.next, hbegun, if_pos (And.intro hleast hgreatest)] at hs ⊢
      by_cases hlast : begun.missing = 1
      · simp only [if_pos hlast] at hs ⊢
        obtain ⟨before, rfl, hbefore⟩ := exists_of_found_cons hs
        obtain ⟨pending, hpending, rfl⟩ := h before hbefore
        refine ⟨[], rfl, ?_⟩
        rw [encode_concat, ← (hpending.spells hbegun).last hlast hleast hgreatest]
        simp
      · simp only [if_neg hlast] at hs ⊢
        obtain ⟨pending, hpending, rfl⟩ := h s hs
        have hmore := (hpending.spells hbegun).more hlast hleast hgreatest
        exact ⟨pending ++ [b], hmore, List.append_assoc _ _ _⟩
    · -- the fault that is found stays, so that nothing is left to account for
      simp only [Scan.next, hbegun, if_neg hbounds] at hs
      exact absurd ((suffix_found_begin _ b).subset List.mem_cons_self) (hs.no_fault _)

/-- **A whole reading keeps the account.** -/
theorem accounts_foldl (bytes : Bytes) :
    (bytes.foldl Scan.next ⟨0, none, []⟩).Accounts bytes := by
  induction bytes using List.reverseRecOn with
  | nil =>
    intro s hs
    have hempty : s = [] := by simpa [Scan.Found] using hs
    exact ⟨[], rfl, by rw [hempty]; rfl⟩
  | append_singleton init last ih =>
    rw [List.foldl_append]
    exact ih.next last

/-- The items at the end are those that were found, and then at most a fault. -/
theorem prefix_finish (scan : Scan) : scan.found.reverse <+: scan.finish := by
  unfold Scan.finish
  split
  · exact List.prefix_rfl
  · rw [List.reverse_cons]
    exact List.prefix_append _ _

/-! ## Strict reading -/

theorem eq_char_of_no_fault {item : Item} (h : item.fault? = none) : item = .char item.toChar := by
  cases item with
  | char c => rfl
  | fault f => cases h

/-- A text that bytes write is spelled by their items. -/
theorem items_of_decode {bytes : Bytes} {s : Text} (h : decode bytes = .ok s) :
    ∃ chars, s = Text.ofChars chars ∧ items bytes = chars.map Item.char := by
  unfold decode at h
  split at h
  · cases h
  · next hnone =>
    rw [List.findSome?_eq_none_iff] at hnone
    cases h
    refine ⟨_, rfl, ?_⟩
    calc items bytes
      _ = (items bytes).map id := (List.map_id _).symm
      _ = (items bytes).map (Item.char ∘ Item.toChar) :=
        List.map_congr_left (fun item hitem => eq_char_of_no_fault (hnone item hitem))
      _ = ((items bytes).map Item.toChar).map Item.char := List.map_map.symm

/-- The items of some bytes are a text only if the bytes write it. -/
theorem eq_encode_of_items {bytes : Bytes} {s : List Char} (h : items bytes = s.map Item.char) :
    bytes = encode (Text.ofChars s) := by
  have haccount := accounts_foldl bytes
  rw [items] at h
  generalize bytes.foldl Scan.next ⟨0, none, []⟩ = scan at haccount h
  unfold Scan.finish at h
  split at h
  · next hnone =>
    obtain ⟨pending, hpending, hbytes⟩ := haccount s h
    rw [hbytes, hpending.eq_nil hnone, List.append_nil]
  · next begun hbegun =>
    have hfault : .fault (begun.fault .ending scan.position) ∈ s.map Item.char := by
      rw [← h]
      simp
    simp at hfault

/-- **Strict reading gives a text of characters for its bytes and for no others.** -/
theorem decode_eq_ok_iff {bytes : Bytes} {s : Text} :
    decode bytes = .ok s ↔ s.AllChars ∧ bytes = encode s := by
  constructor
  · intro h
    obtain ⟨chars, rfl, hitems⟩ := items_of_decode h
    exact ⟨Text.allChars_ofChars chars, eq_encode_of_items hitems⟩
  · rintro ⟨hchars, rfl⟩
    exact decode_encode hchars

/-- **Strict reading fails on what is not valid UTF-8**, and on nothing else. -/
theorem exists_decode_eq_error_iff {bytes : Bytes} :
    (∃ fault, decode bytes = .error fault) ↔ ¬ ∃ s, bytes = encode (Text.ofChars s) := by
  constructor
  · rintro ⟨fault, hfault⟩ ⟨s, rfl⟩
    rw [decode_encode_ofChars] at hfault
    cases hfault
  · intro h
    cases hdecode : decode bytes with
    | error fault => exact ⟨fault, rfl⟩
    | ok s =>
      obtain ⟨hchars, hbytes⟩ := decode_eq_ok_iff.1 hdecode
      obtain ⟨chars, rfl⟩ := (Text.allChars_iff s).1 hchars
      exact absurd ⟨chars, hbytes⟩ h

/-! ## Texts that begin alike -/

/-- **A text begins with another one if its bytes begin with those of the other one.** -/
theorem encode_prefix_iff {s t : List Char} :
    encode (Text.ofChars s) <+: encode (Text.ofChars t) ↔ s <+: t := by
  constructor
  · rintro ⟨rest, hrest⟩
    have hitems := items_encode t
    rw [← hrest, items, List.foldl_append, foldl_next_encode, List.append_nil] at hitems
    have hfound := suffix_found_foldl rest ⟨0 + (encode (Text.ofChars s)).length, none,
      (s.map Item.char).reverse⟩
    have hbegins := (List.reverse_prefix.2 hfound).trans (prefix_finish _)
    rw [hitems, List.reverse_reverse] at hbegins
    have hinjective : Function.Injective Item.char := fun c d h => Item.char.inj h
    exact (List.prefix_map_iff_of_injective hinjective).1 hbegins
  · rintro ⟨rest, rfl⟩
    exact ⟨encode (Text.ofChars rest), by rw [Text.ofChars_append, encode_append]⟩

/-! ## The byte order mark -/

/-- The bytes after the mark, if they begin with one. -/
def afterMark (bytes : Bytes) : Bytes :=
  if byteOrderMark.isPrefixOf bytes then bytes.drop byteOrderMark.length else bytes

theorem byteOrderMark_eq_encode : byteOrderMark = encode (Text.ofChars ['\uFEFF']) := by decide

theorem dropMark_append (bytes : Bytes) : dropMark (byteOrderMark ++ bytes) = bytes := by
  cases bytes with
  | nil => rfl
  | cons b rest => simp [dropMark, byteOrderMark]

/-- A text that does not begin with the character of the mark has no mark to drop. -/
theorem dropMark_encode {s : Text} (hchars : s.AllChars) (h : s.head? ≠ some (char '\uFEFF')) :
    dropMark (encode s) = encode s := by
  obtain ⟨chars, rfl⟩ := (Text.allChars_iff s).1 hchars
  unfold dropMark
  split
  · next hbegins =>
    rw [List.isPrefixOf_iff_prefix, byteOrderMark_eq_encode, encode_prefix_iff] at hbegins
    rcases List.prefix_cons_iff.1 hbegins with rfl | ⟨rest, rfl, -⟩
    · rfl
    · exact absurd rfl h
  · split
    · next hmark =>
      rw [List.isPrefixOf_iff_prefix, byteOrderMark_eq_encode, encode_prefix_iff] at hmark
      obtain ⟨rest, rfl⟩ := hmark
      exact absurd rfl h
    · rfl

/-- Only the beginning of a mark is dropped without being one. -/
theorem dropMark_eq_afterMark {bytes : Bytes} (h : ¬ bytes <+: byteOrderMark) :
    dropMark bytes = afterMark bytes := by
  rw [dropMark, if_neg (by rwa [List.isPrefixOf_iff_prefix])]
  rfl

/-- **What comes after a mark is read without a fault if it is valid**, or if the bytes are only the
    beginning of a mark. -/
theorem exists_decode_dropMark_eq_error_iff {bytes : Bytes} :
    (∃ fault, decode (dropMark bytes) = .error fault)
      ↔ ¬ (bytes <+: byteOrderMark ∧ bytes ≠ byteOrderMark)
        ∧ ¬ (afterMark bytes).toByteArray.IsValidUTF8 := by
  rw [isValidUTF8_iff]
  by_cases hbegins : bytes <+: byteOrderMark
  · have hnothing : dropMark bytes = [] := if_pos (by rwa [List.isPrefixOf_iff_prefix])
    rw [hnothing, exists_decode_eq_error_iff]
    constructor
    · intro h
      exact absurd ⟨[], rfl⟩ h
    · rintro ⟨hwhole, hinvalid⟩
      have hmark : bytes = byteOrderMark := by_contra (fun hne => hwhole ⟨hbegins, hne⟩)
      rw [hmark] at hinvalid
      exact absurd ⟨[], rfl⟩ hinvalid
  · rw [dropMark_eq_afterMark hbegins, exists_decode_eq_error_iff]
    simp [hbegins]

end CompileTrace.Utf8
