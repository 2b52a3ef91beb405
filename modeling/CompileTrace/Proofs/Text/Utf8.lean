import CompileTrace.Text.Utf8

set_option autoImplicit false

/-! # Reading what was written in UTF-8

The bytes of a text of characters are read as that text (`decode_encode`). Reading keeps a
character that has begun from byte to byte, so the proof follows the bytes of one character: the
first one begins it with the bounds that the second one keeps, and each further one adds six bits
(`foldl_next_encodeChar`). -/

namespace CompileTrace.Utf8

theorem toNat_byte {n : Nat} (h : n < 0x100) : (UInt8.ofNat n).toNat = n := by
  rw [UInt8.toNat_ofNat']
  exact Nat.mod_eq_of_lt h

/-- The number of a character is that of no half of a pair. -/
theorem isValidChar_toNat (c : Char) : c.toNat < 0xD800 ∨ 0xDFFF < c.toNat ∧ c.toNat < 0x110000 :=
  c.valid

/-! ## The first byte -/

theorem begin_one {n : Nat} (h : n < 0x80) (position : Nat) (found : List Item) :
    Scan.next ⟨position, none, found⟩ (UInt8.ofNat n)
      = ⟨position + 1, none, .char (Char.ofNat n) :: found⟩ := by
  have hbyte := toNat_byte (n := n) (by omega)
  simp [Scan.next, Scan.begin, beginning, hbyte, h]

theorem begin_two {n : Nat} (hlow : 0xC2 ≤ n) (hhigh : n < 0xE0) (position : Nat)
    (found : List Item) :
    Scan.next ⟨position, none, found⟩ (UInt8.ofNat n)
      = ⟨position + 1, some ⟨UInt8.ofNat n, 1, n - 0xC0, 1, 0x80, 0xBF⟩, found⟩ := by
  have hbyte := toNat_byte (n := n) (by omega)
  have h80 : ¬ n < 0x80 := by omega
  have hC2 : ¬ n < 0xC2 := by omega
  simp [Scan.next, Scan.begin, beginning, hbyte, h80, hC2, hhigh]

theorem begin_three {n : Nat} (hlow : 0xE0 ≤ n) (hhigh : n < 0xF0) (position : Nat)
    (found : List Item) :
    Scan.next ⟨position, none, found⟩ (UInt8.ofNat n)
      = ⟨position + 1,
          some ⟨UInt8.ofNat n, 1, n - 0xE0, 2, if n = 0xE0 then 0xA0 else 0x80,
            if n = 0xED then 0x9F else 0xBF⟩, found⟩ := by
  have hbyte := toNat_byte (n := n) (by omega)
  have h80 : ¬ n < 0x80 := by omega
  have hC2 : ¬ n < 0xC2 := by omega
  have hE0 : ¬ n < 0xE0 := by omega
  simp [Scan.next, Scan.begin, beginning, hbyte, h80, hC2, hE0, hhigh]

theorem begin_four {n : Nat} (hlow : 0xF0 ≤ n) (hhigh : n < 0xF5) (position : Nat)
    (found : List Item) :
    Scan.next ⟨position, none, found⟩ (UInt8.ofNat n)
      = ⟨position + 1,
          some ⟨UInt8.ofNat n, 1, n - 0xF0, 3, if n = 0xF0 then 0x90 else 0x80,
            if n = 0xF4 then 0x8F else 0xBF⟩, found⟩ := by
  have hbyte := toNat_byte (n := n) (by omega)
  have h80 : ¬ n < 0x80 := by omega
  have hC2 : ¬ n < 0xC2 := by omega
  have hE0 : ¬ n < 0xE0 := by omega
  have hF0 : ¬ n < 0xF0 := by omega
  simp [Scan.next, Scan.begin, beginning, hbyte, h80, hC2, hE0, hF0, hhigh]

/-! ## The bytes that go on -/

/-- The bits that a byte of its own adds to a character. -/
def tailByte (n : Nat) : UInt8 := UInt8.ofNat (0x80 + n)

section

variable {first : UInt8} {width code least greatest n : Nat} (hn : n < 0x40)
  (hleast : least ≤ 0x80 + n) (hgreatest : 0x80 + n ≤ greatest) (position : Nat)
  (found : List Item)

include hn hleast hgreatest

theorem next_last :
    Scan.next ⟨position, some ⟨first, width, code, 1, least, greatest⟩, found⟩ (tailByte n)
      = ⟨position + 1, none, .char (Char.ofNat (code * 0x40 + n)) :: found⟩ := by
  have hbyte : (tailByte n).toNat = 0x80 + n := toNat_byte (by omega)
  simp [Scan.next, hbyte, hleast, hgreatest]

theorem next_more (missing : Nat) :
    Scan.next ⟨position, some ⟨first, width, code, missing + 2, least, greatest⟩, found⟩
        (tailByte n)
      = ⟨position + 1, some ⟨first, width + 1, code * 0x40 + n, missing + 1, 0x80, 0xBF⟩,
          found⟩ := by
  have hbyte : (tailByte n).toNat = 0x80 + n := toNat_byte (by omega)
  simp [Scan.next, hbyte, hleast, hgreatest]

end

/-! ## One character -/

/-- **The bytes of a code point are read as its character.** -/
theorem foldl_next_encodeCode {n : Nat} (hn : n < 0xD800 ∨ 0xDFFF < n ∧ n < 0x110000)
    (position : Nat) (found : List Item) :
    ((encodeCode n).map UInt8.ofNat).foldl Scan.next ⟨position, none, found⟩
      = ⟨position + (encodeCode n).length, none, .char (Char.ofNat n) :: found⟩ := by
  have hlast : n % 0x40 < 0x40 := Nat.mod_lt _ (by decide)
  have hmiddle : n / 0x40 % 0x40 < 0x40 := Nat.mod_lt _ (by decide)
  have hupper : n / 0x1000 % 0x40 < 0x40 := Nat.mod_lt _ (by decide)
  unfold encodeCode
  split
  · next hone =>
    rw [List.map_singleton, List.foldl_cons, List.foldl_nil, begin_one hone]
    rfl
  · split
    · next htwo =>
      have hcode : (0xC0 + n / 0x40 - 0xC0) * 0x40 + n % 0x40 = n := by omega
      rw [List.map_cons, List.map_singleton, List.foldl_cons, List.foldl_cons, List.foldl_nil,
        begin_two (by omega) (by omega), ← tailByte, next_last hlast (by omega) (by omega), hcode]
      rfl
    · split
      · next hthree =>
        -- the bounds of the second byte keep out what has a shorter form and the surrogates
        have hleast : (if 0xE0 + n / 0x1000 = 0xE0 then 0xA0 else 0x80)
            ≤ 0x80 + n / 0x40 % 0x40 := by
          split <;> omega
        have hgreatest : 0x80 + n / 0x40 % 0x40
            ≤ (if 0xE0 + n / 0x1000 = 0xED then 0x9F else 0xBF) := by
          split <;> omega
        have hcode :
            ((0xE0 + n / 0x1000 - 0xE0) * 0x40 + n / 0x40 % 0x40) * 0x40 + n % 0x40 = n := by
          omega
        rw [List.map_cons, List.map_cons, List.map_singleton, List.foldl_cons, List.foldl_cons,
          List.foldl_cons, List.foldl_nil, begin_three (by omega) (by omega), ← tailByte,
          ← tailByte,
          next_more hmiddle hleast hgreatest, next_last hlast (by omega) (by omega), hcode]
        rfl
      · next hthree =>
        have hleast : (if 0xF0 + n / 0x40000 = 0xF0 then 0x90 else 0x80)
            ≤ 0x80 + n / 0x1000 % 0x40 := by
          split <;> omega
        have hgreatest : 0x80 + n / 0x1000 % 0x40
            ≤ (if 0xF0 + n / 0x40000 = 0xF4 then 0x8F else 0xBF) := by
          split <;> omega
        have hcode : (((0xF0 + n / 0x40000 - 0xF0) * 0x40 + n / 0x1000 % 0x40) * 0x40
            + n / 0x40 % 0x40) * 0x40 + n % 0x40 = n := by
          omega
        rw [List.map_cons, List.map_cons, List.map_cons, List.map_singleton, List.foldl_cons,
          List.foldl_cons, List.foldl_cons, List.foldl_cons, List.foldl_nil,
          begin_four (by omega) (by omega), ← tailByte, ← tailByte, ← tailByte,
          next_more hupper hleast hgreatest, next_more hmiddle (by omega) (by omega),
          next_last hlast (by omega) (by omega), hcode]
        rfl

/-- The bytes of a character are read as the character. -/
theorem foldl_next_encodeChar (c : Char) (position : Nat) (found : List Item) :
    (encodeChar c).foldl Scan.next ⟨position, none, found⟩
      = ⟨position + (encodeChar c).length, none, .char c :: found⟩ := by
  rw [encodeChar, CodePoint.toNat_char, foldl_next_encodeCode (isValidChar_toNat c),
    List.length_map, Char.ofNat_toNat]

/-! ## Texts -/

theorem foldl_next_encode (s : List Char) (position : Nat) (found : List Item) :
    (encode (Text.ofChars s)).foldl Scan.next ⟨position, none, found⟩
      = ⟨position + (encode (Text.ofChars s)).length, none,
          (s.map Item.char).reverse ++ found⟩ := by
  induction s generalizing position found with
  | nil => rfl
  | cons c rest ih =>
    rw [Text.ofChars_cons, encode, List.flatMap_cons, ← encode, List.foldl_append,
      foldl_next_encodeChar, ih, List.length_append, Nat.add_assoc, List.map_cons,
      List.reverse_cons, List.append_assoc, List.singleton_append]

/-- The bytes of a text spell its characters and no fault. -/
theorem items_encode (s : List Char) : items (encode (Text.ofChars s)) = s.map Item.char := by
  rw [items, foldl_next_encode, Scan.finish, List.append_nil, List.reverse_reverse]

/-- **The bytes of characters are read as the characters.** -/
theorem decode_encode_ofChars (s : List Char) :
    decode (encode (Text.ofChars s)) = .ok (Text.ofChars s) := by
  have hfault : (s.map Item.char).findSome? Item.fault? = none := by
    rw [List.findSome?_eq_none_iff]
    intro item hitem
    obtain ⟨c, -, rfl⟩ := List.mem_map.1 hitem
    rfl
  have htext : (s.map Item.char).map Item.toChar = s := by
    rw [List.map_map]
    exact List.map_id' s
  rw [decode, items_encode, hfault, htext]

theorem decode_encode {s : Text} (h : s.AllChars) : decode (encode s) = .ok s := by
  obtain ⟨chars, rfl⟩ := (Text.allChars_iff s).1 h
  exact decode_encode_ofChars chars

end CompileTrace.Utf8
