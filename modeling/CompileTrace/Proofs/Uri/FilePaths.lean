import CompileTrace.Proofs.Number.Digits
import CompileTrace.Proofs.Path.Tidy
import CompileTrace.Proofs.Text.Utf8
import CompileTrace.Uri.File
import Mathlib.Data.List.SplitBy

set_option autoImplicit false

/-! # The URIs of paths

A path is made into a URI byte by byte: a byte of a few harmless characters stands for itself, any
other is written as a percent sign and two hexadecimal digits (`Writes`). What is written so has
none of the characters that end a part of a URI or that are left out of one (`Writes.harmless`),
and its escapes are read as the bytes again (`Writes.percentBytes_eq`). So the path that the URI
names is the path it was made of, whatever characters that has (`filePath?_writes`). -/

namespace CompileTrace.Uri

/-! ## Writing bytes -/

/-- Whether a character of a path stands for itself in a URI: the letters and digits of ASCII, four
    marks, and the slash between components. -/
def standsForItself (c : CodePoint) : Bool := 
  c.isAlphanum || [char '-', char '.', char '_', char '~', char '/'].contains c

/-- The ways to write bytes in the path of a URI. The digits of an escape may be of either case. -/
inductive Writes : Bytes → Text → Prop
  | nil : Writes [] []
  | itself {b : UInt8} {bytes : Bytes} {rest : Text}
      (plain : standsForItself (CodePoint.ofNat b.toNat) = true) (more : Writes bytes rest) :
      Writes (b :: bytes) (CodePoint.ofNat b.toNat :: rest)
  | escaped {b : UInt8} {bytes : Bytes} {rest : Text} {high low : CodePoint} {x y : Nat}
      (special : standsForItself (CodePoint.ofNat b.toNat) = false)
      (highDigit : hexValue? high = some x) (lowDigit : hexValue? low = some y)
      (value : 16 * x + y = b.toNat) (more : Writes bytes rest) :
      Writes (b :: bytes) (char '%' :: high :: low :: rest)

/-- All bytes can be written. -/
theorem exists_writes (bytes : Bytes) : ∃ written, Writes bytes written := by
  induction bytes with
  | nil => exact ⟨[], .nil⟩
  | cons b bytes ih =>
    obtain ⟨rest, hrest⟩ := ih
    have hlt := b.toNat_lt
    cases hplain : standsForItself (CodePoint.ofNat b.toNat) with
    | true => exact ⟨_, .itself hplain hrest⟩
    | false =>
      have hhigh := Text.hexValue?_digitChar (b.toNat / 16) (by omega)
      have hlow := Text.hexValue?_digitChar (b.toNat % 16) (by omega)
      exact ⟨_, .escaped hplain hhigh hlow (Nat.div_add_mod b.toNat 16) hrest⟩

/-! ## Harmless characters -/

/-- A character that no part of a URI ends at and that is left out of none. -/
structure IsHarmless (c : CodePoint) : Prop where
  above_space : 0x20 < c.toNat
  ascii : c.toNat < 0x80
  ne_query : c ≠ '?'
  ne_fragment : c ≠ '#'

theorem isHarmless_of_standsForItself {b : UInt8}
    (h : standsForItself (CodePoint.ofNat b.toNat) = true) :
    IsHarmless (CodePoint.ofNat b.toNat) := by
  have hall : ∀ n < 0x100, standsForItself (CodePoint.ofNat n) = true →
      0x20 < (CodePoint.ofNat n).toNat ∧ (CodePoint.ofNat n).toNat < 0x80
        ∧ CodePoint.ofNat n ≠ '?' ∧ CodePoint.ofNat n ≠ '#' := by decide +kernel
  obtain ⟨hlow, hhigh, hquery, hfragment⟩ := hall b.toNat b.toNat_lt h
  exact ⟨hlow, hhigh, hquery, hfragment⟩

theorem isHarmless_of_hexValue? {c : CodePoint} {n : Nat} (h : hexValue? c = some n) :
    IsHarmless c := by
  obtain ⟨hlow, hhigh⟩ := Text.toNat_of_isHexDigit (Option.isSome_of_eq_some h)
  refine ⟨by omega, by omega, ?_, ?_⟩
  · rintro rfl
    cases h
  · rintro rfl
    cases h

namespace Writes

variable {bytes : Bytes} {written : Text}

theorem harmless (h : Writes bytes written) : ∀ c ∈ written, IsHarmless c := by
  induction h with
  | nil => simp
  | itself plain more ih =>
    rw [List.forall_mem_cons]
    exact ⟨isHarmless_of_standsForItself plain, ih⟩
  | escaped special highDigit lowDigit value more ih =>
    rw [List.forall_mem_cons, List.forall_mem_cons, List.forall_mem_cons]
    exact ⟨⟨by decide, by decide, by decide, by decide⟩, isHarmless_of_hexValue? highDigit,
      isHarmless_of_hexValue? lowDigit, ih⟩

/-! ## Reading back -/

theorem percentBytes_cons {c : CodePoint} (hc : c ≠ '%') (rest : Text) :
    percentBytes (c :: rest) = UInt8.ofNat c.toNat :: percentBytes rest := by
  rw [percentBytes]
  rintro _ _ _ rfl
  exact absurd rfl hc

/-- **The escapes are read as the bytes that were written.** -/
theorem percentBytes_eq (h : Writes bytes written) : percentBytes written = bytes := by
  induction h with
  | nil => rfl
  | @itself b _ _ plain more ih =>
    have hbyte : (CodePoint.ofNat b.toNat).toNat = b.toNat :=
      CodePoint.toNat_ofNat (Nat.lt_trans b.toNat_lt (by decide))
    have hpercent : CodePoint.ofNat b.toNat ≠ '%' := by
      intro heq
      rw [heq] at plain
      exact absurd plain (by decide)
    rw [percentBytes_cons hpercent, hbyte, ih, UInt8.ofNat_toNat]
  | escaped special highDigit lowDigit value more ih =>
    rw [percentBytes, highDigit, lowDigit]
    simp only
    rw [value, ih, UInt8.ofNat_toNat]

/-- What is written for a text of characters is read as the text. -/
theorem decode_eq {s : Text} (hchars : s.AllChars) (h : Writes (Utf8.encode s) written)
    (hne : written ≠ []) : decode written = s := by
  obtain ⟨chars, rfl⟩ := (Text.allChars_iff s).1 hchars
  have hascii : ∀ c ∈ written, isAscii c = true :=
    fun c hc => decide_eq_true (h.harmless c hc).ascii
  have hruns : written.splitBy (fun a b => isAscii a == isAscii b) = [written] := by
    refine List.splitBy_of_isChain hne (List.Pairwise.isChain ?_)
    exact List.pairwise_iff_forall_sublist.2 (fun {a b} hab => by
      rw [hascii a (hab.subset (by simp)), hascii b (hab.subset (by simp)), beq_self_eq_true])
  have hall : written.all isAscii = true := List.all_eq_true.2 hascii
  rw [decode, hruns, List.flatMap_singleton, decodeRun, if_pos hall, h.percentBytes_eq,
    Utf8.decodeLossy, Utf8.items_encode, List.map_map]
  exact congrArg Text.ofChars (List.map_id' chars)

/-- What is written for an absolute path begins with its slash. -/
theorem exists_cons {path : Text} (h : Writes (Utf8.encode path) written)
    (hpath : Path.isAbsolute path = true) : ∃ rest, written = char '/' :: rest := by
  obtain ⟨rest, rfl⟩ := Path.exists_of_isAbsolute hpath
  have hbytes : Utf8.encode (char '/' :: rest) = 0x2F :: Utf8.encode rest := rfl
  rw [hbytes] at h
  cases h with
  | itself plain more => exact ⟨_, rfl⟩
  | escaped special highDigit lowDigit value more => exact absurd special (by decide)

end Writes

/-! ## The parts of a file URI -/

/-- The scheme of a file URI. -/
def fileScheme : Text := "file"

/-- The beginning of a file URI without a host. -/
def fileStart : Text := fileScheme ++ [char ':', char '/', char '/']

section

variable {written : Text} (h : ∀ c ∈ written, IsHarmless c)

include h

theorem clean_eq_self : clean (fileStart ++ written) = fileStart ++ written := by
  have hstart : fileStart.all (fun c => 0x20 < c.toNat) = true := by decide
  have hkept : ∀ c ∈ fileStart ++ written, 0x20 < c.toNat := by
    intro c hc
    rcases List.mem_append.1 hc with hc | hc
    · exact of_decide_eq_true (List.all_eq_true.1 hstart c hc)
    · exact (h c hc).above_space
  have hdrop : (fileStart ++ written).dropWhile (fun c => c.toNat ≤ 0x20)
      = fileStart ++ written := rfl
  rw [clean, hdrop, List.filter_eq_self]
  intro c hc
  have hlarge := hkept c hc
  simp only [Bool.and_eq_true, bne_iff_ne]
  refine ⟨⟨?_, ?_⟩, ?_⟩ <;> rintro rfl <;> revert hlarge <;> decide

theorem pathPart_eq_self : pathPart written = written := by
  refine List.takeWhile_eq_self_iff.2 (fun c hc => ?_)
  simp [(h c hc).ne_query, (h c hc).ne_fragment]

end

theorem splitScheme_fileStart (s : Text) :
    splitScheme (fileStart ++ s) = (fileScheme, char '/' :: char '/' :: s) := by
  have hcut :
      Text.cutAt? (char ':') (fileStart ++ s) = some (fileScheme, char '/' :: char '/' :: s) :=
    Text.cutAt?_append ':' fileScheme (char '/' :: char '/' :: s) (by decide)
  rw [splitScheme, hcut]
  rfl

theorem splitAuthority_slash (s : Text) :
    splitAuthority (char '/' :: char '/' :: char '/' :: s) = ([], char '/' :: s) := rfl

/-- A file URI without a host names what its path is read as. -/
theorem filePath?_of_parts {uri rest path : Text}
    (hscheme : splitScheme (clean uri) = (fileScheme, rest))
    (hauthority : splitAuthority rest = ([], path)) :
    filePath? uri
      = .ok (if Path.isAbsolute (decode (pathPart path)) = true
          then some (Path.tidy (decode (pathPart path))) else none) := by
  have hfile : fileScheme = ("file" : Text) := rfl
  have hhost : (bracketFault? []).or (lookalikeFault? []) = none := rfl
  simp only [filePath?, hscheme, hauthority, hhost, hfile, true_and]

/-- **The URI of a path of characters names the path.** -/
theorem filePath?_writes {path written : Text} (hpath : Path.IsTidy path)
    (hchars : path.AllChars) (h : Writes (Utf8.encode path) written) :
    filePath? (fileStart ++ written) = .ok (some path) := by
  obtain ⟨rest, rfl⟩ := h.exists_cons hpath.isAbsolute
  have hscheme := splitScheme_fileStart (char '/' :: rest)
  rw [← clean_eq_self h.harmless] at hscheme
  rw [filePath?_of_parts hscheme (splitAuthority_slash rest), pathPart_eq_self h.harmless,
    h.decode_eq hchars (List.cons_ne_nil _ _), if_pos hpath.isAbsolute, hpath.tidy_eq]

/-- A path with two slashes in front, a letter of two bytes, a percent sign and a query mark; its
    escapes have digits of both cases. -/
theorem filePath?_writes_escapes :
    Path.IsTidy "//é/%?" ∧ Text.AllChars "//é/%?"
      ∧ Writes (Utf8.encode "//é/%?") "//%c3%A9/%25%3f"
      ∧ filePath? (fileStart ++ "//%c3%A9/%25%3f") = .ok (some "//é/%?") := by
  have htidy : Path.IsTidy "//é/%?" := by
    refine ⟨[char '/', char '/'], ["é", "%?"], .inr rfl, ?_, rfl⟩
    simp only [List.forall_mem_cons, List.not_mem_nil, false_imp_iff, implies_true, and_true]
    exact ⟨⟨by decide, by decide, by decide⟩, by decide, by decide, by decide⟩
  have hbytes : Utf8.encode "//é/%?" = [0x2F, 0x2F, 0xC3, 0xA9, 0x2F, 0x25, 0x3F] := by decide
  have hwrites : Writes (Utf8.encode "//é/%?") "//%c3%A9/%25%3f" := by
    rw [hbytes]
    refine .itself (by decide) (.itself (by decide) ?_)
    refine .escaped (by decide) rfl rfl (by decide) (.escaped (by decide) rfl rfl (by decide) ?_)
    refine .itself (by decide) ?_
    exact .escaped (by decide) rfl rfl (by decide)
      (.escaped (by decide) rfl rfl (by decide) .nil)
  have hchars : Text.AllChars "//é/%?" := by decide
  exact ⟨htidy, hchars, hwrites, filePath?_writes htidy hchars hwrites⟩

end CompileTrace.Uri
