import Mathlib.Data.String.Basic
import Mathlib.Tactic.IntervalCases
import SchemaMigration.Text.Utf8

/-! # UTF-8 — what a text is written as is read as the text

    A character is written as a lead byte, which holds its high bits, and up to three
    bytes that continue it with six bits each.  Reading a lead byte opens a character
    whose next byte may only be one that continues it to a character of this length:

    * `opened_two`, `opened_three`, `opened_four`: what a lead byte opens;
    * `pieces_encode`: the bytes of a character are read as the character;
    * `decodeLossy_toUTF8`: the bytes of a text are read as the text. -/

namespace SchemaMigration.Utf8

variable {v : Nat} {o : Open} {b : UInt8} {rest : List UInt8}

/-! ## The bytes of a text -/

/-- The loop over the bytes puts those that are left behind those that were read. -/
theorem toList_loop_eq (bytes : ByteArray) (i : Nat) (read : List UInt8) :
    ByteArray.toList.loop bytes i read = read.reverse ++ bytes.data.toList.drop i := by
  fun_induction ByteArray.toList.loop bytes i read with
  | case1 i read h ih =>
      have hi : i < bytes.data.toList.length := by simpa using h
      rw [ih, List.drop_eq_getElem_cons hi]
      simp [ByteArray.get!, h]
  | case2 i read h =>
      rw [List.drop_eq_nil_of_le (by simpa using Nat.le_of_not_lt h), List.append_nil]

/-- The bytes of a text are those of its characters, one after the other. -/
theorem toList_toUTF8 (s : String) : s.toUTF8.toList = s.toList.flatMap String.utf8EncodeChar := by
  have hbytes : s.toUTF8 = (s.toList.flatMap String.utf8EncodeChar).toByteArray := by
    rw [String.toUTF8_eq_toByteArray, ← String.utf8Encode_toList, List.utf8Encode]
  rw [hbytes, ByteArray.toList, toList_loop_eq, List.toList_data_toByteArray]
  rfl

/-! ## Lead bytes -/

theorem opened_two (hlow : 0x80 ≤ v) (hhigh : v ≤ 0x7FF) :
    opened (v / 64 + 0xC0) = some ⟨v / 64, 1, 0x80, 0xBF⟩ := by
  have hlead : (0xC2 ≤ v / 64 + 0xC0 && v / 64 + 0xC0 ≤ 0xDF) = true := by
    rw [Bool.and_eq_true, decide_eq_true_eq, decide_eq_true_eq]
    omega
  rw [opened, if_pos hlead, Nat.add_sub_cancel]

/-- The byte after the lead of three is bounded where shorter characters and surrogates lie. -/
theorem opened_three (hlow : 0x800 ≤ v) (hhigh : v ≤ 0xFFFF) (hvalid : v < 0xD800 ∨ 0xDFFF < v) :
    ∃ low high, opened (v / 4096 + 0xE0) = some ⟨v / 4096, 2, low, high⟩
      ∧ low ≤ v / 64 % 64 + 0x80 ∧ v / 64 % 64 + 0x80 ≤ high := by
  by_cases hfirst : v / 4096 = 0
  · refine ⟨0xA0, 0xBF, ?_, by omega, by omega⟩
    rw [hfirst]
    rfl
  by_cases hsurrogates : v / 4096 = 0xD
  · refine ⟨0x80, 0x9F, ?_, by omega, by omega⟩
    rw [hsurrogates]
    rfl
  · refine ⟨0x80, 0xBF, ?_, by omega, by omega⟩
    have hbound : v / 4096 < 16 := by omega
    interval_cases v / 4096 <;> first | rfl | contradiction

/-- The byte after the lead of four is bounded where shorter characters and the end lie. -/
theorem opened_four (hlow : 0x10000 ≤ v) (hhigh : v < 0x110000) :
    ∃ low high, opened (v / 262144 + 0xF0) = some ⟨v / 262144, 3, low, high⟩
      ∧ low ≤ v / 4096 % 64 + 0x80 ∧ v / 4096 % 64 + 0x80 ≤ high := by
  by_cases hfirst : v / 262144 = 0
  · refine ⟨0x90, 0xBF, ?_, by omega, by omega⟩
    rw [hfirst]
    rfl
  by_cases hlast : v / 262144 = 4
  · refine ⟨0x80, 0x8F, ?_, by omega, by omega⟩
    rw [hlast]
    rfl
  · refine ⟨0x80, 0xBF, ?_, by omega, by omega⟩
    have hbound : v / 262144 < 5 := by omega
    interval_cases v / 262144 <;> first | rfl | contradiction

/-! ## One byte after another -/

theorem pieces_opened {n : Nat} (hbyte : b.toNat = n) (hlead : 0x80 ≤ n) (h : opened n = some o) :
    pieces none (b :: rest) = pieces (some o) rest := by
  have hstart : start b.toNat = ([], some o) := by
    rw [start, hbyte, if_neg (Nat.not_lt.mpr hlead), h]
  rw [pieces, hstart]
  rfl

section

variable {bits missing low high x : Nat}

/-- A byte in between adds its six bits. -/
theorem pieces_more (hbyte : b.toNat = x + 0x80) (hlow : low ≤ x + 0x80) (hhigh : x + 0x80 ≤ high) :
    pieces (some ⟨bits, missing + 2, low, high⟩) (b :: rest)
      = pieces (some ⟨bits * 64 + x, missing + 1, 0x80, 0xBF⟩) rest := by
  have hrange : (low ≤ b.toNat && b.toNat ≤ high) = true := by
    rw [hbyte, Bool.and_eq_true, decide_eq_true_eq, decide_eq_true_eq]
    exact ⟨hlow, hhigh⟩
  have hmore : ¬missing + 2 = 1 := by omega
  rw [pieces, extend, if_pos hrange, hbyte, Nat.add_sub_cancel, if_neg hmore]
  rfl

/-- The last byte completes the character. -/
theorem pieces_last (hbyte : b.toNat = x + 0x80) (hlow : low ≤ x + 0x80) (hhigh : x + 0x80 ≤ high) :
    pieces (some ⟨bits, 1, low, high⟩) (b :: rest)
      = some (Char.ofNat (bits * 64 + x)) :: pieces none rest := by
  have hrange : (low ≤ b.toNat && b.toNat ≤ high) = true := by
    rw [hbyte, Bool.and_eq_true, decide_eq_true_eq, decide_eq_true_eq]
    exact ⟨hlow, hhigh⟩
  rw [pieces, extend, if_pos hrange, hbyte, Nat.add_sub_cancel, if_pos rfl]
  rfl

end

/-! ## Whole texts -/

theorem toNat_ofNat_byte {n : Nat} (h : n < 256) : (UInt8.ofNat n).toNat = n := by
  rw [UInt8.toNat_ofNat', Nat.mod_eq_of_lt h]

/-- The bytes of a character are read as the character. -/
theorem pieces_encode (c : Char) (rest : List UInt8) :
    pieces none (String.utf8EncodeChar c ++ rest) = some c :: pieces none rest := by
  have hvalid : c.val.toNat < 0xD800 ∨ 0xDFFF < c.val.toNat ∧ c.val.toNat < 0x110000 := c.valid
  have hc : Char.ofNat c.val.toNat = c := c.ofNat_toNat
  rw [String.utf8EncodeChar]
  generalize c.val.toNat = v at hvalid hc ⊢
  have hlast : (UInt8.ofNat (v % 64 + 128)).toNat = v % 64 + 128 := toNat_ofNat_byte (by omega)
  -- One case for each length of an encoding; in each of them the bits add up to the character.
  by_cases hone : v ≤ 127
  · have hbyte : (UInt8.ofNat v).toNat = v := toNat_ofNat_byte (by omega)
    simp only [if_pos hone, List.cons_append, List.nil_append, pieces, start, hbyte]
    rw [if_pos (by omega), hc]
    rfl
  by_cases htwo : v ≤ 2047
  · have hlead : (UInt8.ofNat (v / 64 % 32 + 192)).toNat = v / 64 + 0xC0 := by
      rw [toNat_ofNat_byte (by omega)]
      omega
    simp only [if_neg hone, if_pos htwo, List.cons_append, List.nil_append]
    rw [pieces_opened hlead (by omega) (opened_two (by omega) htwo),
      pieces_last hlast (by omega) (by omega), ← hc]
    have hbits : v / 64 * 64 + v % 64 = v := by omega
    rw [hbits]
  by_cases hthree : v ≤ 65535
  · have hlead : (UInt8.ofNat (v / 4096 % 16 + 224)).toNat = v / 4096 + 0xE0 := by
      rw [toNat_ofNat_byte (by omega)]
      omega
    have hsecond : (UInt8.ofNat (v / 64 % 64 + 128)).toNat = v / 64 % 64 + 128 :=
      toNat_ofNat_byte (by omega)
    obtain ⟨low, high, hopened, hlow, hhigh⟩ := opened_three (v := v) (by omega) hthree (by omega)
    simp only [if_neg hone, if_neg htwo, if_pos hthree, List.cons_append, List.nil_append]
    rw [pieces_opened hlead (by omega) hopened, pieces_more hsecond hlow hhigh,
      pieces_last hlast (by omega) (by omega), ← hc]
    have hbits : (v / 4096 * 64 + v / 64 % 64) * 64 + v % 64 = v := by omega
    rw [hbits]
  · have hlead : (UInt8.ofNat (v / 262144 % 8 + 240)).toNat = v / 262144 + 0xF0 := by
      rw [toNat_ofNat_byte (by omega)]
      omega
    have hsecond : (UInt8.ofNat (v / 4096 % 64 + 128)).toNat = v / 4096 % 64 + 128 :=
      toNat_ofNat_byte (by omega)
    have hthird : (UInt8.ofNat (v / 64 % 64 + 128)).toNat = v / 64 % 64 + 128 :=
      toNat_ofNat_byte (by omega)
    obtain ⟨low, high, hopened, hlow, hhigh⟩ := opened_four (v := v) (by omega) (by omega)
    simp only [if_neg hone, if_neg htwo, if_neg hthree, List.cons_append, List.nil_append]
    rw [pieces_opened hlead (by omega) hopened, pieces_more hsecond hlow hhigh,
      pieces_more hthird (by omega) (by omega), pieces_last hlast (by omega) (by omega), ← hc]
    have hbits : ((v / 262144 * 64 + v / 4096 % 64) * 64 + v / 64 % 64) * 64 + v % 64 = v := by
      omega
    rw [hbits]

/-- Characters that were encoded are decoded, each as itself. -/
theorem pieces_flatMap_encode (cs : List Char) :
    pieces none (cs.flatMap String.utf8EncodeChar) = cs.map some := by
  induction cs with
  | nil => rfl
  | cons c cs ih => rw [List.flatMap_cons, pieces_encode, ih, List.map_cons]

/-- The bytes of a text are read as the text, and no piece of them is broken. -/
theorem decodeLossy_toUTF8 (s : String) : decodeLossy s.toUTF8 = s := by
  have hread : ((s.toList.map some).map fun c => c.getD replacement) = s.toList := by
    rw [List.map_map]
    exact List.map_id _
  rw [decodeLossy, toList_toUTF8, pieces_flatMap_encode, hread, String.ofList_toList]

end SchemaMigration.Utf8
