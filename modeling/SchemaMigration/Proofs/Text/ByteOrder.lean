import Mathlib.Data.List.Lex
import SchemaMigration.Proofs.Text.Utf8

/-! # Byte order — texts compare as what they are written as

    Texts are compared character by character, and names of files byte by byte.
    Both orders are one.  A character is written as a lead byte and as many bytes
    behind it as the lead byte says, each with six bits (`encode_eq`), so:

    * `lead_lt_or`: a larger character has a larger lead byte, or differs in the
      bits behind it;
    * `encode_lt_encode`: the first character that differs decides on the bytes;
    * `bytes_lt_iff`: texts compare as their bytes do. -/

namespace SchemaMigration.Utf8

variable {m n v w k : Nat} {c d : Char} {as bs : List UInt8}

/-- The bytes that a text is written as. -/
def bytes (s : String) : List UInt8 := s.toUTF8.toList

/-! ## Single characters -/

/-- The lead byte of the character with some number. -/
def lead (v : Nat) : Nat :=
  if v ≤ 127 then v
  else if v ≤ 2047 then v / 64 + 192
  else if v ≤ 65535 then v / 4096 + 224
  else v / 262144 + 240

/-- How many bytes follow the lead byte. -/
def following (v : Nat) : Nat :=
  if v ≤ 127 then 0
  else if v ≤ 2047 then 1
  else if v ≤ 65535 then 2
  else 3

/-- The bytes that hold the lowest bits of a number, six in each, the highest first. -/
def sextets : Nat → Nat → List UInt8
  | 0, _ => []
  | k + 1, v => UInt8.ofNat (v / 64 ^ k % 64 + 128) :: sextets k v

theorem toNat_lt (c : Char) : c.val.toNat < 0x110000 := by
  rcases c.valid with h | ⟨-, h⟩
  · exact h.trans (by decide)
  · exact h

/-- A character is written as its lead byte and the bytes behind it. -/
theorem encode_eq (c : Char) : String.utf8EncodeChar c
    = UInt8.ofNat (lead c.val.toNat) :: sextets (following c.val.toNat) c.val.toNat := by
  have hbound := toNat_lt c
  rw [String.utf8EncodeChar, lead, following]
  generalize c.val.toNat = v at hbound ⊢
  by_cases hone : v ≤ 127
  · simp only [if_pos hone]
    rfl
  by_cases htwo : v ≤ 2047
  · have hbits : v / 64 % 32 = v / 64 := Nat.mod_eq_of_lt (by omega)
    simp only [if_neg hone, if_pos htwo, hbits, sextets, Nat.pow_zero, Nat.div_one]
  by_cases hthree : v ≤ 65535
  · have hbits : v / 4096 % 16 = v / 4096 := Nat.mod_eq_of_lt (by omega)
    simp only [if_neg hone, if_neg htwo, if_pos hthree, hbits, sextets, Nat.pow_zero,
      Nat.pow_one, Nat.div_one]
  · have hbits : v / 262144 % 8 = v / 262144 := Nat.mod_eq_of_lt (by omega)
    simp only [if_neg hone, if_neg htwo, if_neg hthree, hbits, sextets, Nat.pow_zero,
      Nat.pow_one, Nat.reducePow, Nat.div_one]

theorem lead_lt (h : v < 0x110000) : lead v < 256 := by
  rw [lead]
  split_ifs <;> omega

/-- A larger character has a larger lead byte, or as many bytes behind an equal one. -/
theorem lead_lt_or (h : v < w) (hw : w < 0x110000) :
    lead v < lead w
      ∨ lead v = lead w ∧ following v = following w
        ∧ v / 64 ^ following v = w / 64 ^ following v := by
  rw [lead, lead, following, following]
  split_ifs <;> omega

/-- A smaller byte decides, and an equal one leaves it to what follows. -/
theorem cons_byte_lt (hm : m < 256) (hn : n < 256) (h : m < n ∨ m = n ∧ as < bs) :
    UInt8.ofNat m :: as < UInt8.ofNat n :: bs := by
  rw [List.cons_lt_cons_iff, UInt8.lt_iff_toNat_lt, toNat_ofNat_byte hm, toNat_ofNat_byte hn]
  exact h.imp_right fun ⟨heq, hlt⟩ => ⟨congrArg _ heq, hlt⟩

/-- Numbers with the same high bits compare as the bytes that hold their lowest ones. -/
theorem sextets_lt (hhigh : v / 64 ^ k = w / 64 ^ k) (h : v < w) :
    sextets k v ++ as < sextets k w ++ bs := by
  induction k with
  | zero =>
      rw [Nat.pow_zero, Nat.div_one, Nat.div_one] at hhigh
      exact absurd hhigh h.ne
  | succ k ih =>
      rw [Nat.pow_succ, ← Nat.div_div_eq_div_mul, ← Nat.div_div_eq_div_mul] at hhigh
      have hle : v / 64 ^ k ≤ w / 64 ^ k := Nat.div_le_div_right h.le
      refine cons_byte_lt (by omega) (by omega) ?_
      by_cases heq : v / 64 ^ k = w / 64 ^ k
      · exact Or.inr ⟨by rw [heq], ih heq⟩
      · exact Or.inl (by omega)

/-- The first character that differs decides on the bytes, whatever follows. -/
theorem encode_lt_encode (h : c < d) :
    String.utf8EncodeChar c ++ as < String.utf8EncodeChar d ++ bs := by
  have hlt : c.val.toNat < d.val.toNat := UInt32.lt_iff_toNat_lt.mp (Char.lt_def.mp h)
  rw [encode_eq, encode_eq]
  refine cons_byte_lt (lead_lt (toNat_lt c)) (lead_lt (toNat_lt d)) ?_
  rcases lead_lt_or hlt (toNat_lt d) with hlead | ⟨hlead, hcount, hhigh⟩
  · exact Or.inl hlead
  · rw [← hcount]
    exact Or.inr ⟨hlead, sextets_lt hhigh hlt⟩

/-! ## Texts -/

/-- Texts in order have their bytes in order, since the first character that differs decides
both. -/
theorem flatMap_encode_lt {cs ds : List Char} (h : cs < ds) :
    cs.flatMap String.utf8EncodeChar < ds.flatMap String.utf8EncodeChar := by
  induction h with
  | nil =>
      rw [List.flatMap_cons, encode_eq]
      exact List.nil_lt_cons _ _
  | cons _ ih =>
      rw [List.flatMap_cons, List.flatMap_cons]
      exact List.append_left_lt ih
  | rel h =>
      rw [List.flatMap_cons, List.flatMap_cons]
      exact encode_lt_encode h

/-- Texts compare as the bytes that they are written as. -/
theorem bytes_lt_iff {s t : String} : bytes s < bytes t ↔ s < t := by
  have hmono : ∀ {s t : String}, s < t → bytes s < bytes t := fun h => by
    rw [bytes, bytes, toList_toUTF8, toList_toUTF8]
    exact flatMap_encode_lt (String.lt_iff_toList_lt.mp h)
  refine ⟨fun h => ?_, hmono⟩
  rcases lt_trichotomy s t with hlt | rfl | hgt
  · exact hlt
  · exact absurd h (List.lt_irrefl _)
  · exact absurd h (List.lt_asymm (hmono hgt))

end SchemaMigration.Utf8
