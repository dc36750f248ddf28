import Mathlib
import SchemaMigration.Text.Number

/-! # Numbers in text — reading undoes writing

    A number is written in decimal digits without a sign, and so it is read back
    if it fits (`unsigned?_toString`). -/

namespace SchemaMigration.Text

theorem digit?_of_isDigit {c : Char} (h : c.isDigit = true) :
    digit? c = some (c.toNat - '0'.toNat) := if_pos h

/-- Reading digits is evaluating them. -/
theorem digitsFrom_eq {cs : List Char} (h : ∀ c ∈ cs, c.isDigit = true) (value : Nat) :
    digitsFrom value cs = some (Nat.ofDigitChars 10 cs value) := by
  induction cs generalizing value with
  | nil => rfl
  | cons c rest ih =>
      obtain ⟨hc, hrest⟩ := List.forall_mem_cons.mp h
      rw [digitsFrom, digit?_of_isDigit hc]
      exact ih hrest _

theorem toList_toString (n : Nat) : (toString n).toList = Nat.toDigits 10 n := Nat.toList_repr

theorem isDigit_of_mem_toString {n : Nat} {c : Char} (h : c ∈ (toString n).toList) :
    c.isDigit = true :=
  Nat.isDigit_of_mem_toDigits (by decide) (by decide) (toList_toString n ▸ h)

/-- A character that is no digit stands nowhere in a number. -/
theorem ne_of_mem_toString {n : Nat} {c d : Char} (hd : d.isDigit = false)
    (hc : c ∈ (toString n).toList) : c ≠ d := by
  rintro rfl
  exact nomatch hd.symm.trans (isDigit_of_mem_toString hc)

/-- The digits of a number stand for it. -/
theorem digits?_toString (n : Nat) : digits? (toString n).toList = some n := by
  have hread := digitsFrom_eq (fun c => isDigit_of_mem_toString (n := n)) 0
  rw [toList_toString, Nat.ofDigitChars_toDigits (by decide) (by decide)] at hread
  rw [toList_toString]
  cases hcs : Nat.toDigits 10 n with
  | nil => exact absurd hcs Nat.toDigits_ne_nil
  | cons c rest =>
      rw [hcs] at hread
      exact hread

/-- A number starts with a digit. -/
theorem toString_cons (n : Nat) :
    ∃ c rest, (toString n).toList = c :: rest ∧ c.isDigit = true := by
  cases hcs : (toString n).toList with
  | nil => exact absurd (toList_toString n ▸ hcs) Nat.toDigits_ne_nil
  | cons c rest =>
      exact ⟨c, rest, rfl, isDigit_of_mem_toString (n := n) (hcs ▸ List.mem_cons_self)⟩

/-- A number is read back if it fits. -/
theorem unsigned?_toString (bits n : Nat) :
    unsigned? bits (toString n) = if n < 2 ^ bits then some n else none := by
  have hread := digits?_toString n
  obtain ⟨c, rest, hcs, hc⟩ := toString_cons n
  rw [hcs] at hread
  rw [unsigned?, hcs]
  split
  next heq =>
    obtain ⟨rfl, -⟩ := List.cons.inj heq
    exact absurd hc (by decide)
  next =>
    rw [hread, Option.filter_some, fitsUnsigned]
    simp only [decide_eq_true_eq, Nat.pow_eq]

end SchemaMigration.Text
