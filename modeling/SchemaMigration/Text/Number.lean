/-! # Whole numbers in text — unsigned, with a bound

    Counters and times come back from a store as text.  A text is a number when
    it is a run of the digits `0` to `9`, with at most a plus sign before it,
    and its value fits the width of the column. -/

namespace SchemaMigration.Text

/-- The value of a decimal digit. -/
def digit? (c : Char) : Option Nat :=
  if c.isDigit then some (c.toNat - '0'.toNat) else none

/-- Reads digits after a value. -/
def digitsFrom (value : Nat) : List Char → Option Nat
  | [] => some value
  | c :: rest => (digit? c).bind fun d => digitsFrom (10 * value + d) rest

/-- Reads a non-empty run of digits. -/
def digits? : List Char → Option Nat
  | [] => none
  | cs => digitsFrom 0 cs

/-- Whether a number fits a column of some bits without a sign. -/
def fitsUnsigned (bits n : Nat) : Bool := n < Nat.pow 2 bits

/-- Whether a number fits a column of some bits with a sign. -/
def fitsSigned (bits : Nat) (i : Int) : Bool :=
  let half : Nat := Nat.pow 2 (bits - 1)
  decide (-(half : Int) ≤ i ∧ i < half)

/-- Reads an unsigned number below `2 ^ bits`, with an optional plus sign. -/
def unsigned? (bits : Nat) (s : String) : Option Nat :=
  let body :=
    match s.toList with
    | '+' :: rest => rest
    | cs => cs
  (digits? body).filter (fitsUnsigned bits)

end SchemaMigration.Text
