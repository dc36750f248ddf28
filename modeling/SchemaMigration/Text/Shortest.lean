import SchemaMigration.Text.Number

/-! # Shortest decimals — the text of a binary floating-point number

    A finite number is `m * 2 ^ q`.  The reals that round to it form an interval
    around it, whose ends belong to it exactly when `m` is even.  On the grid of
    numbers with `n` significant digits only the two neighbours of the value can
    lie in the interval; the smallest `n` with a hit wins, and of two hits the
    nearer one.  The digits are written positionally, never with an exponent. -/

namespace SchemaMigration.Shortest

/-- A non-negative rational number with a positive denominator. -/
structure Ratio where
  num : Nat
  den : Nat

namespace Ratio

/-- Whether `a` is at most `b`. -/
def ble (a b : Ratio) : Bool := a.num * b.den ≤ b.num * a.den

/-- Whether `a` is less than `b`. -/
def blt (a b : Ratio) : Bool := a.num * b.den < b.num * a.den

/-- `n * 2 ^ q`. -/
def scaled (n : Nat) (q : Int) : Ratio :=
  if 0 ≤ q then ⟨n * Nat.pow 2 q.toNat, 1⟩ else ⟨n, Nat.pow 2 (-q).toNat⟩

/-- The number times a power of ten. -/
def shift (r : Ratio) (k : Int) : Ratio :=
  if 0 ≤ k then ⟨r.num * Nat.pow 10 k.toNat, r.den⟩
  else ⟨r.num, r.den * Nat.pow 10 (-k).toNat⟩

/-- The distance between two numbers. -/
def distance (a b : Ratio) : Ratio :=
  let x := a.num * b.den
  let y := b.num * a.den
  ⟨(x - y) + (y - x), a.den * b.den⟩

end Ratio

/-- How many decimal digits a number has. -/
def digitCount (n : Nat) : Nat := (Nat.toDigits 10 n).length

/-- The exponent of the leading digit of a positive number.  Every positive
    double is above `10 ^ -400`, so scaling by `10 ^ 400` leaves a whole part. -/
def magnitude (r : Ratio) : Int :=
  (digitCount (r.num * Nat.pow 10 400 / r.den) : Int) - 401

/-- A number and the interval of reals that round to it. -/
structure Rounded where
  value : Ratio
  low : Ratio
  high : Ratio
  closed : Bool

/-- Whether a number rounds to the value. -/
def Rounded.holds (v : Rounded) (r : Ratio) : Bool :=
  if v.closed then v.low.ble r && r.ble v.high else v.low.blt r && r.blt v.high

/-- The hit on the grid with the unit `10 ^ (-k)`, as a count of units. -/
def Rounded.onGrid (v : Rounded) (k : Int) : Option Nat :=
  let x := v.value.shift k
  let below := x.num / x.den
  let point (c : Nat) : Ratio := (Ratio.mk c 1).shift (-k)
  let hits := [below, below + 1].filter fun c => c != 0 && v.holds (point c)
  match hits with
  | [a, b] =>
      if ((point b).distance v.value).blt ((point a).distance v.value) then some b else some a
  | [a] => some a
  | _ => none

/-- The first grid with a hit, counted by significant digits: units and scale. -/
def Rounded.search (v : Rounded) (top : Int) : Nat → Nat → Nat × Int
  | 0, n => (0, (n : Int) - top)
  | fuel + 1, n =>
      let k := (n : Int) - top
      match v.onGrid k with
      | some c => (c, k)
      | none => v.search top fuel (n + 1)

/-- `units * 10 ^ (-k)` written positionally, without zeros at the end of the fraction. -/
def positional (units : Nat) (k : Int) : String :=
  if k ≤ 0 then toString (units * Nat.pow 10 (-k).toNat)
  else
    let places : Nat := k.toNat
    let whole : Nat := units / Nat.pow 10 places
    let below : Nat := units % Nat.pow 10 places
    let part := Nat.toDigits 10 below
    let padded := List.replicate (places - part.length) '0' ++ part
    let kept := (padded.reverse.dropWhile (· == '0')).reverse
    if kept.isEmpty then toString whole
    else toString whole ++ "." ++ String.ofList kept

/-- The text of a finite positive number `m * 2 ^ q`; `edge` says that the
    number below it is half as far away as the number above it. -/
def magnitudeText (m : Nat) (q : Int) (edge : Bool) : String :=
  let value := Ratio.scaled m q
  let high := Ratio.scaled (2 * m + 1) (q - 1)
  let low := if edge then Ratio.scaled (4 * m - 1) (q - 2) else Ratio.scaled (2 * m - 1) (q - 1)
  let v : Rounded := ⟨value, low, high, decide (m % 2 = 0)⟩
  let (units, k) := v.search (magnitude value) 18 0
  positional units k

/-- The text of a double. -/
def render (x : Float) : String :=
  let bits : Nat := x.toBits.toNat
  let sign := if bits / Nat.pow 2 63 = 1 then "-" else ""
  let exponent : Nat := bits / Nat.pow 2 52 % Nat.pow 2 11
  let fraction : Nat := bits % Nat.pow 2 52
  if exponent = 2047 then if fraction = 0 then sign ++ "inf" else "NaN"
  else if exponent = 0 then
    if fraction = 0 then sign ++ "0" else sign ++ magnitudeText fraction (-1074) false
  else
    sign ++ magnitudeText (Nat.pow 2 52 + fraction) ((exponent : Int) - 1075)
      (fraction = 0 ∧ exponent > 1)

/-- Reads the exponent after its letter. -/
def exponent? : List Char → Option Int
  | '-' :: rest => (Text.digits? rest).map fun n => -(n : Int)
  | '+' :: rest => (Text.digits? rest).map fun n => (n : Int)
  | cs => (Text.digits? cs).map fun n => (n : Int)

/-- The double nearest to `n * 10 ^ e`. -/
def nearest (n : Nat) (e : Int) : Float :=
  if e < 0 then Float.ofScientific n true e.natAbs else Float.ofScientific n false e.natAbs

/-- Reads a decimal without a sign. -/
def magnitude? (s : List Char) : Option Float :=
  let name := (s.map Char.toLower)
  if name = "inf".toList ∨ name = "infinity".toList then some (1.0 / 0.0)
  else if name = "nan".toList then some (0.0 / 0.0)
  else
    let mantissa := s.takeWhile fun c => c != 'e' && c != 'E'
    let whole := mantissa.takeWhile (· != '.')
    let part := (mantissa.drop whole.length).drop 1
    match Text.digits? (whole ++ part) with
    | none => none
    | some n =>
        match s.drop mantissa.length with
        | [] => some (nearest n (-(part.length : Int)))
        | _ :: rest => (exponent? rest).map fun e => nearest n (e - part.length)

/-- Reads a decimal. -/
def read? (s : String) : Option Float :=
  match s.toList with
  | '-' :: rest => (magnitude? rest).map fun x => -x
  | '+' :: rest => magnitude? rest
  | cs => magnitude? cs

end SchemaMigration.Shortest
