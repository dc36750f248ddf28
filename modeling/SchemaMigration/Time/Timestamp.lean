import SchemaMigration.Text.Column
import SchemaMigration.Text.Number

/-! # Points in time — reading and writing RFC 3339

    A ledger stores when a script was applied as text.  `Timestamp.read?` reads
    the RFC 3339 form, with a time offset, and `Timestamp.render` writes it in
    UTC with as many groups of three fractional digits as it needs.  A leap
    second is kept: it is second 59 with more than a second of nanoseconds. -/

namespace SchemaMigration

/-- A point in time: whole seconds since the start of 1970 in UTC, and
    nanoseconds, which exceed a second within a leap second. -/
structure Timestamp where
  seconds : Int
  nanoseconds : Nat
  deriving DecidableEq, Repr

/-- A day of the proleptic Gregorian calendar. -/
structure CivilDate where
  year : Int
  month : Nat
  day : Nat
  deriving DecidableEq, Repr

namespace CivilDate

/-- Whether a year has a 29 February. -/
def isLeap (year : Int) : Bool :=
  year % 4 == 0 && (year % 100 != 0 || year % 400 == 0)

/-- How many days a month has. -/
def daysIn (year : Int) (month : Nat) : Nat :=
  if month = 2 then if isLeap year then 29 else 28
  else if month = 4 ∨ month = 6 ∨ month = 9 ∨ month = 11 then 30
  else 31

/-- Days since 1 January 1970.  Years are counted from March, so that the leap
    day is the last of its year. -/
def toDays (date : CivilDate) : Int :=
  let y := if date.month ≤ 2 then date.year - 1 else date.year
  let era := y / 400
  let yearOfEra := y % 400
  let m := (date.month + 9) % 12
  let dayOfYear : Int := ((153 * m + 2) / 5 + date.day - 1 : Nat)
  let dayOfEra := yearOfEra * 365 + yearOfEra / 4 - yearOfEra / 100 + dayOfYear
  era * 146097 + dayOfEra - 719468

/-- The day that lies a number of days after 1 January 1970. -/
def ofDays (days : Int) : CivilDate :=
  let z := days + 719468
  let era := z / 146097
  let dayOfEra := z % 146097
  let yearOfEra := (dayOfEra - dayOfEra / 1460 + dayOfEra / 36524 - dayOfEra / 146096) / 365
  let dayOfYear := dayOfEra - (365 * yearOfEra + yearOfEra / 4 - yearOfEra / 100)
  let m := (5 * dayOfYear + 2) / 153
  let day := (dayOfYear - (153 * m + 2) / 5 + 1).toNat
  let month := (if m < 10 then m + 3 else m - 9).toNat
  ⟨yearOfEra + era * 400 + (if month ≤ 2 then 1 else 0), month, day⟩

/-- A year with at least four digits; outside 0 to 9999 it has its sign. -/
def yearText (year : Int) : String :=
  if year < 0 then "-" ++ Text.zeroPadded 4 year.natAbs
  else if year > 9999 then "+" ++ Text.zeroPadded 4 year.natAbs
  else Text.zeroPadded 4 year.natAbs

end CivilDate

namespace Timestamp

/-- The start of 1970, which stands for a time that cannot be read. -/
def epoch : Timestamp := ⟨0, 0⟩

/-- Reads exactly `n` digits. -/
def number? (n : Nat) (cs : List Char) : Option (Nat × List Char) :=
  if (cs.take n).length = n then (Text.digits? (cs.take n)).map fun v => (v, cs.drop n)
  else none

/-- Reads one of some characters. -/
def oneOf? (allowed : List Char) : List Char → Option (List Char)
  | c :: rest => if allowed.contains c then some rest else none
  | [] => none

/-- Reads an optional fraction of a second: nine digits count, more are skipped. -/
def fraction? : List Char → Option (Nat × List Char)
  | '.' :: rest =>
      let digits := rest.takeWhile Char.isDigit
      let kept := digits.take 9
      (Text.digits? kept).map fun v =>
        (v * Nat.pow 10 (9 - kept.length), rest.dropWhile Char.isDigit)
  | cs => some (0, cs)

/-- Reads a time offset in seconds: `Z`, or a sign, hours and minutes. -/
def offset? : List Char → Option (Int × List Char)
  | [] => none
  | c :: rest =>
      if c = 'Z' ∨ c = 'z' then some (0, rest)
      else do
        let negative := c = '-' ∨ c.toNat = 0x2212
        guard (c = '+' ∨ negative)
        let (hours, rest) ← number? 2 rest
        let rest ← oneOf? [':'] rest
        let (minutes, rest) ← number? 2 rest
        guard (minutes < 60 ∧ hours < 24)
        let seconds : Int := (hours * 3600 + minutes * 60 : Nat)
        pure (if negative then -seconds else seconds, rest)

/-- Reads a date and a time with an offset. -/
def read? (s : String) : Option Timestamp := do
  let (year, cs) ← number? 4 s.toList
  let cs ← oneOf? ['-'] cs
  let (month, cs) ← number? 2 cs
  let cs ← oneOf? ['-'] cs
  let (day, cs) ← number? 2 cs
  let cs ← oneOf? ['T', 't', ' '] cs
  let (hour, cs) ← number? 2 cs
  let cs ← oneOf? [':'] cs
  let (minute, cs) ← number? 2 cs
  let cs ← oneOf? [':'] cs
  let (second, cs) ← number? 2 cs
  let (nanoseconds, cs) ← fraction? cs
  let (offset, cs) ← offset? cs
  guard (cs.isEmpty ∧ 1 ≤ month ∧ month ≤ 12 ∧ 1 ≤ day ∧ day ≤ CivilDate.daysIn year month)
  guard (hour < 24 ∧ minute < 60 ∧ second ≤ 60)
  let days := CivilDate.toDays ⟨year, month, day⟩
  let leap := second = 60
  let clock : Int := (hour * 3600 + minute * 60 + (if leap then 59 else second) : Nat)
  pure ⟨days * 86400 + clock - offset, nanoseconds + (if leap then 1000000000 else 0)⟩

/-- The calendar day in UTC. -/
def date (t : Timestamp) : CivilDate :=
  CivilDate.ofDays (t.seconds / 86400)

/-- Hour, minute and second in UTC, as `hh:mm:ss`. -/
def clockText (t : Timestamp) : String :=
  let s := (t.seconds % 86400).toNat
  let second := s % 60 + t.nanoseconds / 1000000000
  Text.zeroPadded 2 (s / 3600) ++ ":" ++ Text.zeroPadded 2 (s / 60 % 60) ++ ":"
    ++ Text.zeroPadded 2 second

/-- The date as `yyyy-mm-dd`. -/
def dateText (t : Timestamp) : String :=
  let d := t.date
  CivilDate.yearText d.year ++ "-" ++ Text.zeroPadded 2 d.month ++ "-" ++ Text.zeroPadded 2 d.day

/-- The fraction of the second, in the fewest groups of three digits. -/
def fractionText (t : Timestamp) : String :=
  let n := t.nanoseconds % 1000000000
  if n = 0 then ""
  else if n % 1000000 = 0 then "." ++ Text.zeroPadded 3 (n / 1000000)
  else if n % 1000 = 0 then "." ++ Text.zeroPadded 6 (n / 1000)
  else "." ++ Text.zeroPadded 9 n

/-- The RFC 3339 form in UTC. -/
def render (t : Timestamp) : String :=
  t.dateText ++ "T" ++ t.clockText ++ t.fractionText ++ "Z"

/-- The RFC 3339 form in UTC without a fraction. -/
def renderSeconds (t : Timestamp) : String :=
  t.dateText ++ "T" ++ t.clockText ++ "Z"

/-- The form used in tables. -/
def renderTable (t : Timestamp) : String :=
  t.dateText ++ " " ++ t.clockText

end Timestamp

end SchemaMigration
