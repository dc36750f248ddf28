/-! # UTF-8 — bytes as text

    `decode` reads bytes one at a time.  A lead byte opens a character and says
    which bytes may continue it; a byte that may not closes the open character
    as broken and is read afresh.  So each broken piece is the longest prefix of
    some character, which is what a lossy reading replaces by one mark. -/

namespace SchemaMigration.Utf8

/-- A character that is still being read: the bits so far, how many bytes are
    missing, and the range of the next one. -/
structure Open where
  bits : Nat
  missing : Nat
  low : Nat
  high : Nat

/-- The character that a lead byte opens. -/
def opened (b : Nat) : Option Open :=
  if 0xC2 ≤ b && b ≤ 0xDF then some ⟨b - 0xC0, 1, 0x80, 0xBF⟩
  else if b = 0xE0 then some ⟨0, 2, 0xA0, 0xBF⟩
  else if b = 0xED then some ⟨0xD, 2, 0x80, 0x9F⟩
  else if 0xE1 ≤ b && b ≤ 0xEF then some ⟨b - 0xE0, 2, 0x80, 0xBF⟩
  else if b = 0xF0 then some ⟨0, 3, 0x90, 0xBF⟩
  else if b = 0xF4 then some ⟨4, 3, 0x80, 0x8F⟩
  else if 0xF1 ≤ b && b ≤ 0xF3 then some ⟨b - 0xF0, 3, 0x80, 0xBF⟩
  else none

/-- Reads a byte outside any character: what it completes (`none` marks a broken
    piece) and what it opens. -/
def start (b : Nat) : List (Option Char) × Option Open :=
  if b < 0x80 then ([some (Char.ofNat b)], none)
  else
    match opened b with
    | some o => ([], some o)
    | none => ([none], none)

/-- Reads a byte inside an open character. -/
def extend (o : Open) (b : Nat) : List (Option Char) × Option Open :=
  if o.low ≤ b && b ≤ o.high then
    let bits := o.bits * 64 + (b - 0x80)
    if o.missing = 1 then ([some (Char.ofNat bits)], none)
    else ([], some ⟨bits, o.missing - 1, 0x80, 0xBF⟩)
  else
    let (done, next) := start b
    (none :: done, next)

/-- The characters of the bytes, with `none` for each broken piece. -/
def pieces : Option Open → List UInt8 → List (Option Char)
  | none, [] => []
  | some _, [] => [none]
  | none, b :: rest =>
      let (done, next) := start b.toNat
      done ++ pieces next rest
  | some o, b :: rest =>
      let (done, next) := extend o b.toNat
      done ++ pieces next rest

/-- The text of the bytes, if they are UTF-8. -/
def decode? (bytes : ByteArray) : Option String :=
  ((pieces none bytes.toList).mapM id).map String.ofList

/-- The mark that stands for a broken piece. -/
def replacement : Char := Char.ofNat 0xFFFD

/-- The text of the bytes, with one mark for each broken piece. -/
def decodeLossy (bytes : ByteArray) : String :=
  String.ofList ((pieces none bytes.toList).map fun c => c.getD replacement)

end SchemaMigration.Utf8
