/-! # Blank characters — what trimming removes

    Field values, kind names and operator answers lose the white space around
    them.  White space is the Unicode property of that name, so no-break and
    ideographic spaces count and the zero-width space does not. -/

namespace SchemaMigration.Text

/-- The characters with the Unicode property White_Space. -/
def isBlank (c : Char) : Bool :=
  let n := c.toNat
  (9 ≤ n && n ≤ 13) || n == 0x20 || n == 0x85 || n == 0xA0 || n == 0x1680
    || (0x2000 ≤ n && n ≤ 0x200A) || n == 0x2028 || n == 0x2029 || n == 0x202F
    || n == 0x205F || n == 0x3000

/-- The characters without the blanks before the first non-blank one. -/
def trimStart : List Char → List Char :=
  List.dropWhile isBlank

/-- The characters without the blanks after the last non-blank one. -/
def trimEnd (cs : List Char) : List Char :=
  (cs.reverse.dropWhile isBlank).reverse

/-- The text without the blanks at its two ends. -/
def trim (s : String) : String :=
  String.ofList (trimEnd (trimStart s.toList))

/-- Lower case for the letters `A` to `Z`; every other character stays. -/
def lowerAscii (s : String) : String :=
  String.ofList (s.toList.map Char.toLower)

/-- Whether two texts are equal up to the case of the letters `A` to `Z`. -/
def equalIgnoringCase (s t : String) : Bool :=
  lowerAscii s == lowerAscii t

/-- Whether `part` occurs in `cs`. -/
def occursIn (part : List Char) : List Char → Bool
  | [] => part.isEmpty
  | c :: rest => part.isPrefixOf (c :: rest) || occursIn part rest

/-- Whether `part` occurs in `s`. -/
def contains (s part : String) : Bool :=
  occursIn part.toList s.toList

end SchemaMigration.Text
