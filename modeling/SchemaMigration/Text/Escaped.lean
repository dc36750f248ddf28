import SchemaMigration.Text.Invisible

/-! # Diagnostic text — a string as a quoted literal

    Connection parameters are shown to developers in quotes.  Quotes and
    backslashes get a backslash, the common controls their letter, and every
    other character without a visible form its number in braces. -/

namespace SchemaMigration.Text

/-- A number in lower-case hexadecimal digits. -/
def hexadecimal (n : Nat) : String :=
  String.ofList (Nat.toDigits 16 n)

/-- The diagnostic form of one character. -/
def escapeChar (c : Char) : String :=
  if c = '"' then "\\\""
  else if c = '\\' then "\\\\"
  else if c = '\n' then "\\n"
  else if c = '\r' then "\\r"
  else if c = '\t' then "\\t"
  else if c.toNat = 0 then "\\0"
  else if Invisible.contains c then "\\u\x7b" ++ hexadecimal c.toNat ++ "\x7d"
  else String.singleton c

/-- The diagnostic form of a string, in double quotes. -/
def diagnostic (s : String) : String :=
  "\"" ++ String.join (s.toList.map escapeChar) ++ "\""

end SchemaMigration.Text
