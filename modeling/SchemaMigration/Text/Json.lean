import SchemaMigration.Text.Escaped

/-! # JSON reports — values and their indented text -/

namespace SchemaMigration.Text

/-- The values a report is made of. -/
inductive Json where
  | text (s : String)
  | number (n : Nat)
  | list (items : List Json)
  | record (members : List (String × Json))

namespace Json

/-- Four hexadecimal digits. -/
def fourDigits (n : Nat) : String :=
  let digits := hexadecimal n
  String.ofList (List.replicate (4 - digits.length) '0') ++ digits

/-- One character inside a JSON string: only quotes, backslashes and controls are escaped. -/
def escapeChar (c : Char) : String :=
  if c = '"' then "\\\""
  else if c = '\\' then "\\\\"
  else if c = '\n' then "\\n"
  else if c = '\r' then "\\r"
  else if c = '\t' then "\\t"
  else if c.toNat = 8 then "\\b"
  else if c.toNat = 12 then "\\f"
  else if c.toNat < 0x20 then "\\u" ++ fourDigits c.toNat
  else String.singleton c

/-- A JSON string. -/
def quote (s : String) : String :=
  "\"" ++ String.join (s.toList.map escapeChar) ++ "\""

/-- A line break followed by the indentation of a depth. -/
def lineBreak (depth : Nat) : String :=
  "\n" ++ String.ofList (List.replicate (2 * depth) ' ')

mutual

/-- The value over several lines, two blanks for each level. -/
def pretty (depth : Nat) : Json → String
  | .text s => quote s
  | .number n => toString n
  | .list [] => "[]"
  | .list (item :: rest) =>
      "[" ++ lineBreak (depth + 1) ++ pretty (depth + 1) item
        ++ prettyItems (depth + 1) rest ++ lineBreak depth ++ "]"
  | .record [] => "\x7b\x7d"
  | .record ((name, value) :: rest) =>
      "\x7b" ++ lineBreak (depth + 1) ++ quote name ++ ": " ++ pretty (depth + 1) value
        ++ prettyMembers (depth + 1) rest ++ lineBreak depth ++ "\x7d"

/-- The items after the first one. -/
def prettyItems (depth : Nat) : List Json → String
  | [] => ""
  | item :: rest => "," ++ lineBreak depth ++ pretty depth item ++ prettyItems depth rest

/-- The members after the first one. -/
def prettyMembers (depth : Nat) : List (String × Json) → String
  | [] => ""
  | (name, value) :: rest =>
      "," ++ lineBreak depth ++ quote name ++ ": " ++ pretty depth value
        ++ prettyMembers depth rest

end

end Json

end SchemaMigration.Text
