/-! # Quoted text — a quote inside is written twice

    SQL string literals and identifiers are delimited by a quote character, and
    a quote inside the value is doubled.  `double` writes the inside, `close`
    reads it up to the quote that ends it. -/

namespace SchemaMigration.Quoted

/-- The value with every quote doubled. -/
def double (quote : Char) : List Char → List Char
  | [] => []
  | c :: rest => if c = quote then quote :: quote :: double quote rest else c :: double quote rest

/-- Reads the inside of a quoted text up to the quote that ends it: the value
    and what follows.  `none` when no quote ends it. -/
def close (quote : Char) : List Char → Option (List Char × List Char)
  | [] => none
  | [c] => if c = quote then some ([], []) else none
  | c :: d :: rest =>
      if c = quote then
        if d = quote then (close quote rest).map fun (value, after) => (quote :: value, after)
        else some ([], d :: rest)
      else (close quote (d :: rest)).map fun (value, after) => (c :: value, after)

/-- Reads a quoted text that starts with its opening quote. -/
def read (quote : Char) : List Char → Option (List Char × List Char)
  | [] => none
  | c :: rest => if c = quote then close quote rest else none

/-- The value between two quotes. -/
def write (quote : Char) (value : List Char) : List Char :=
  quote :: (double quote value ++ [quote])

/-- The inside of an SQL string literal. -/
def escape (value : String) : String :=
  String.ofList (double '\'' value.toList)

/-- An SQL string literal. -/
def literal (value : String) : String :=
  String.ofList (write '\'' value.toList)

/-- The quote around identifiers. -/
def identifierQuote : Char := Char.ofNat 0x60

/-- An identifier in the client's dialect. -/
def identifier (name : String) : String :=
  String.ofList (write identifierQuote name.toList)

end SchemaMigration.Quoted
