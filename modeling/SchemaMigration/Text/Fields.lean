/-! # Fields and lines — cutting a text at separators

    `fields sep` cuts at every separator and keeps empty fields, so joining the
    fields gives the text back.  `lines` cuts at line feeds, drops a carriage
    return before each of them, and does not count an empty last line. -/

namespace SchemaMigration.Text

/-- The pieces between separators; a text without separators is one piece. -/
def fields (sep : Char) : List Char → List (List Char)
  | [] => [[]]
  | c :: rest =>
      if c = sep then [] :: fields sep rest
      else
        match fields sep rest with
        | [] => [[c]]
        | first :: others => (c :: first) :: others

/-- The pieces written one after another with a separator between them. -/
def join (sep : List Char) : List (List Char) → List Char
  | [] => []
  | [only] => only
  | first :: rest => first ++ sep ++ join sep rest

/-- There is always at least one field. -/
theorem fields_ne_nil (sep : Char) (cs : List Char) : fields sep cs ≠ [] := by
  induction cs with
  | nil => simp [fields]
  | cons c rest ih =>
      unfold fields
      split
      · simp
      · split <;> simp

/-- Cutting loses nothing. -/
theorem join_fields (sep : Char) (cs : List Char) : join [sep] (fields sep cs) = cs := by
  induction cs with
  | nil => rfl
  | cons c rest ih =>
      unfold fields
      split
      · next h =>
          cases hf : fields sep rest with
          | nil => exact absurd hf (fields_ne_nil sep rest)
          | cons first others => rw [hf] at ih; simp [join, ih, h]
      · cases hf : fields sep rest with
          | nil => exact absurd hf (fields_ne_nil sep rest)
          | cons first others =>
              rw [hf] at ih
              cases others with
              | nil => simpa [join] using ih
              | cons second others => simpa [join] using ih

/-- A line without the carriage return that ends it. -/
def dropReturn (line : List Char) : List Char :=
  match line.reverse with
  | '\r' :: before => before.reverse
  | _ => line

/-- The lines among pieces cut at line feeds: only a piece that a line feed
    ended loses its carriage return, and an empty piece at the end is no line. -/
def linesOfPieces : List (List Char) → List (List Char)
  | [] => []
  | [last] => if last.isEmpty then [] else [last]
  | line :: rest => dropReturn line :: linesOfPieces rest

/-- The lines of a text. -/
def lines (cs : List Char) : List (List Char) :=
  linesOfPieces (fields '\n' cs)

/-- The fields of a string. -/
def split (sep : Char) (s : String) : List String :=
  (fields sep s.toList).map String.ofList

/-- The lines of a string. -/
def linesOf (s : String) : List String :=
  (lines s.toList).map String.ofList

end SchemaMigration.Text
