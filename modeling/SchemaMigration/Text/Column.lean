/-! # Columns — text filled up to a width

    Widths count characters; a text that is already wider stays as it is. -/

namespace SchemaMigration.Text

/-- The text, filled with `fill` on the right. -/
def padRight (fill : Char) (width : Nat) (s : String) : String :=
  s ++ String.ofList (List.replicate (width - s.length) fill)

/-- The text, filled with `fill` on the left. -/
def padLeft (fill : Char) (width : Nat) (s : String) : String :=
  String.ofList (List.replicate (width - s.length) fill) ++ s

/-- A number with at least `width` digits. -/
def zeroPadded (width n : Nat) : String :=
  padLeft '0' width (toString n)

/-- The first seven bytes of a text, or all of it when that would cut a
    character or the text is shorter. -/
def shortened (s : String) : String :=
  let rec go (left : Nat) : List Char → Option (List Char)
    | [] => if left = 0 then some [] else none
    | c :: rest =>
        if left = 0 then some []
        else if left < c.utf8Size then none
        else (go (left - c.utf8Size) rest).map (c :: ·)
  match go 7 s.toList with
  | some cs => String.ofList cs
  | none => s

end SchemaMigration.Text
