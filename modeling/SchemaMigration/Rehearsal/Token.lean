import SchemaMigration.Text.Blank
import SchemaMigration.Text.Quoted

/-! # Tokens — the words, literals and marks of a statement

    A word is a run of ASCII letters, digits, underscores and hyphens.  A
    literal stands between single quotes and writes a quote twice.  White space
    separates tokens and every other character is a mark. -/

namespace SchemaMigration.Quoted

/-- Closing a literal uses up at least its quote. -/
theorem close_length {quote : Char} {cs value after : List Char}
    (h : close quote cs = some (value, after)) : after.length < cs.length := by
  fun_induction close quote cs generalizing value after with
  | case1 => simp at h
  | case2 => simp at h; simp [← h.2]
  | case3 => simp at h
  | case4 rest ih =>
      simp only [Option.map_eq_some_iff] at h
      obtain ⟨⟨v, a⟩, hv, he⟩ := h
      simp only [Prod.mk.injEq] at he
      have := ih hv
      simp [← he.2]; omega
  | case5 => simp at h; simp [← h.2]
  | case6 c d rest hc ih =>
      simp only [Option.map_eq_some_iff] at h
      obtain ⟨⟨v, a⟩, hv, he⟩ := h
      simp only [Prod.mk.injEq] at he
      have := ih hv
      simp at this
      simp [← he.2]; omega

end SchemaMigration.Quoted

namespace SchemaMigration.Rehearsal

/-- One piece of a statement. -/
inductive Token where
  | word (text : String)
  | literal (value : String)
  | mark (symbol : Char)
  deriving DecidableEq, Repr

/-- The characters of words. -/
def isWordChar (c : Char) : Bool :=
  c.isAlphanum || c == '_' || c == '-'

/-- Dropping characters never adds any. -/
theorem length_dropWhile_le (p : Char → Bool) (cs : List Char) :
    (cs.dropWhile p).length ≤ cs.length := by
  induction cs with
  | nil => simp
  | cons c rest ih =>
      unfold List.dropWhile
      split
      · simp; omega
      · simp

/-- The tokens of a statement; `none` when a literal does not end. -/
def tokens (cs : List Char) : Option (List Token) :=
  match cs with
  | [] => some []
  | c :: rest =>
      if c = '\'' then
        match h : Quoted.close '\'' rest with
        | none => none
        | some (value, after) =>
            have : after.length < rest.length := Quoted.close_length h
            (tokens after).map (.literal (String.ofList value) :: ·)
      else if isWordChar c then
        have : (rest.dropWhile isWordChar).length ≤ rest.length := length_dropWhile_le _ _
        (tokens (rest.dropWhile isWordChar)).map
          (.word (String.ofList (c :: rest.takeWhile isWordChar)) :: ·)
      else if Text.isBlank c then tokens rest
      else (tokens rest).map (.mark c :: ·)
termination_by cs.length

/-- The words among tokens. -/
def wordsOf (ts : List Token) : List String :=
  ts.filterMap fun t =>
    match t with
    | .word text => some text
    | _ => none

/-- The word in capital letters. -/
def upper (s : String) : String :=
  String.ofList (s.toList.map Char.toUpper)

/-- The values among tokens: literals, and words as they stand. -/
def valuesOf (ts : List Token) : List String :=
  ts.filterMap fun t =>
    match t with
    | .word text => some text
    | .literal value => some value
    | .mark _ => none

/-- The tokens after the first word that reads `keyword` in capital letters. -/
def afterWord (keyword : String) (ts : List Token) : List Token :=
  (ts.dropWhile fun t =>
    match t with
    | .word text => upper text ≠ keyword
    | _ => true).drop 1

/-- The tokens before the first word that reads `keyword` in capital letters. -/
def beforeWord (keyword : String) (ts : List Token) : List Token :=
  ts.takeWhile fun t =>
    match t with
    | .word text => upper text ≠ keyword
    | _ => true

end SchemaMigration.Rehearsal
