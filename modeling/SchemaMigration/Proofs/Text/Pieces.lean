import SchemaMigration.Proofs.Text.Quoted
import SchemaMigration.Rehearsal.Token

/-! # Pieces of a text — quoted values, and what stands outside of them

    A reader of statements goes from left to right.  Outside of quotes every character
    is taken as it is; a quote starts a value, which goes on up to the quote that ends it.
    The pieces found in this way are told without reading:

    * `pieces_eq_some_iff`: they are the only ones of which the text is written and that
      can be told apart in it;
    * `Delimited.of_pieces`: statements that are put together from pieces keep their
      values apart from everything else. -/

namespace SchemaMigration.Quoted

/-- The characters that start a quoted value. -/
def isQuote (c : Char) : Bool := c = '\'' ∨ c = '"' ∨ c = identifierQuote

/-- A character outside of quotes, or a quoted value. -/
inductive Piece where
  | plain (c : Char)
  | quoted (quote : Char) (value : List Char)
  deriving DecidableEq

namespace Piece

/-- The text of a piece. -/
def written : Piece → List Char
  | plain c => [c]
  | quoted quote value => write quote value

/-- The value of a quoted piece. -/
def value? : Piece → Option String
  | plain _ => none
  | quoted _ value => some (String.ofList value)

/-- The piece without its value: of a quoted one only its quotes are left. -/
def emptied : Piece → Piece
  | plain c => plain c
  | quoted quote _ => quoted quote []

end Piece

/-- The text of pieces. -/
def written (ps : List Piece) : List Char := ps.flatMap Piece.written

/-- The pieces of a text, read from left to right; `none` when a quoted value does not end. -/
def pieces (cs : List Char) : Option (List Piece) :=
  match cs with
  | [] => some []
  | c :: rest =>
      if isQuote c then
        match h : close c rest with
        | none => none
        | some (value, after) =>
            have : after.length < rest.length := close_length h
            (pieces after).map (.quoted c value :: ·)
      else (pieces rest).map (.plain c :: ·)
termination_by cs.length

/-- The values that a reader finds in a statement, in order. -/
def valuesIn (sql : String) : Option (List String) :=
  (pieces sql.toList).map fun ps => ps.filterMap Piece.value?

/-- What a reader finds in a statement beside the values. -/
def frameOf (sql : String) : Option (List Piece) :=
  (pieces sql.toList).map fun ps => ps.map Piece.emptied

/-- In statements about `α`, the reader finds the values, and everything else that it finds
    is the same wherever the form is the same. -/
structure Delimited {α β : Type} (statement : α → String) (values : α → List String)
    (form : α → β) : Prop where
  values : ∀ a, valuesIn (statement a) = some (values a)
  frame : ∀ a b, form a = form b → frameOf (statement a) = frameOf (statement b)

/-- The pieces can be told apart in their text: a character outside of quotes is none, and
    nothing that follows a value goes on with it. -/
def Separate : List Piece → Prop
  | [] => True
  | .plain c :: ps => isQuote c = false ∧ Separate ps
  | .quoted quote _ :: ps => isQuote quote = true ∧ (written ps).head? ≠ some quote ∧ Separate ps

variable {c quote : Char} {cs rest value after : List Char} {ps qs : List Piece}

/-! ## Reading pieces -/

theorem pieces_nil : pieces [] = some [] := by rw [pieces]

theorem pieces_plain (h : isQuote c = false) (rest : List Char) :
    pieces (c :: rest) = (pieces rest).map (.plain c :: ·) := by
  rw [pieces, h, if_neg Bool.false_ne_true]

/-- A quote and what it closes with are one piece. -/
theorem pieces_quoted (hquote : isQuote quote = true)
    (h : close quote rest = some (value, after)) :
    pieces (quote :: rest) = (pieces after).map (.quoted quote value :: ·) := by
  rw [pieces, if_pos hquote]
  split
  next heq => cases h.symm.trans heq
  next value' after' heq =>
    obtain ⟨rfl, rfl⟩ := Prod.mk.inj (Option.some.inj (h.symm.trans heq))
    rfl

theorem written_cons (p : Piece) (ps : List Piece) : written (p :: ps) = p.written ++ written ps :=
  List.flatMap_cons

/-- Pieces that can be told apart are found again. -/
theorem pieces_written (h : Separate ps) : pieces (written ps) = some ps := by
  induction ps with
  | nil => exact pieces_nil
  | cons p ps ih =>
      rw [written_cons]
      cases p with
      | plain c =>
          obtain ⟨hplain, hps⟩ := h
          rw [Piece.written, List.singleton_append, pieces_plain hplain, ih hps]
          rfl
      | quoted quote value =>
          obtain ⟨hquote, hhead, hps⟩ := h
          have hclose : close quote (double quote value ++ quote :: written ps)
              = some (value, written ps) := close_double value hhead
          rw [Piece.written, write, List.cons_append, List.append_assoc, List.singleton_append,
            pieces_quoted hquote hclose, ih hps]
          rfl

/-- The pieces of a text are the only ones that can be told apart and of which it is written. -/
theorem pieces_eq_some_iff : pieces cs = some ps ↔ Separate ps ∧ written ps = cs := by
  constructor
  · intro h
    -- The cases of the reader: the end, an open quote, a closed one, a plain character.
    fun_induction pieces cs generalizing ps with
    | case1 =>
        obtain rfl := Option.some.inj h
        exact ⟨trivial, rfl⟩
    | case2 => exact nomatch h
    | case3 quote rest hquote value after hclose hlt ih =>
        obtain ⟨qs, hqs, rfl⟩ := Option.map_eq_some_iff.mp h
        obtain ⟨hseparate, rfl⟩ := ih hqs
        obtain ⟨rfl, hhead⟩ := close_eq_some_iff.mp hclose
        refine ⟨⟨hquote, hhead, hseparate⟩, ?_⟩
        rw [written_cons, Piece.written, write, List.cons_append, List.append_assoc]
        rfl
    | case4 c rest hplain ih =>
        obtain ⟨qs, hqs, rfl⟩ := Option.map_eq_some_iff.mp h
        obtain ⟨hseparate, rfl⟩ := ih hqs
        exact ⟨⟨Bool.eq_false_iff.mpr hplain, hseparate⟩, written_cons _ _⟩
  · rintro ⟨h, rfl⟩
    exact pieces_written h

/-! ## Texts given by pieces -/

/-- A text outside of quotes. -/
def text (s : String) : List Piece := s.toList.map .plain

/-- A string as a quoted value. -/
def valued (quote : Char) (s : String) : Piece := .quoted quote s.toList

/-- No character of the text starts a value. -/
def Unquoted (s : String) : Prop := ∀ c ∈ s.toList, isQuote c = false

instance (s : String) : Decidable (Unquoted s) :=
  List.decidableBAll (fun c => isQuote c = false) s.toList

theorem Unquoted.append {s t : String} (hs : Unquoted s) (ht : Unquoted t) :
    Unquoted (s ++ t) := by
  rw [Unquoted, String.toList_append]
  exact List.forall_mem_append.mpr ⟨hs, ht⟩

theorem written_text_append (s : String) (ps : List Piece) :
    written (text s ++ ps) = s.toList ++ written ps := by
  rw [written, List.flatMap_append, text, List.flatMap_map]
  exact congrArg (· ++ written ps) (List.flatMap_singleton' s.toList)

theorem written_text (s : String) : written (text s) = s.toList := by
  rw [← List.append_nil (text s), written_text_append]
  exact List.append_nil s.toList

theorem written_valued_literal (s : String) : (valued '\'' s).written = (literal s).toList := by
  rw [literal, String.toList_ofList]
  rfl

theorem written_valued_identifier (s : String) :
    (valued identifierQuote s).written = (identifier s).toList := by
  rw [identifier, String.toList_ofList]
  rfl

/-- A text without quotes can stand in front of anything. -/
theorem separate_text_append {s : String} (h : Unquoted s) (hps : Separate ps) :
    Separate (text s ++ ps) := by
  rw [Unquoted] at h
  rw [text]
  generalize s.toList = cs at h
  induction cs with
  | nil => exact hps
  | cons c cs ih =>
      obtain ⟨hc, hcs⟩ := List.forall_mem_cons.mp h
      exact ⟨hc, ih hcs⟩

/-- A value ends a text. -/
theorem separate_valued (hquote : isQuote quote = true) (s : String) :
    Separate [valued quote s] := ⟨hquote, nofun, trivial⟩

/-- A text without quotes ends a value in front of it. -/
theorem separate_valued_text {t : String} (hquote : isQuote quote = true) (s : String)
    (h : Unquoted t) (hne : t ≠ "") (hps : Separate ps) :
    Separate (valued quote s :: (text t ++ ps)) := by
  refine ⟨hquote, fun hhead => ?_, separate_text_append h hps⟩
  rw [written_text_append] at hhead
  cases ht : t.toList with
  | nil => exact hne (String.toList_eq_nil_iff.mp ht)
  | cons c cs =>
      rw [ht] at hhead
      have hc := h c (ht ▸ List.mem_cons_self)
      rw [Option.some.inj hhead, hquote] at hc
      exact nomatch hc

/-- A value is apart from the plain text that ends the statement. -/
theorem separate_valued_last {t : String} (hquote : isQuote quote = true) (s : String)
    (h : Unquoted t) (hne : t ≠ "") : Separate (valued quote s :: text t) := by
  rw [← List.append_nil (text t)]
  exact separate_valued_text hquote s h hne trivial

theorem filterMap_value?_text (s : String) : (text s).filterMap Piece.value? = [] := by
  rw [text, List.filterMap_map]
  exact List.filterMap_eq_nil_iff.mpr fun c _ => rfl

/-- A quoted value is carried in its place. -/
theorem filterMap_value?_valued (quote : Char) (s : String) (ps : List Piece) :
    (valued quote s :: ps).filterMap Piece.value? = s :: ps.filterMap Piece.value? := by
  rw [List.filterMap_cons_some (b := s)]
  show some (String.ofList s.toList) = some s
  rw [String.ofList_toList]

/-- Statements are delimited when they are written from pieces that can be told apart. -/
theorem Delimited.of_pieces {α β : Type} {statement : α → String} {values : α → List String}
    {form : α → β} (parts : α → List Piece) (hseparate : ∀ a, Separate (parts a))
    (hwritten : ∀ a, written (parts a) = (statement a).toList)
    (hvalues : ∀ a, (parts a).filterMap Piece.value? = values a)
    (hframe : ∀ a b, form a = form b →
      (parts a).map Piece.emptied = (parts b).map Piece.emptied) :
    Delimited statement values form := by
  have hpieces (a : α) : pieces (statement a).toList = some (parts a) :=
    pieces_eq_some_iff.mpr ⟨hseparate a, hwritten a⟩
  refine ⟨fun a => ?_, fun a b h => ?_⟩
  · rw [valuesIn, hpieces, Option.map_some, hvalues]
  · rw [frameOf, frameOf, hpieces, hpieces, Option.map_some, Option.map_some, hframe a b h]

end SchemaMigration.Quoted
