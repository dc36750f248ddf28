import Mathlib
import SchemaMigration.Proofs.Text.Number
import SchemaMigration.Proofs.Text.Quoted
import SchemaMigration.Rehearsal.Token

/-! # Tokens of composed texts — reading part by part

    A statement is put together from fixed words, quoted values and numbers, and it
    is read part by part as long as no token can reach over a border:

    * `Apart`: white space or a mark stands on one side of the border;
    * `tokens_append`: the tokens of two parts that are apart are those of the first
      and then those of the second;
    * `Reads`: a text with its tokens, and one rule for each kind of part that may follow. -/

namespace SchemaMigration.Rehearsal

variable {front rest : List Char} {ts us : List Token}

/-! ## One token -/

theorem tokens_nil : tokens [] = some [] := by rw [tokens]

/-- A quote and what it closes with are one literal. -/
theorem tokens_quote {value after : List Char}
    (h : Quoted.close '\'' rest = some (value, after)) :
    tokens ('\'' :: rest) = (tokens after).map (.literal (String.ofList value) :: ·) := by
  rw [tokens, if_pos rfl]
  split
  next heq => cases h.symm.trans heq
  next value' after' heq =>
    obtain ⟨rfl, rfl⟩ := Prod.mk.inj (Option.some.inj (h.symm.trans heq))
    rfl

theorem ne_quote_of_isWordChar {c : Char} (h : isWordChar c = true) : c ≠ '\'' := by
  rintro rfl
  exact absurd h (by decide)

/-- A word goes on as long as its characters do. -/
theorem tokens_word {c : Char} (h : isWordChar c = true) (rest : List Char) :
    tokens (c :: rest) = (tokens (rest.dropWhile isWordChar)).map
      (.word (String.ofList (c :: rest.takeWhile isWordChar)) :: ·) := by
  rw [tokens, if_neg (ne_quote_of_isWordChar h), if_pos h]

/-- The character is white space or a mark, and so belongs to no word and no literal. -/
def separates (c : Char) : Bool := c ≠ '\'' && !isWordChar c

theorem not_separates_of_isWordChar {c : Char} (h : isWordChar c = true) :
    separates c = false := by
  rw [separates, h, Bool.not_true, Bool.and_false]

/-! ## Parts -/

/-- No token reaches over the border of two parts: a separator stands on one side. -/
def Apart (front rest : List Char) : Prop :=
  ∀ c ∈ front.getLast?, ∀ d ∈ rest.head?, separates c = true ∨ separates d = true

/-- Texts are apart if the first ends in a separator. -/
theorem Apart.of_last (h : ∀ c ∈ front.getLast?, separates c = true) (rest : List Char) :
    Apart front rest := fun c hc _ _ => Or.inl (h c hc)

/-- Texts are apart if the second starts with a separator. -/
theorem Apart.of_head (h : ∀ d ∈ rest.head?, separates d = true) (front : List Char) :
    Apart front rest := fun _ _ d hd => Or.inr (h d hd)

/-- What stands in front of the first text does not matter to whether the two are apart. -/
theorem Apart.of_append {start : List Char} (h : Apart (start ++ front) rest) :
    Apart front rest := by
  intro c hc
  refine h c ?_
  rw [List.getLast?_append, Option.mem_def.mp hc]
  rfl

/-- What follows a part that does not end with a separator starts with one. -/
theorem Apart.starts (h : Apart front rest) {c : Char} (hc : front.getLast? = some c)
    (hnot : separates c = false) : ∀ d ∈ rest.head?, separates d = true := by
  intro d hd
  refine (h c hc d hd).resolve_left ?_
  rw [hnot]
  exact Bool.false_ne_true

/-- A word ends within its part, or a separator starts what follows. -/
theorem word_append {c : Char} (hc : isWordChar c = true) (hapart : Apart (c :: front) rest) :
    (front ++ rest).takeWhile isWordChar = front.takeWhile isWordChar
      ∧ (front ++ rest).dropWhile isWordChar = front.dropWhile isWordChar ++ rest := by
  -- By induction on what is left of the word: it ends inside the front, or where the texts meet.
  induction front generalizing c with
  | nil =>
      have hstarts := hapart.starts (c := c) rfl (not_separates_of_isWordChar hc)
      cases rest with
      | nil => exact ⟨rfl, rfl⟩
      | cons d rest =>
          have hd : isWordChar d = false := by
            have := hstarts d rfl
            rw [separates, Bool.and_eq_true, Bool.not_eq_true'] at this
            exact this.2
          simp [hd]
  | cons d front ih =>
      by_cases hd : isWordChar d = true
      · have hbehind : Apart ([c] ++ d :: front) rest := hapart
        obtain ⟨htake, hdrop⟩ := ih hd hbehind.of_append
        simp [hd, htake, hdrop]
      · simp [hd]

/-- The tokens of two parts that are apart are those of the one and those of the other. -/
theorem tokens_append (h : tokens front = some ts) (hapart : Apart front rest) :
    tokens (front ++ rest) = (tokens rest).map (ts ++ ·) := by
  -- By the reader's own recursion, as only the last token of the front can meet the border.
  fun_induction tokens front generalizing ts with
  | case1 =>
      obtain rfl := Option.some.inj h
      exact Option.map_id'.symm
  | case2 => exact nomatch h
  | case3 cs value after hclose hlt ih =>
      obtain ⟨us, hus, rfl⟩ := Option.map_eq_some_iff.mp h
      obtain ⟨rfl, hafter⟩ := Quoted.close_eq_some_iff.mp hclose
      -- The closing quote is the last character of the part or is followed by others there.
      have hbehind : (after ++ rest).head? ≠ some '\'' := by
        cases after with
        | nil =>
            intro hhead
            have hlast : ('\'' :: Quoted.double '\'' value ++ ['\'']).getLast? = some '\'' :=
              List.getLast?_concat
            exact absurd (hapart.starts hlast (by decide) '\'' hhead) (by decide)
        | cons c after => exact hafter
      have hsplit : Apart (('\'' :: Quoted.double '\'' value ++ ['\'']) ++ after) rest := by
        simpa using hapart
      rw [List.cons_append, List.append_assoc, List.cons_append,
        tokens_quote (Quoted.close_double value hbehind), ih hus hsplit.of_append, Option.map_map]
      rfl
  | case4 c cs hquote hword hlt ih =>
      obtain ⟨us, hus, rfl⟩ := Option.map_eq_some_iff.mp h
      obtain ⟨htake, hdrop⟩ := word_append hword hapart
      have hsplit : Apart ((c :: cs.takeWhile isWordChar) ++ cs.dropWhile isWordChar) rest := by
        simpa using hapart
      rw [List.cons_append, tokens_word hword, htake, hdrop, ih hus hsplit.of_append,
        Option.map_map]
      rfl
  | case5 c cs hquote hword hblank ih =>
      have hsplit : Apart ([c] ++ cs) rest := hapart
      rw [List.cons_append, tokens, if_neg hquote, if_neg hword, if_pos hblank,
        ih h hsplit.of_append]
  | case6 c cs hquote hword hblank ih =>
      obtain ⟨us, hus, rfl⟩ := Option.map_eq_some_iff.mp h
      have hsplit : Apart ([c] ++ cs) rest := hapart
      rw [List.cons_append, tokens, if_neg hquote, if_neg hword, if_neg hblank,
        ih hus hsplit.of_append, Option.map_map]
      rfl

/-! ## Growing texts -/

/-- The text is read as some tokens. -/
def Reads (text : String) (ts : List Token) : Prop := tokens text.toList = some ts

/-- The text starts with a separator. -/
def Starts (text : String) : Prop := text.toList.head?.any separates = true

/-- The text ends with a separator. -/
def Ends (text : String) : Prop := text.toList.getLast?.any separates = true

instance (text : String) : Decidable (Starts text) := inferInstanceAs (Decidable (_ = true))
instance (text : String) : Decidable (Ends text) := inferInstanceAs (Decidable (_ = true))

/-- What ends the last part ends the text. -/
theorem Ends.append {part : String} (h : Ends part) (text : String) : Ends (text ++ part) := by
  rw [Ends, String.toList_append, List.getLast?_append]
  cases hlast : part.toList.getLast? with
  | none =>
      rw [Ends, hlast] at h
      exact nomatch h
  | some c =>
      rw [Ends, hlast] at h
      exact h

namespace Reads

variable {text part : String}

/-- Texts that are apart are read one behind the other. -/
theorem append (h : Reads text ts) (hpart : Reads part us)
    (hapart : Apart text.toList part.toList) : Reads (text ++ part) (ts ++ us) := by
  rw [Reads, String.toList_append, tokens_append h hapart, hpart]
  rfl

/-- A text grows by words that start with a separator. -/
theorem words (h : Reads text ts) (hpart : Reads part us) (hstarts : Starts part) :
    Reads (text ++ part) (ts ++ us) := by
  refine h.append hpart (.of_head (fun d hd => ?_) _)
  rw [Starts, Option.mem_def.mp hd] at hstarts
  exact hstarts

/-- A text that ends with a separator grows by anything. -/
theorem behind (h : Reads text ts) (hends : Ends text) (hpart : Reads part us) :
    Reads (text ++ part) (ts ++ us) := by
  refine h.append hpart (.of_last (fun d hd => ?_) _)
  rw [Ends, Option.mem_def.mp hd] at hends
  exact hends

/-- A literal is read as the value that it was written for. -/
theorem of_literal (value : String) : Reads (Quoted.literal value) [.literal value] := by
  have hclose : Quoted.close '\'' (Quoted.double '\'' value.toList ++ ['\''])
      = some (value.toList, []) :=
    Quoted.close_double value.toList nofun
  rw [Reads, Quoted.literal, String.toList_ofList, Quoted.write, tokens_quote hclose, tokens_nil,
    String.ofList_toList]
  rfl

/-- A number is read as one word. -/
theorem of_number (n : Nat) : Reads (toString n) [.word (toString n)] := by
  have hword : ∀ c ∈ (toString n).toList, isWordChar c = true := by
    intro c hc
    have hdigit := Text.isDigit_of_mem_toString hc
    rw [isWordChar, Char.isAlphanum, hdigit]
    simp
  obtain ⟨c, rest, hcs, -⟩ := Text.toString_cons n
  rw [hcs] at hword
  obtain ⟨hc, hrest⟩ := List.forall_mem_cons.mp hword
  have hdrop : rest.dropWhile isWordChar = [] := List.dropWhile_eq_nil_iff.mpr hrest
  have htake : rest.takeWhile isWordChar = rest := List.takeWhile_eq_self_iff.mpr hrest
  rw [Reads, hcs, tokens_word hc, hdrop, htake, tokens_nil, ← hcs, String.ofList_toList]
  rfl

/-- A text that ends with a separator grows by a value. -/
theorem literal (h : Reads text ts) (hends : Ends text) (value : String) :
    Reads (text ++ Quoted.literal value) (ts ++ [.literal value]) :=
  h.behind hends (of_literal value)

/-- A text that ends with a separator grows by a number. -/
theorem number (h : Reads text ts) (hends : Ends text) (n : Nat) :
    Reads (text ++ toString n) (ts ++ [.word (toString n)]) :=
  h.behind hends (of_number n)

end Reads

end SchemaMigration.Rehearsal
