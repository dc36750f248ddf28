import SchemaMigration.Text.Quoted

/-! # Quoting — reading undoes writing

    A quote inside a value is written twice, so a reader that meets a quote has to
    look at the next character: two quotes belong to the value, one alone ends it.
    That is enough to tell the end of every value, whatever quotes it is made of:

    * `close_eq_some_iff`: what is read up to the closing quote is what was doubled,
      and no third quote can follow;
    * `read_write_eq_some_iff`: a written value is read back, and reading stops right
      behind it, exactly where no quote comes next. -/

namespace SchemaMigration.Quoted

variable {quote : Char} {value cs after rest : List Char}

/-! ## One step of reading -/

/-- A quote that no quote follows ends the value. -/
theorem close_end (h : rest.head? ≠ some quote) : close quote (quote :: rest) = some ([], rest) := by
  cases rest with
  | nil => rw [close, if_pos rfl]
  | cons c rest => rw [close, if_pos rfl, if_neg fun hc => h (congrArg some hc)]

/-- Two quotes stand for one. -/
theorem close_twice (quote : Char) (rest : List Char) :
    close quote (quote :: quote :: rest)
      = (close quote rest).map fun (value, after) => (quote :: value, after) := by
  rw [close, if_pos rfl, if_pos rfl]

/-- Every other character stands for itself. -/
theorem close_other {c : Char} (hc : c ≠ quote) (rest : List Char) :
    close quote (c :: rest)
      = (close quote rest).map fun (value, after) => (c :: value, after) := by
  cases rest with
  | nil => simp [close, hc]
  | cons d rest => rw [close, if_neg hc]

/-! ## Whole values -/

/-- What was doubled is read back up to the quote that ends it. -/
theorem close_double (value : List Char) (h : rest.head? ≠ some quote) :
    close quote (double quote value ++ quote :: rest) = some (value, rest) := by
  induction value with
  | nil => exact close_end h
  | cons c value ih =>
      rw [double]
      by_cases hc : c = quote
      · rw [if_pos hc, List.cons_append, List.cons_append, close_twice, ih, hc]
        rfl
      · rw [if_neg hc, List.cons_append, close_other hc, ih]
        rfl

/-- Reading up to the closing quote finds a doubled value, and no quote behind it. -/
theorem close_eq_some_iff :
    close quote cs = some (value, after)
      ↔ cs = double quote value ++ quote :: after ∧ after.head? ≠ some quote := by
  constructor
  · intro h
    -- A lone quote ends the value, a second one behind it belongs to the value.
    fun_induction close quote cs generalizing value after with
    | case1 => exact nomatch h
    | case2 =>
        obtain ⟨rfl, rfl⟩ := Prod.mk.inj (Option.some.inj h)
        exact ⟨rfl, nofun⟩
    | case3 => exact nomatch h
    | case4 rest ih =>
        obtain ⟨⟨inner, behind⟩, hinner, heq⟩ := Option.map_eq_some_iff.mp h
        obtain ⟨rfl, rfl⟩ := Prod.mk.inj heq
        obtain ⟨rfl, hbehind⟩ := ih hinner
        exact ⟨by rw [double, if_pos rfl]; rfl, hbehind⟩
    | case5 d rest hd =>
        obtain ⟨rfl, rfl⟩ := Prod.mk.inj (Option.some.inj h)
        exact ⟨rfl, fun heq => hd (Option.some.inj heq)⟩
    | case6 c d rest hc ih =>
        obtain ⟨⟨inner, behind⟩, hinner, heq⟩ := Option.map_eq_some_iff.mp h
        obtain ⟨rfl, rfl⟩ := Prod.mk.inj heq
        obtain ⟨hcs, hbehind⟩ := ih hinner
        exact ⟨by rw [double, if_neg hc, hcs]; rfl, hbehind⟩
  · rintro ⟨rfl, hafter⟩
    exact close_double value hafter

/-- A written value is read back, and reading stops right behind it, unless a quote is there. -/
theorem read_write_eq_some_iff :
    read quote (write quote value ++ rest) = some (value, rest) ↔ rest.head? ≠ some quote := by
  rw [write, List.cons_append, List.append_assoc, read, if_pos rfl, close_eq_some_iff]
  exact and_iff_right rfl

end SchemaMigration.Quoted
