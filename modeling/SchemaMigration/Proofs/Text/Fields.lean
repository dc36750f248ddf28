import Mathlib.Data.List.Basic
import SchemaMigration.Text.Fields

/-! # Fields and lines — cutting undoes joining

    Pieces that hold no separator are found again in the text that joins them, and
    cutting any text gives such pieces.  So the fields of a text are the only pieces
    without separators that it joins (`split_eq_iff`).  Lines are cut in the same way,
    at line feeds (`lines_append_cons`). -/

namespace SchemaMigration.Text

variable {sep : Char}

/-! ## Fields -/

/-- Cutting at a separator between two texts. -/
theorem fields_append_cons (as bs : List Char) :
    fields sep (as ++ sep :: bs) = fields sep as ++ fields sep bs := by
  induction as with
  | nil => exact if_pos rfl
  | cons c rest ih =>
      rw [List.cons_append, fields, fields]
      by_cases hc : c = sep
      · rw [if_pos hc, if_pos hc, ih]
        rfl
      · rw [if_neg hc, if_neg hc, ih]
        cases hf : fields sep rest with
        | nil => exact absurd hf (fields_ne_nil sep rest)
        | cons first others => rfl

/-- A text without separators is one piece. -/
theorem fields_of_notMem {cs : List Char} (h : sep ∉ cs) : fields sep cs = [cs] := by
  induction cs with
  | nil => rfl
  | cons c rest ih =>
      obtain ⟨hc, hrest⟩ : sep ≠ c ∧ sep ∉ rest := by simpa using h
      rw [fields, if_neg (Ne.symm hc), ih hrest]

/-- Pieces that hold no separator are found again. -/
theorem fields_intercalate {pieces : List (List Char)} (hne : pieces ≠ [])
    (h : ∀ piece ∈ pieces, sep ∉ piece) : fields sep ([sep].intercalate pieces) = pieces := by
  induction pieces with
  | nil => exact absurd rfl hne
  | cons piece rest ih =>
      have hpiece := fields_of_notMem (h piece List.mem_cons_self)
      cases rest with
      | nil =>
          rw [List.intercalate, List.intersperse_singleton, List.flatten_singleton]
          exact hpiece
      | cons next rest =>
          have hrest := ih (List.cons_ne_nil _ _) fun q hq => h q (List.mem_cons_of_mem _ hq)
          have hsplit : [sep].intercalate (piece :: next :: rest)
              = piece ++ sep :: [sep].intercalate (next :: rest) := by
            rw [List.intercalate, List.intersperse_cons_cons]
            rfl
          rw [hsplit, fields_append_cons, hpiece, hrest]
          rfl

/-- No piece holds a separator. -/
theorem notMem_of_mem_fields {cs piece : List Char} (h : piece ∈ fields sep cs) : sep ∉ piece := by
  induction cs generalizing piece with
  | nil =>
      rw [List.mem_singleton.mp h]
      exact List.not_mem_nil
  | cons c rest ih =>
      rw [fields] at h
      by_cases hc : c = sep
      · rw [if_pos hc] at h
        rcases List.mem_cons.mp h with rfl | hrest
        · exact List.not_mem_nil
        · exact ih hrest
      · rw [if_neg hc] at h
        -- The character in front becomes the first one of the first piece.
        cases hf : fields sep rest with
        | nil => exact absurd hf (fields_ne_nil sep rest)
        | cons first others =>
            rw [hf] at h ih
            rcases List.mem_cons.mp h with rfl | hothers
            · rw [List.mem_cons, not_or]
              exact ⟨Ne.symm hc, ih List.mem_cons_self⟩
            · exact ih (List.mem_cons_of_mem _ hothers)

/-- The characters of a piece are characters of the text. -/
theorem mem_of_mem_fields {cs piece : List Char} {c : Char} (h : piece ∈ fields sep cs)
    (hc : c ∈ piece) : c ∈ cs := by
  induction cs generalizing piece with
  | nil =>
      rw [List.mem_singleton.mp h] at hc
      exact nomatch hc
  | cons d rest ih =>
      rw [fields] at h
      by_cases hd : d = sep
      · rw [if_pos hd] at h
        rcases List.mem_cons.mp h with rfl | hrest
        · exact nomatch hc
        · exact List.mem_cons_of_mem d (ih hrest hc)
      · rw [if_neg hd] at h
        -- A character that does not separate goes in front of the first piece of the rest.
        cases hf : fields sep rest with
        | nil => exact absurd hf (fields_ne_nil sep rest)
        | cons first others =>
            rw [hf] at h ih
            rcases List.mem_cons.mp h with rfl | hothers
            · rcases List.mem_cons.mp hc with rfl | hfirst
              · exact List.mem_cons_self
              · exact List.mem_cons_of_mem d (ih List.mem_cons_self hfirst)
            · exact List.mem_cons_of_mem d (ih (List.mem_cons_of_mem _ hothers) hc)

/-- Joining is the intercalation of the library. -/
theorem join_eq_intercalate (sep : List Char) (pieces : List (List Char)) :
    join sep pieces = sep.intercalate pieces := by
  induction pieces with
  | nil => rfl
  | cons first rest ih =>
      cases rest with
      | nil =>
          rw [List.intercalate_singleton]
          rfl
      | cons next rest =>
          rw [List.intercalate_cons_cons, ← ih]
          rfl

/-- The fields of a text are the only pieces without separators that it joins. -/
theorem fields_eq_iff {cs : List Char} {pieces : List (List Char)} : fields sep cs = pieces
    ↔ pieces ≠ [] ∧ (∀ piece ∈ pieces, sep ∉ piece) ∧ [sep].intercalate pieces = cs := by
  constructor
  · rintro rfl
    refine ⟨fields_ne_nil sep cs, fun _ => notMem_of_mem_fields, ?_⟩
    rw [← join_eq_intercalate, join_fields]
  · rintro ⟨hne, hplain, rfl⟩
    exact fields_intercalate hne hplain

theorem map_ofList_map_toList (parts : List String) :
    (parts.map String.toList).map String.ofList = parts := by
  rw [List.map_map]
  exact (List.map_congr_left fun _ _ => String.ofList_toList).trans (List.map_id parts)

/-- Cutting a text gives some parts exactly if none of them has the separator and joined they
are the text. -/
theorem split_eq_iff {s : String} {parts : List String} : split sep s = parts
    ↔ parts ≠ [] ∧ (∀ part ∈ parts, sep ∉ part.toList)
      ∧ String.intercalate (String.singleton sep) parts = s := by
  have hcut : split sep s = parts ↔ fields sep s.toList = parts.map String.toList := by
    rw [split]
    nth_rewrite 1 [← map_ofList_map_toList parts]
    exact (List.map_injective_iff.mpr fun _ _ => String.ofList_inj.mp).eq_iff
  rw [hcut, fields_eq_iff, ne_eq, List.map_eq_nil_iff, List.forall_mem_map, ← String.toList_inj,
    String.toList_intercalate, String.toList_singleton]

/-! ## Lines -/

section

variable {line : List Char}

/-- A line that is not the last ends at its newline, with a carriage return or without. -/
theorem linesOfPieces_cons (line : List Char) {pieces : List (List Char)} (h : pieces ≠ []) :
    linesOfPieces (line :: pieces) = dropReturn line :: linesOfPieces pieces := by
  cases pieces with
  | nil => exact absurd rfl h
  | cons next pieces => rfl

/-- A line feed ends a line. -/
theorem lines_append_cons (h : '\n' ∉ line) (rest : List Char) :
    lines (line ++ '\n' :: rest) = dropReturn line :: lines rest := by
  rw [lines, fields_append_cons, fields_of_notMem h, List.singleton_append,
    linesOfPieces_cons line (fields_ne_nil _ _), lines]

theorem dropReturn_eq_self (h : line.getLast? ≠ some '\r') : dropReturn line = line := by
  rw [← List.head?_reverse] at h
  rw [dropReturn]
  split
  · next before heq =>
      rw [heq] at h
      exact absurd rfl h
  · rfl

theorem dropReturn_concat (line : List Char) : dropReturn (line ++ ['\r']) = line := by
  rw [dropReturn, List.reverse_concat]
  exact List.reverse_reverse line

/-- A line is kept whole exactly if it does not end with a carriage return. -/
theorem dropReturn_eq_self_iff : dropReturn line = line ↔ line.getLast? ≠ some '\r' := by
  refine ⟨fun h hlast => ?_, dropReturn_eq_self⟩
  obtain ⟨front, rfl⟩ := List.getLast?_eq_some_iff.mp hlast
  rw [dropReturn_concat] at h
  exact absurd (congrArg List.length h) (by simp)

/-- Dropping a carriage return adds no character. -/
theorem mem_of_mem_dropReturn {c : Char} (h : c ∈ dropReturn line) : c ∈ line := by
  by_cases hlast : line.getLast? = some '\r'
  · obtain ⟨front, rfl⟩ := List.getLast?_eq_some_iff.mp hlast
    rw [dropReturn_concat] at h
    exact List.mem_append_left _ h
  · rwa [dropReturn_eq_self hlast] at h

/-- A line has no newline in it. -/
theorem notMem_of_mem_linesOfPieces {pieces : List (List Char)}
    (hpieces : ∀ piece ∈ pieces, '\n' ∉ piece) (h : line ∈ linesOfPieces pieces) :
    '\n' ∉ line := by
  fun_induction linesOfPieces pieces with
  | case1 => exact nomatch h
  | case2 last hempty => exact nomatch h
  | case3 last hfull =>
      rw [List.mem_singleton.mp h]
      exact hpieces last List.mem_cons_self
  | case4 first rest hrest ih =>
      obtain ⟨hfirst, hrest⟩ := List.forall_mem_cons.mp hpieces
      rcases List.mem_cons.mp h with rfl | hmem
      · exact fun hc => hfirst (mem_of_mem_dropReturn hc)
      · exact ih hrest hmem

/-- No line holds a line feed. -/
theorem notMem_of_mem_lines {cs : List Char} (h : line ∈ lines cs) : '\n' ∉ line :=
  notMem_of_mem_linesOfPieces (fun _ => notMem_of_mem_fields) h

end

end SchemaMigration.Text
