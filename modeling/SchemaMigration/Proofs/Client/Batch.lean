import SchemaMigration.Client.Database
import SchemaMigration.Proofs.Text.Fields
import SchemaMigration.Proofs.Text.Utf8

/-! # Batch output — rows on lines, cells between tabs

    A client in batch mode prints one line for each row, with a tab between the cells,
    and writes the characters that would be mistaken for these as pairs that start with
    a backslash.  Reading cuts at line ends and tabs, and leaves the pairs as they are:

    * `rowsOf_printed`: rows that their lines carry are read back;
    * `carried_map_shownCell`: what the client prints is such rows;
    * `readRows_shown`: so what is read of a cell is the cell as it was shown. -/

namespace SchemaMigration.Client

/-! ## Rows on lines -/

/-- The line of a row, without the line feed that ends it. -/
def lineOf (row : List (List Char)) : List Char := ['\t'].intercalate row

/-- The text of rows, one after another. -/
def printed (rows : List (List (List Char))) : List Char :=
  rows.flatMap fun row => lineOf row ++ ['\n']

/-- A row that its line carries: nothing in the cells ends a cell or a line, the line is not
    taken for no row, and it ends with nothing that is taken for its end. -/
structure Carried (row : List (List Char)) : Prop where
  exists_cell : row ≠ []
  not_blank : row ≠ [[]]
  plain : ∀ cell ∈ row, '\t' ∉ cell ∧ '\n' ∉ cell
  ending : ∀ cell ∈ row.getLast?, cell.getLast? ≠ some '\r'

section

variable {row : List (List Char)}

theorem lineOf_cons_cons (cell next : List Char) (row : List (List Char)) :
    lineOf (cell :: next :: row) = cell ++ '\t' :: lineOf (next :: row) := by
  rw [lineOf, List.intercalate_cons_cons, List.append_assoc]
  rfl

/-- A line of cells without newlines has none. -/
theorem newline_notMem_lineOf (h : ∀ cell ∈ row, '\n' ∉ cell) : '\n' ∉ lineOf row := by
  induction row with
  | nil => exact List.not_mem_nil
  | cons cell row ih =>
      obtain ⟨hcell, hrow⟩ := List.forall_mem_cons.mp h
      cases row with
      | nil =>
          rw [lineOf, List.intercalate_singleton]
          exact hcell
      | cons next row =>
          rw [lineOf_cons_cons, List.mem_append, List.mem_cons]
          rintro (hfirst | htab | hrest)
          · exact hcell hfirst
          · exact absurd htab (by decide)
          · exact ih hrow hrest

/-- A line is empty only for no cells, or for a single empty one. -/
theorem lineOf_ne_nil (hcells : row ≠ []) (hblank : row ≠ [[]]) : lineOf row ≠ [] := by
  cases row with
  | nil => exact absurd rfl hcells
  | cons cell row =>
      cases row with
      | nil =>
          rw [lineOf, List.intercalate_singleton]
          rintro rfl
          exact hblank rfl
      | cons next row =>
          rw [lineOf_cons_cons]
          exact List.append_ne_nil_of_right_ne_nil _ (List.cons_ne_nil _ _)

/-- A line ends in a carriage return only if its last cell does. -/
theorem getLast?_lineOf (h : ∀ cell ∈ row.getLast?, cell.getLast? ≠ some '\r') :
    (lineOf row).getLast? ≠ some '\r' := by
  induction row with
  | nil => nofun
  | cons cell row ih =>
      cases row with
      | nil =>
          rw [lineOf, List.intercalate_singleton]
          exact h cell rfl
      | cons next row =>
          rw [List.getLast?_cons_cons] at h
          rw [lineOf_cons_cons, List.getLast?_append, List.getLast?_cons]
          -- The last character is one of the last cell, or the tab in front of it if that cell is
          -- empty.
          cases hlast : (lineOf (next :: row)).getLast? with
          | none =>
              show some '\t' ≠ some '\r'
              decide
          | some c =>
              rw [hlast] at ih
              exact ih h

/-- Rows whose cells hold no line feed are on a line each, up to a carriage return at its end. -/
theorem lines_printed {rows : List (List (List Char))}
    (h : ∀ row ∈ rows, ∀ cell ∈ row, '\n' ∉ cell) :
    Text.lines (printed rows) = rows.map fun row => Text.dropReturn (lineOf row) := by
  induction rows with
  | nil => rfl
  | cons row rows ih =>
      obtain ⟨hrow, hrows⟩ := List.forall_mem_cons.mp h
      rw [printed, List.flatMap_cons, List.append_assoc, List.singleton_append,
        Text.lines_append_cons (newline_notMem_lineOf hrow)]
      exact congrArg (Text.dropReturn (lineOf row) :: ·) (ih hrows)

/-- Rows that their lines carry are read back. -/
theorem rowsOf_printed {rows : List (List (List Char))} (h : ∀ row ∈ rows, Carried row) :
    rowsOf (printed rows) = rows := by
  have hlines : Text.lines (printed rows) = rows.map lineOf :=
    (lines_printed fun row hrow cell hcell => ((h row hrow).plain cell hcell).2).trans
      (List.map_congr_left fun row hrow =>
        Text.dropReturn_eq_self (getLast?_lineOf (h row hrow).ending))
  have hkept : (rows.map lineOf).filter (fun line => !line.isEmpty) = rows.map lineOf := by
    refine List.filter_eq_self.mpr (List.forall_mem_map.mpr fun row hrow => ?_)
    rw [Bool.not_eq_true', List.isEmpty_eq_false_iff]
    exact lineOf_ne_nil (h row hrow).exists_cell (h row hrow).not_blank
  have hcells : ∀ row ∈ rows, Text.fields '\t' (lineOf row) = row := fun row hrow =>
    Text.fields_intercalate (h row hrow).exists_cell fun cell hcell =>
      ((h row hrow).plain cell hcell).1
  rw [rowsOf, hlines, hkept, List.map_map]
  exact (List.map_congr_left hcells).trans (List.map_id _)

end

/-! ## Cells as they are shown -/

/-- The character that no text for a program may hold. -/
def nul : Char := Char.ofNat 0

/-- A character of a cell as the client shows it. -/
def shownChar (c : Char) : List Char :=
  if c = '\t' then ['\\', 't']
  else if c = '\n' then ['\\', 'n']
  else if c = '\\' then ['\\', '\\']
  else if c = nul then ['\\', '0']
  else [c]

/-- A cell as the client shows it. -/
def shownCell (cell : List Char) : List Char := cell.flatMap shownChar

/-- A text as the client shows it in a cell. -/
def shown (text : String) : String := String.ofList (shownCell text.toList)

/-- What the client prints for rows in batch mode. -/
def batchOutput (rows : List Row) : String :=
  String.ofList (printed (rows.map fun row => row.map fun cell => shownCell cell.toList))

theorem shownCell_singleton (c : Char) : shownCell [c] = shownChar c := by
  rw [shownCell, List.flatMap_singleton]

theorem shownCell_append (cell more : List Char) :
    shownCell (cell ++ more) = shownCell cell ++ shownCell more := List.flatMap_append

/-- Every other character is shown as it is. -/
theorem shownChar_of_ne {c : Char} (htab : c ≠ '\t') (hline : c ≠ '\n') (hslash : c ≠ '\\')
    (hnul : c ≠ nul) : shownChar c = [c] := by
  rw [shownChar, if_neg htab, if_neg hline, if_neg hslash, if_neg hnul]

/-- Whatever the character, neither a tab nor a newline is shown for it. -/
theorem notMem_shownChar (c : Char) : '\t' ∉ shownChar c ∧ '\n' ∉ shownChar c := by
  rw [shownChar]
  by_cases htab : c = '\t'
  · rw [if_pos htab]
    decide
  by_cases hline : c = '\n'
  · rw [if_neg htab, if_pos hline]
    decide
  by_cases hslash : c = '\\'
  · rw [if_neg htab, if_neg hline, if_pos hslash]
    decide
  by_cases hnul : c = nul
  · rw [if_neg htab, if_neg hline, if_neg hslash, if_pos hnul]
    decide
  · rw [if_neg htab, if_neg hline, if_neg hslash, if_neg hnul, List.mem_singleton,
      List.mem_singleton]
    exact ⟨Ne.symm htab, Ne.symm hline⟩

/-- Neither a tab nor a newline is shown in a cell. -/
theorem notMem_shownCell (cell : List Char) : '\t' ∉ shownCell cell ∧ '\n' ∉ shownCell cell := by
  constructor <;> intro h
  · obtain ⟨c, -, hc⟩ := List.mem_flatMap.mp h
    exact (notMem_shownChar c).1 hc
  · obtain ⟨c, -, hc⟩ := List.mem_flatMap.mp h
    exact (notMem_shownChar c).2 hc

/-- A row of several cells is carried by its line if its last cell ends a line. -/
theorem carried_map_shownCell {row : List (List Char)} (hcells : 2 ≤ row.length)
    (hending : ∀ cell ∈ row.getLast?, (shownCell cell).getLast? ≠ some '\r') :
    Carried (row.map shownCell) where
  exists_cell := by
    rintro h
    rw [List.map_eq_nil_iff.mp h] at hcells
    exact absurd hcells (by decide)
  not_blank := by
    intro h
    have hlength := congrArg List.length h
    rw [List.length_map] at hlength
    rw [hlength] at hcells
    exact absurd hcells (by decide)
  plain := List.forall_mem_map.mpr fun cell _ => notMem_shownCell cell
  ending := by
    intro cell hcell
    rw [List.getLast?_map] at hcell
    obtain ⟨last, hlast, rfl⟩ := Option.map_eq_some_iff.mp hcell
    exact hending last hlast

/-- What is read of printed rows is the cells as they were shown. -/
theorem readRows_shown {rows : List Row} (h : ∀ row ∈ rows,
    Carried (row.map fun cell => shownCell cell.toList)) :
    readRows (batchOutput rows) = rows.map fun row => row.map shown := by
  rw [readRows, batchOutput, String.toList_ofList, rowsOf_printed (List.forall_mem_map.mpr h),
    List.map_map]
  refine List.map_congr_left fun row _ => ?_
  exact List.map_map

end SchemaMigration.Client
