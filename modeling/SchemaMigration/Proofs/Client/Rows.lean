import SchemaMigration.Proofs.Client.Batch

/-! # Rows on lines — which rows are read back from them

    Rows are printed on a line each, with a tab between the cells.  Reading drops a
    carriage return at the end of a line and every empty line, so some rows are not
    read back.  Which ones is told by the rows alone:

    * `rowsOf_printed` reads back the rows that their lines carry;
    * `plain_of_mem_rowsOf`: whatever text is read, no other cells come out;
    * `carried_of_rowsOf_printed`: rows that are read back are carried by their lines.

    So there is one condition (`readRows_plainOutput_iff`), and empty cells meet it unless
    one of them is the whole row. -/

namespace SchemaMigration.Client

variable {row : List (List Char)} {rows : List (List (List Char))} {text : List Char}

/-! ## What reading can find -/

theorem lineOf_fields (line : List Char) : lineOf (Text.fields '\t' line) = line := by
  rw [lineOf, ← Text.join_eq_intercalate, Text.join_fields]

/-- Every row that is read has a cell that is not its whole line, and no cell holds what ends
    a cell or a line. -/
theorem plain_of_mem_rowsOf (h : row ∈ rowsOf text) :
    row ≠ [] ∧ row ≠ [[]] ∧ ∀ cell ∈ row, '\t' ∉ cell ∧ '\n' ∉ cell := by
  obtain ⟨line, hline, rfl⟩ := List.mem_map.mp h
  obtain ⟨hmem, hfull⟩ := List.mem_filter.mp hline
  refine ⟨Text.fields_ne_nil _ _, fun hblank => ?_, fun cell hcell => ⟨?_, ?_⟩⟩
  · have hempty : line = [] := by rw [← lineOf_fields line, hblank]; rfl
    rw [hempty] at hfull
    exact nomatch hfull
  · exact Text.notMem_of_mem_fields hcell
  · exact fun hc => Text.notMem_of_mem_lines hmem (Text.mem_of_mem_fields hcell hc)

/-! ## What is read back -/

/-- A line ends as its last cell does. -/
theorem getLast?_lineOf_of_cell {cell : List Char} {c : Char} (hcell : cell ∈ row.getLast?)
    (hlast : cell.getLast? = some c) : (lineOf row).getLast? = some c := by
  induction row with
  | nil => exact nomatch hcell
  | cons first row ih =>
      cases row with
      | nil =>
          obtain rfl := Option.some.inj hcell
          rw [lineOf, List.intercalate_singleton]
          exact hlast
      | cons next row =>
          rw [List.getLast?_cons_cons] at hcell
          rw [lineOf_cons_cons, List.getLast?_append, List.getLast?_cons, ih hcell]
          rfl

/-- Rows that are read back are carried by their lines. -/
theorem carried_of_rowsOf_printed (h : rowsOf (printed rows) = rows) :
    ∀ row ∈ rows, Carried row := by
  have hplain : ∀ row ∈ rows, row ≠ [] ∧ row ≠ [[]] ∧ ∀ cell ∈ row, '\t' ∉ cell ∧ '\n' ∉ cell := by
    intro row hrow
    rw [← h] at hrow
    exact plain_of_mem_rowsOf hrow
  -- So each row has a line of its own, and none of these lines was dropped as empty.
  have hlines := lines_printed fun row hrow cell hcell => ((hplain row hrow).2.2 cell hcell).2
  rw [rowsOf, hlines] at h
  have hlength := congrArg List.length h
  rw [List.length_map, ← List.length_map (fun row => Text.dropReturn (lineOf row))] at hlength
  have hkept := List.filter_eq_self.mpr (List.length_filter_eq_length_iff.mp hlength)
  rw [hkept, List.map_map] at h
  have hcells := List.map_inj_left.mp (h.trans (List.map_id rows).symm)
  intro row hrow
  obtain ⟨hexists, hblank, hcell⟩ := hplain row hrow
  refine ⟨hexists, hblank, hcell, fun cell hmem hreturn => ?_⟩
  -- The cells of the shortened line are those of the row, so nothing was cut off.
  have hwhole : Text.dropReturn (lineOf row) = lineOf row := by
    rw [← lineOf_fields (Text.dropReturn (lineOf row))]
    exact congrArg lineOf (hcells row hrow)
  exact Text.dropReturn_eq_self_iff.mp hwhole (getLast?_lineOf_of_cell hmem hreturn)

theorem rowsOf_printed_iff : rowsOf (printed rows) = rows ↔ ∀ row ∈ rows, Carried row :=
  ⟨carried_of_rowsOf_printed, rowsOf_printed⟩

/-! ## Rows of strings -/

/-- The text of rows with every cell as it is. -/
def plainOutput (rows : List Row) : String :=
  String.ofList (printed (rows.map fun row => row.map String.toList))

theorem readRows_plainOutput_eq_iff {rows : List Row} : readRows (plainOutput rows) = rows
    ↔ rowsOf (printed (rows.map fun row => row.map String.toList))
      = rows.map fun row => row.map String.toList := by
  have hrows : (rows.map fun row => row.map String.toList).map
      (fun row => row.map String.ofList) = rows := by
    rw [List.map_map]
    exact (List.map_congr_left fun row _ => Text.map_ofList_map_toList row).trans (List.map_id rows)
  have hinjective : Function.Injective (List.map (List.map String.ofList)) :=
    List.map_injective_iff.mpr (List.map_injective_iff.mpr fun _ _ => String.ofList_inj.mp)
  rw [readRows, plainOutput, String.toList_ofList]
  nth_rewrite 2 [← hrows]
  exact hinjective.eq_iff

/-- Several empty cells are a row like any other. -/
theorem carried_replicate (n : Nat) : Carried (List.replicate (n + 2) []) where
  exists_cell := List.cons_ne_nil _ _
  not_blank := nofun
  plain := by
    intro cell hcell
    rw [List.eq_of_mem_replicate hcell]
    exact ⟨List.not_mem_nil, List.not_mem_nil⟩
  ending := by
    intro cell hcell
    rw [List.eq_of_mem_replicate (List.mem_of_getLast? hcell)]
    nofun

/-- Rows are read back from their lines exactly if every row has a cell and is not one empty
    cell, no cell holds a tab or a line feed, and no last cell ends with a carriage return.
    So a row of several empty cells keeps them all. -/
theorem readRows_plainOutput_iff (rows : List Row) :
    (readRows (plainOutput rows) = rows ↔ ∀ row ∈ rows, Carried (row.map String.toList))
      ∧ ∀ n, readRows (plainOutput [List.replicate (n + 2) ""]) = [List.replicate (n + 2) ""] := by
  have hiff : ∀ rows : List Row, readRows (plainOutput rows) = rows
      ↔ ∀ row ∈ rows, Carried (row.map String.toList) := by
    intro rows
    rw [readRows_plainOutput_eq_iff, rowsOf_printed_iff, List.forall_mem_map]
  refine ⟨hiff rows, fun n => (hiff _).mpr fun row hrow => ?_⟩
  rw [List.mem_singleton.mp hrow, List.map_replicate]
  exact carried_replicate n

/-- Empty cells keep their columns in front, between others and at the end. -/
example : readRows (plainOutput [["", "a", "", "b", ""]]) = [["", "a", "", "b", ""]] := by
  decide +kernel

end SchemaMigration.Client
