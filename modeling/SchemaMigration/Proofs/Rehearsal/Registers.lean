import SchemaMigration.Proofs.Ledger.Register
import SchemaMigration.Proofs.Rehearsal.Rows

/-! # Registers — the rows of the rehearsal store as a finite map

    The rows of the ledger table stand for a register as long as their states and
    counters can be read.  The statement of a change then does to the rows what the
    change does to the register, and nothing to the rows of other paths:

    * `Stores` relates rows and registers;
    * `Stores.lists`, `Stores.counterOfRows_selected`: what is read from the rows;
    * `run_enters`: what the statement of a change does to them. -/

namespace SchemaMigration.Rehearsal

open Ledger Program Update

variable {r : StoredRecord} {rows after : List StoredRecord} {held : Register}

/-! ## Rows and registers -/

/-- The holding that a row stands for, if its state and its counter can be read. -/
def StoredRecord.holding? (r : StoredRecord) : Option Holding :=
  (RecordState.ofColumn? r.state).bind fun state =>
    (Text.unsigned? 32 r.missingRuns).map fun n => ⟨r.hash, state, n⟩

theorem StoredRecord.holding?_eq_some_iff {h : Holding} :
    r.holding? = some h ↔ r.hash = h.hash ∧ RecordState.ofColumn? r.state = some h.state
      ∧ Text.unsigned? 32 r.missingRuns = some h.missingRuns := by
  obtain ⟨hash, state, n⟩ := h
  simp only [holding?, Option.bind_eq_some_iff, Option.map_eq_some_iff, Holding.mk.injEq]
  constructor
  · rintro ⟨state, hstate, n, hn, rfl, rfl, rfl⟩
    exact ⟨rfl, hstate, hn⟩
  · rintro ⟨rfl, hstate, hn⟩
    exact ⟨state, hstate, n, hn, rfl, rfl, rfl⟩

/-- A row that stands for a holding is read as it. -/
theorem StoredRecord.holding_record {h : Holding} (hr : r.holding? = some h) :
    r.record.holding = h := by
  obtain ⟨hhash, hstate, hn⟩ := holding?_eq_some_iff.mp hr
  rw [Record.holding, record, hstate, hn, hhash]
  rfl

/-- Under each name there is a row for what is held there. -/
def Represents (row : String → Option StoredRecord) (held : Register) : Prop :=
  ∀ path, (row path).map StoredRecord.holding? = (held path).map some

/-- Rows go on representing holdings if one of each is exchanged for another of the same meaning. -/
theorem Represents.update {row : String → Option StoredRecord} (h : Represents row held)
    (path : String) {new : Option StoredRecord} {value : Option Holding}
    (hnew : new.map StoredRecord.holding? = value.map some) :
    Represents (Function.update row path new) (Function.update held path value) := by
  intro other
  by_cases hother : other = path
  · rw [hother, Function.update_self, Function.update_self, hnew]
  · rw [Function.update_of_ne hother, Function.update_of_ne hother, h other]

/-- The rows stand in order and are those of a register. -/
structure Stores (rows : List StoredRecord) (held : Register) : Prop where
  sorted : Sorted rows
  rowAt : Represents (rowAt rows) held

namespace Stores

theorem empty : Stores [] Register.empty := ⟨List.Pairwise.nil, fun _ => rfl⟩

variable (h : Stores rows held) {path : String}

include h

/-- There is no row exactly where nothing is held. -/
theorem rowAt_none_iff : Rehearsal.rowAt rows path = none ↔ held path = none := by
  rw [← Option.map_eq_none_iff (f := StoredRecord.holding?), h.rowAt path, Option.map_eq_none_iff]

theorem isSome_rowAt : (Rehearsal.rowAt rows path).isSome = (held path).isSome := by
  rw [← Option.isSome_map, h.rowAt path, Option.isSome_map]

/-- A row stands for what is held under its name. -/
theorem held_of_rowAt (hrow : Rehearsal.rowAt rows path = some r) :
    ∃ k, held path = some k ∧ r.holding? = some k := by
  have hpath := h.rowAt path
  rw [hrow, Option.map_some] at hpath
  obtain ⟨k, hk, heq⟩ := Option.map_eq_some_iff.mp hpath.symm
  exact ⟨k, hk, heq.symm⟩

/-- There is a row for what is held. -/
theorem rowAt_of_held {k : Holding} (hk : held path = some k) :
    ∃ r, Rehearsal.rowAt rows path = some r ∧ r.holding? = some k := by
  have hpath := h.rowAt path
  rw [hk, Option.map_some] at hpath
  exact Option.map_eq_some_iff.mp hpath

/-- Read as records, the rows are the register. -/
theorem lists : Lists (rows.map StoredRecord.record) held where
  ascending := List.pairwise_map.mpr h.sorted
  exactly := by
    intro path k
    constructor
    · rintro ⟨_, hmem, rfl, rfl⟩
      obtain ⟨r, hr, rfl⟩ := List.mem_map.mp hmem
      obtain ⟨k, hk, hholding⟩ := h.held_of_rowAt (h.sorted.mem_iff.mp hr)
      rw [StoredRecord.holding_record hholding]
      exact hk
    · intro hk
      obtain ⟨r, hrow, hholding⟩ := h.rowAt_of_held hk
      exact ⟨r.record, List.mem_map_of_mem (mem_of_rowAt hrow), name_of_rowAt hrow,
        StoredRecord.holding_record hholding⟩

/-- The counter that is selected for a path is that of the register. -/
theorem counterOfRows_selected (path : String) :
    counterOfRows ((rows.filter fun r => r.name = path).map fun r => [r.missingRuns])
      = held.counter path := by
  rw [Rehearsal.counterOfRows_selected, counterAt, Register.counter]
  cases hheld : held path with
  | none =>
      rw [seen_of_rowAt_none (h.rowAt_none_iff.mpr hheld)]
      rfl
  | some k =>
      obtain ⟨r, hrow, hholding⟩ := h.rowAt_of_held hheld
      rw [seen_of_rowAt hrow, Option.map_some, Option.getD_some, readCounter_record,
        ← StoredRecord.holding_record hholding]
      rfl

end Stores

/-! ## Statements on rows -/

/-- What a change that is made does to rows: they are those of the register in which the
    change is entered, the rows of other paths are the same, and all rows are if there is
    nothing to change. -/
structure Enters (c : Change) (held : Register) (rows after : List StoredRecord) : Prop where
  stores : Below (2 ^ 32) (c.enter held) → Stores after (c.enter held)
  others : ∀ path, path ∉ c.paths → rowAt after path = rowAt rows path
  misses : Misses held c → after = rows

/-- A change of the holding of one path. -/
theorem run_keeping_enters (h : Stores rows held) {changes : List Assignment} {path : String}
    {c : Change} {f : Holding → Holding}
    (hname : ∀ r, (assigned changes r).name = r.name)
    (hpaths : c.paths = [path])
    (henter : c.enter held = Function.update held path ((held path).map f))
    (hmisses : Misses held c → held path = none)
    (heffect : ∀ r k, r.holding? = some k → (f k).missingRuns < 2 ^ 32 →
      (assigned changes r).holding? = some (f k)) :
    ∃ after, (LedgerStatement.update changes path).run rows = .ok (after, [])
      ∧ Enters c held rows after := by
  obtain ⟨after, hrun, hsorted, hafter, hnone⟩ := run_keeping h.sorted path hname
  refine ⟨after, hrun, ?_, ?_, fun hmiss => hnone (h.rowAt_none_iff.mpr (hmisses hmiss))⟩
  · intro hsmall
    refine ⟨hsorted, ?_⟩
    rw [hafter, henter]
    refine h.rowAt.update path ?_
    -- Nothing is held where there is no row, and nothing comes of the change.
    cases hrow : rowAt rows path with
    | none =>
        rw [h.rowAt_none_iff.mp hrow]
        rfl
    | some r =>
        obtain ⟨k, hk, hr⟩ := h.held_of_rowAt hrow
        have hfits : (f k).missingRuns < 2 ^ 32 := by
          refine hsmall path (f k) ?_
          rw [henter, Function.update_self, hk, Option.map_some]
        rw [hk, Option.map_some, Option.map_some, Option.map_some, Option.map_some,
          heffect r k hr hfits]
  · intro other hother
    rw [hpaths, List.mem_singleton] at hother
    rw [hafter, Function.update_of_ne hother]

/-- Resetting the counter of a row resets that of the holding. -/
theorem holding?_reset {k : Holding} (h : r.holding? = some k) :
    r.reset.holding? = some { k with missingRuns := 0 } := by
  obtain ⟨hhash, hstate, -⟩ := StoredRecord.holding?_eq_some_iff.mp h
  exact StoredRecord.holding?_eq_some_iff.mpr ⟨hhash, hstate, unsigned?_zero⟩

/-- Recording a script puts in place the row of what is held from then on. -/
theorem run_record_enters (h : Stores rows held) (time : Timestamp) (path hash : String)
    (speed : Nat) :
    ∃ after, (LedgerStatement.ofChange time (.record path hash speed)).run rows = .ok (after, [])
      ∧ Enters (.record path hash speed) held rows after := by
  set new : StoredRecord := ⟨path, hash, "RELEASED", time.renderSeconds, toString speed, "0"⟩
  have hnew : new.holding? = some ⟨hash, .active, 0⟩ :=
    StoredRecord.holding?_eq_some_iff.mpr ⟨rfl, rfl, unsigned?_zero⟩
  have hafter : rowAt (insertRecord new rows) = Function.update (rowAt rows) path (some new) :=
    rowAt_insertRecord new rows
  refine ⟨insertRecord new rows, rfl, ?_, ?_, False.elim⟩
  · intro _
    refine ⟨insertRecord_sorted h.sorted new, ?_⟩
    rw [hafter]
    exact h.rowAt.update path (congrArg some hnew)
  · intro other hother
    rw [hafter, Function.update_of_ne (mt List.mem_singleton.mpr hother)]

/-- Renaming is refused exactly if it clashes. -/
theorem run_rename_enters (h : Stores rows held) (time : Timestamp) (old new : String) :
    (Clashes held (.rename old new) ∧ ∃ reason,
        (LedgerStatement.ofChange time (.rename old new)).run rows = .error reason)
      ∨ ¬Clashes held (.rename old new) ∧ ∃ after,
        (LedgerStatement.ofChange time (.rename old new)).run rows = .ok (after, [])
          ∧ Enters (.rename old new) held rows after := by
  cases hrow : rowAt rows old with
  | none =>
      have hnone : held old = none := h.rowAt_none_iff.mp hrow
      refine Or.inr ⟨fun hclash => ?_, rows, run_update_of_none hrow, ?_, fun _ _ => rfl,
        fun _ => rfl⟩
      · exact Option.isSome_iff_ne_none.mp hclash.2.1 hnone
      · intro _
        rw [Change.enter_rename_of_none hnone]
        exact h
  | some r =>
      obtain ⟨k, hk, hr⟩ := h.held_of_rowAt hrow
      have hrun := run_moving time new hrow
      -- The rows clash exactly where the holdings do.
      have hclash : Clashes held (.rename old new)
          ↔ old ≠ new ∧ (rowAt rows new).isSome = true := by
        rw [h.isSome_rowAt]
        exact and_congr_right fun _ => and_iff_right (Option.isSome_of_eq_some hk)
      by_cases hother : old ≠ new ∧ (rowAt rows new).isSome = true
      · exact Or.inl ⟨hclash.mpr hother, _, hrun.trans (if_pos hother)⟩
      · refine Or.inr ⟨mt hclash.mp hother, _, hrun.trans (if_neg hother), ?_, ?_, ?_⟩
        · intro _
          refine ⟨moved_sorted h.sorted old new r, ?_⟩
          rw [rowAt_moved, Change.enter_rename_of_some hk (mt hclash.mp hother)]
          refine (h.rowAt.update old rfl).update new (congrArg some ?_)
          show r.reset.holding? = _
          exact holding?_reset hr
        · intro path hpath
          obtain ⟨hold, hnew⟩ : path ≠ old ∧ path ≠ new := by simpa [Change.paths] using hpath
          rw [rowAt_moved, Function.update_of_ne hnew, Function.update_of_ne hold]
        · intro hmiss
          cases hk.symm.trans hmiss

/-- The statement of a change is refused if the change clashes, and otherwise enters it. -/
theorem run_enters (h : Stores rows held) (time : Timestamp) (c : Change) :
    (Clashes held c ∧ ∃ reason, (LedgerStatement.ofChange time c).run rows = .error reason)
      ∨ ¬Clashes held c ∧ ∃ after, (LedgerStatement.ofChange time c).run rows = .ok (after, [])
        ∧ Enters c held rows after := by
  cases c with
  | record path hash speed => exact Or.inr ⟨id, run_record_enters h time path hash speed⟩
  | archive path =>
      refine Or.inr ⟨id, run_keeping_enters h (fun _ => rfl) rfl rfl id fun r k hr _ => ?_⟩
      obtain ⟨hhash, -, hn⟩ := StoredRecord.holding?_eq_some_iff.mp hr
      exact StoredRecord.holding?_eq_some_iff.mpr ⟨hhash, rfl, hn⟩
  | remove path =>
      refine Or.inr ⟨id, _, rfl, ?_, ?_, ?_⟩
      · intro _
        refine ⟨eraseRecord_sorted h.sorted path, ?_⟩
        rw [rowAt_eraseRecord]
        exact h.rowAt.update path rfl
      · intro other hother
        rw [rowAt_eraseRecord, Function.update_of_ne (mt List.mem_singleton.mpr hother)]
      · exact fun hmiss => eraseRecord_of_none (h.rowAt_none_iff.mpr hmiss)
  | rename old new => exact run_rename_enters h time old new
  | rehash path hash =>
      refine Or.inr ⟨id, run_keeping_enters h (fun _ => rfl) rfl rfl id fun r k hr _ => ?_⟩
      obtain ⟨-, hstate, hn⟩ := StoredRecord.holding?_eq_some_iff.mp hr
      exact StoredRecord.holding?_eq_some_iff.mpr ⟨rfl, hstate, hn⟩
  | markMissing path =>
      refine Or.inr ⟨id, run_keeping_enters h (fun _ => rfl) rfl rfl id fun r k hr hfits => ?_⟩
      obtain ⟨hhash, hstate, hn⟩ := StoredRecord.holding?_eq_some_iff.mp hr
      exact StoredRecord.holding?_eq_some_iff.mpr
        ⟨hhash, hstate, (unsigned?_counted hn).trans (if_pos hfits)⟩
  | clearMissing path =>
      exact Or.inr ⟨id, run_keeping_enters h (fun _ => rfl) rfl rfl id
        fun _ _ hr _ => holding?_reset hr⟩

end SchemaMigration.Rehearsal
