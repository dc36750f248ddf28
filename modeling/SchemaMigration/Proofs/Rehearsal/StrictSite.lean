import SchemaMigration.Proofs.Preparation.HealthySite
import SchemaMigration.Proofs.Rehearsal.Rows
import SchemaMigration.Rehearsal.Machine

/-! # Strict sites — the rehearsal store with columns that have bounds

    The rehearsal store keeps any text in its columns, while the columns of a database
    have bounds.  A strict site refuses a statement that would leave a number out of
    bounds and runs every other one as the store does, next to a file tree whose
    scripts leave the ledger alone.  It is a healthy site in both dialects (`healthy`). -/

namespace SchemaMigration.Rehearsal

open Ledger Update

variable {s : Store} {rows : List StoredRecord} {records : List Record}

/-! ## Strict stores -/

namespace Tables

/-- The records of the ledger table, if it is there and well formed: its rows stand in
    order, and their numbers can be read. -/
def records? (t : Tables) : Option (List Record) :=
  t.ledger.bind fun rows =>
    if Sorted rows ∧ ∀ r ∈ rows, r.Valid then some (rows.map StoredRecord.record) else none

/-- Every number in the ledger table can be read. -/
def readable (t : Tables) : Bool :=
  t.ledger.all fun rows => rows.all fun r => decide r.Valid

variable {t : Tables}

/-- Rows in order whose numbers can be read are held as records. -/
theorem records?_of_rows (h : t.ledger = some rows) (hsorted : Sorted rows)
    (hvalid : ∀ r ∈ rows, r.Valid) : t.records? = some (rows.map StoredRecord.record) := by
  rw [records?, h, Option.bind_some, if_pos ⟨hsorted, hvalid⟩]

/-- The records that are held are those of such rows. -/
theorem rows_of_records? (h : t.records? = some records) :
    ∃ rows, t.ledger = some rows ∧ Sorted rows ∧ (∀ r ∈ rows, r.Valid)
      ∧ rows.map StoredRecord.record = records := by
  obtain ⟨rows, hrows, h⟩ := Option.bind_eq_some_iff.mp h
  by_cases hformed : Sorted rows ∧ ∀ r ∈ rows, r.Valid
  · rw [if_pos hformed] at h
    exact ⟨rows, hrows, hformed.1, hformed.2, Option.some.inj h⟩
  · rw [if_neg hformed] at h
    exact nomatch h

theorem readable_iff (h : t.ledger = some rows) : t.readable = true ↔ ∀ r ∈ rows, r.Valid := by
  rw [readable, h, Option.all_some, List.all_eq_true]
  exact forall₂_congr fun r _ => decide_eq_true_iff

/-- An inserted name is in the list. -/
theorem mem_insertName (name : String) (names : List String) : name ∈ insertName name names := by
  induction names with
  | nil => exact List.mem_singleton_self name
  | cons other rest ih =>
      rw [insertName]
      by_cases heq : name = other
      · rw [if_pos heq, heq]
        exact List.mem_cons_self
      · rw [if_neg heq]
        by_cases hle : name ≤ other
        · rw [if_pos hle]
          exact List.mem_cons_self
        · rw [if_neg hle]
          exact List.mem_cons_of_mem _ ih

theorem tableName_mem_names (h : t.ledger = some rows) : tableName ∈ t.names := by
  rw [names, h]
  exact mem_insertName _ _

end Tables

namespace Store

/-- The store with other rows in the ledger table. -/
def holding (s : Store) (rows : List StoredRecord) : Store :=
  { s with tables := { s.tables with ledger := some rows } }

theorem holding_self (h : s.tables.ledger = some rows) : s.holding rows = s := by
  rw [holding, ← h]

/-- A statement on the ledger that is done leaves the rows that it makes, and the rest of the
store. -/
theorem perform_ledger_of_ok (h : s.tables.ledger = some rows) {statement : LedgerStatement}
    {after : List StoredRecord} {found : List Row} (hrun : statement.run rows = .ok (after, found)) :
    s.perform (.ledger statement) = (.ok found, s.holding after) := by
  rw [perform, h]
  simp only [hrun]
  rfl

/-- A statement on the ledger that fails leaves the whole store. -/
theorem perform_ledger_of_error (h : s.tables.ledger = some rows) {statement : LedgerStatement}
    {reason : String} (hrun : statement.run rows = .error reason) :
    s.perform (.ledger statement) = (.error reason, s) := by
  rw [perform, h]
  simp only [hrun]

/-- Runs a statement, unless it would leave a number that cannot be read. -/
def strict (s : Store) (sql : String) : Except DatabaseError (List Row) × Store :=
  match s.run sql with
  | (.ok rows, after) =>
      if s.tables.readable && !after.tables.readable then
        (.error (.execution "Out of Range Error"), s)
      else (.ok rows, after)
  | (.error reason, after) => (.error (.execution reason), after)

/-- The strict store does what leaves a readable table. -/
theorem strict_of_ok {sql : String} {found : List Row} {after : Store}
    (h : s.run sql = (.ok found, after)) (hreadable : after.tables.readable = true) :
    s.strict sql = (.ok found, after) := by
  rw [strict, h]
  simp only [hreadable, Bool.not_true, Bool.and_false, Bool.false_eq_true, if_false]

/-- The strict store refuses what would spoil a readable table. -/
theorem strict_of_spoiled {sql : String} {found : List Row} {after : Store}
    (h : s.run sql = (.ok found, after)) (hbefore : s.tables.readable = true)
    (hafter : ¬after.tables.readable = true) :
    s.strict sql = (.error (.execution "Out of Range Error"), s) := by
  rw [strict, h]
  simp only [hbefore, Bool.eq_false_iff.mpr hafter, Bool.not_false, Bool.and_true, if_true]

/-- The strict store does whatever alters nothing. -/
theorem strict_of_unaltered {sql : String} {found : List Row} (h : s.run sql = (.ok found, s)) :
    s.strict sql = (.ok found, s) := by
  rw [strict, h]
  simp only [Bool.and_not_self, Bool.false_eq_true, if_false]

/-- Reading the ledger table alters nothing, whether it is there or not. -/
theorem strict_reads {sql : String} {statement : LedgerStatement}
    (h : Means sql (.ledger statement)) {found : List StoredRecord → List Row}
    (hrun : ∀ rows, statement.run rows = .ok (rows, found rows)) :
    (s.strict sql).2 = s
      ∧ ∀ rows, s.tables.ledger = some rows → (s.strict sql).1 = .ok (found rows) := by
  cases hledger : s.tables.ledger with
  | none =>
      refine ⟨?_, nofun⟩
      rw [strict, h.run, perform, hledger]
  | some rows =>
      have hsame : s.run sql = (.ok (found rows), s) := by
        rw [h.run, perform_ledger_of_ok hledger (hrun rows), holding_self hledger]
      rw [strict_of_unaltered hsame]
      exact ⟨rfl, fun rows' h => by rw [Option.some.inj h]⟩

/-- Listing answers rows that are read as the records. -/
theorem strict_list (h : s.tables.records? = some records) :
    ∃ found, (s.strict listStatement).1 = .ok found
      ∧ readRows found = records.map Record.asRead := by
  obtain ⟨rows, hrows, -, -, rfl⟩ := Tables.rows_of_records? h
  have hrun : ∀ rows, LedgerStatement.selectAll.run rows
      = .ok (rows, rows.map StoredRecord.columns) := fun _ => rfl
  refine ⟨_, (strict_reads means_list hrun).2 rows hrows, ?_⟩
  rw [readRows_columns, List.map_map]
  exact List.map_congr_left fun r _ => (asRead_record r).symm

/-- Selecting a counter answers that of the record. -/
theorem strict_count (h : s.tables.records? = some records) (path : String) :
    ∃ found, (s.strict (countStatement path)).1 = .ok found
      ∧ counterOfRows found = counterAt (viewOf records) path := by
  obtain ⟨rows, hrows, -, -, rfl⟩ := Tables.rows_of_records? h
  have hrun : ∀ rows, (LedgerStatement.selectMissing path).run rows
      = .ok (rows, (rows.filter fun r => r.name = path).map fun r => [r.missingRuns]) :=
    fun _ => rfl
  exact ⟨_, (strict_reads (means_count path) hrun).2 rows hrows, counterOfRows_selected rows path⟩

/-- The statement of a change makes it, or is refused because it collides or does not fit. -/
theorem strict_change (h : s.tables.records? = some records) (dialect : Dialect)
    (time : Timestamp) (c : Change) :
    ∃ after, (s.strict (c.statement dialect time)).2.tables.records? = some after
      ∧ Changes records c ((s.strict (c.statement dialect time)).1.map fun _ => ()) after := by
  obtain ⟨rows, hledger, hsorted, hvalid, rfl⟩ := Tables.rows_of_records? h
  have hmeans := means_change dialect time c
  rcases run_ofChange hsorted time c with ⟨reason, hrun, hcollides⟩ | ⟨after, hrun, hdoes⟩
  · have hrefused := (hmeans.run s).trans (perform_ledger_of_error hledger hrun)
    rw [strict, hrefused]
    exact ⟨_, h, .refused _ (Or.inl hcollides)⟩
  · have hmade := (hmeans.run s).trans (perform_ledger_of_ok hledger hrun)
    have hreadable : (s.holding after).tables.readable = true ↔ ∀ r ∈ after, r.Valid :=
      Tables.readable_iff rfl
    -- What runs is undone if a number went out of bounds, and then the change did not fit.
    by_cases hafter : ∀ r ∈ after, r.Valid
    · rw [strict_of_ok hmade (hreadable.mpr hafter)]
      exact ⟨_, Tables.records?_of_rows rfl hdoes.sorted hafter,
        .made (recordedTime time) (hdoes.effect hvalid hafter)⟩
    · rw [strict_of_spoiled hmade ((Tables.readable_iff hledger).mpr hvalid)
        fun hread => hafter (hreadable.mp hread)]
      exact ⟨_, h, .refused _ (Or.inr fun hfits => hafter (hdoes.valid hvalid hfits))⟩

/-- Making the table makes an empty one, unless there is one. -/
theorem strict_create : (s.strict createStatement).1 = .ok []
    ∧ (s.strict createStatement).2.tables.records?
      = if tableName ∈ s.tables.names then s.tables.records? else some [] := by
  by_cases hthere : tableName ∈ s.tables.names
  · have hcontains : s.tables.contains tableName = true := List.contains_iff_mem.mpr hthere
    have hsame : s.run createStatement = (.ok [], s) := by
      rw [means_create.run, perform, if_pos hcontains]
      rfl
    rw [strict_of_unaltered hsame, if_pos hthere]
    exact ⟨rfl, rfl⟩
  · have hcontains : ¬s.tables.contains tableName = true := fun h =>
      hthere (List.contains_iff_mem.mp h)
    have hmade : s.run createStatement = (.ok [], s.holding []) := by
      rw [means_create.run, perform, if_neg hcontains]
      rfl
    rw [strict_of_ok hmade rfl, if_neg hthere]
    exact ⟨rfl, Tables.records?_of_rows rfl List.Pairwise.nil fun _ h => absurd h List.not_mem_nil⟩

end Store

/-! ## Strict sites -/

/-- A file tree and a strict store. -/
structure StrictSite where
  files : FileTree
  store : Store

namespace StrictSite

/-- Answers what is asked while the database is prepared.  Every script succeeds and
    leaves the store alone, and nobody answers questions. -/
def answer : (q : Site.Request) → StrictSite → q.Reply × StrictSite
  | .database (.execute sql), s =>
      ((s.store.strict sql).1.map fun _ => (), { s with store := (s.store.strict sql).2 })
  | .database (.executeBatch sql), s =>
      ((s.store.strict sql).1.map fun _ => (), { s with store := (s.store.strict sql).2 })
  | .database (.query sql), s =>
      ((s.store.strict sql).1, { s with store := (s.store.strict sql).2 })
  | .database .exists, s => (.ok true, s)
  | .database .tables, s => (.ok s.store.tables.names, s)
  | .runner (.file _ _), s => (.ok 0, s)
  | .runner (.query _ _), s => (.ok none, s)
  | .operator (.confirm _), s => (false, s)
  | .operator (.askPath _), s => (none, s)
  | .download url _, s => (.error (.download url "503 Service Unavailable"), s)
  | .machine q, s =>
      ((answerMachine s.files q).1, { s with files := (answerMachine s.files q).2.1 })

-- These are stated for every text: with a closed one, checking them would run it.

theorem execute_reply (sql : String) (s : StrictSite) :
    (answer (.database (.execute sql)) s).1 = (s.store.strict sql).1.map fun _ => () := rfl

theorem execute_store (sql : String) (s : StrictSite) :
    (answer (.database (.execute sql)) s).2.store = (s.store.strict sql).2 := rfl

theorem query_reply (sql : String) (s : StrictSite) :
    (answer (.database (.query sql)) s).1 = (s.store.strict sql).1 := rfl

theorem query_store (sql : String) (s : StrictSite) :
    (answer (.database (.query sql)) s).2.store = (s.store.strict sql).2 := rfl

/-- A strict site is healthy in every dialect. -/
def healthy (dialect : Dialect) : HealthySite dialect StrictSite Store where
  answer := answer
  files := StrictSite.files
  database := StrictSite.store
  tables := fun d => d.tables.names
  ledger := fun d => d.tables.records?
  present := by
    intro d records h
    obtain ⟨rows, hrows, -⟩ := Tables.rows_of_records? h
    exact Tables.tableName_mem_names hrows
  unique := by
    intro d records h
    obtain ⟨rows, -, hsorted, -, rfl⟩ := Tables.rows_of_records? h
    exact hsorted.nodup
  machine := fun _ _ => rfl
  looking := by
    intro q s hmake hdrop
    cases q with
    | makeTemporary text => exact absurd rfl (hmake text)
    | dropTemporary path => exact absurd rfl (hdrop path)
    | _ => rfl
  isDirectory := fun _ _ => rfl
  scan := fun _ _ => rfl
  stopwatch := fun _ => Nat.two_pow_pos 63
  statement := by
    intro q s
    cases q <;> rfl
  consult := by
    intro q s h
    cases h with
    | tables => rfl
    | list => exact (query_store _ s).trans (Store.strict_reads means_list fun _ => rfl).1
    | count path =>
        exact (query_store _ s).trans (Store.strict_reads (means_count path) fun _ => rfl).1
  names := fun _ => rfl
  create := by
    intro s
    obtain ⟨hok, hledger⟩ := Store.strict_create (s := s.store)
    exact ⟨(execute_reply _ s).trans (congrArg (Except.map fun _ => ()) hok),
      (congrArg (fun d : Store => d.tables.records?) (execute_store _ s)).trans hledger⟩
  list := by
    intro s records h
    obtain ⟨found, hfound, hread⟩ := Store.strict_list h
    exact ⟨found, (query_reply _ s).trans hfound, hread⟩
  count := by
    intro path s records h
    obtain ⟨found, hfound, hread⟩ := Store.strict_count h path
    exact ⟨found, (query_reply _ s).trans hfound, hread⟩
  change := fun c time s records h => Store.strict_change h dialect time c
  script := by
    intro q s
    cases q <;> rfl

end StrictSite

end SchemaMigration.Rehearsal
