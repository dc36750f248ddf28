import SchemaMigration.Proofs.Rehearsal.Tokens
import SchemaMigration.Rehearsal.Store

/-! # Statements — what the store reads of the ledger's texts

    A statement of the ledger is a frame of fixed words around quoted values.  The
    store reads the frame as written and every value as a whole, so a path or a hash
    is never taken for another part of the statement, whatever it is made of:

    * `means_create`, `means_list`, `means_count`: the statements without a change;
    * `means_change`: the statement of every change, in both dialects. -/

namespace SchemaMigration.Rehearsal

open Ledger

/-! ## Meanings -/

/-- The store reads a text as a statement. -/
def Means (sql : String) (statement : Statement) : Prop :=
  ∃ ts, Reads sql ts ∧ readStatement ts = statement

/-- A text is run as the statement that it means. -/
theorem Means.run {sql : String} {statement : Statement} (h : Means sql statement) (s : Store) :
    s.run sql = s.perform statement := by
  obtain ⟨ts, hreads, rfl⟩ := h
  rw [Store.run, show tokens sql.toList = some ts from hreads]

/-- What a change asks of the store. -/
def LedgerStatement.ofChange (time : Timestamp) : Change → LedgerStatement
  | .record path hash speed =>
      .replace ⟨path, hash, "RELEASED", time.renderSeconds, toString speed, "0"⟩
  | .archive path => .update [.set "state" "ARCHIVED"] path
  | .remove path => .delete path
  | .rename old new => .update [.set "name" new, .set "missing_runs" "0"] old
  | .rehash path hash => .update [.set "hash" hash] path
  | .markMissing path => .update [.countMissing] path
  | .clearMissing path => .update [.set "missing_runs" "0"] path

/-! ## Reading and making the table -/

/-- Texts with separators between them are read one by one. -/
theorem reads_intercalate {sep : String} {us : List Token} (hsep : Reads sep us)
    (hstarts : Starts sep) (hends : Ends sep) {parts : List String}
    (h : ∀ part ∈ parts, ∃ ts, Reads part ts) : ∃ ts, Reads (sep.intercalate parts) ts := by
  induction parts with
  | nil => exact ⟨[], tokens_nil⟩
  | cons first rest ih =>
      obtain ⟨⟨ts, hts⟩, hrest⟩ := List.forall_mem_cons.mp h
      obtain ⟨vs, hvs⟩ := ih hrest
      cases rest with
      | nil => exact ⟨ts, String.intercalate_singleton ▸ hts⟩
      | cons second rest =>
          rw [String.intercalate_cons_cons]
          exact ⟨_, (hts.words hsep hstarts).behind (hends.append first) hvs⟩

/-- Making the table is creating it if it is not there, whatever its columns are. -/
theorem means_create : Means createStatement (.createTable tableName true) := by
  have hfront : Reads s!"CREATE TABLE IF NOT EXISTS {tableName} (\n                 "
      [.word "CREATE", .word "TABLE", .word "IF", .word "NOT", .word "EXISTS", .word tableName,
        .mark '('] := by
    rw [Reads]
    cbv
  -- What is in the brackets is skipped, so it only has to be made of tokens.
  have hcolumns : ∀ part ∈ columnDefinitions, (tokens part.toList).isSome = true := by
    rw [columnDefinitions]
    simp only [List.forall_mem_cons]
    exact ⟨by cbv, by cbv, by cbv, by cbv, by cbv, by cbv,
      List.forall_mem_nil _⟩
  have hcomma : Reads ",\n                 " [.mark ','] := by
    rw [Reads]
    cbv
  have hend : Reads "\n             )" [.mark ')'] := by
    rw [Reads]
    cbv
  obtain ⟨us, hus⟩ := reads_intercalate hcomma (by decide) (by decide) fun part hpart =>
    Option.isSome_iff_exists.mp (hcolumns part hpart)
  exact ⟨_, (hfront.behind (by decide) hus).words hend (by decide), rfl⟩

/-- Listing selects everything. -/
theorem means_list : Means listStatement (.ledger .selectAll) := by
  have hreads : Reads listStatement
      [.word "SELECT", .word "name", .mark ',', .word "hash", .mark ',', .word "state", .mark ',',
        .word "applied_at", .mark ',', .word "speed", .mark ',', .word "missing_runs",
        .word "FROM", .word tableName, .word "ORDER", .word "BY", .word "name"] := by
    rw [Reads]
    cbv
  exact ⟨_, hreads, rfl⟩

/-- The statement that asks for a counter is understood as a selection of it. -/
theorem means_count (path : String) :
    Means (countStatement path) (.ledger (.selectMissing path)) := by
  have hfront : Reads s!"SELECT missing_runs FROM {tableName} WHERE name = "
      [.word "SELECT", .word "missing_runs", .word "FROM", .word tableName, .word "WHERE",
        .word "name", .mark '='] := by
    rw [Reads]
    cbv
  exact ⟨_, hfront.literal (by decide) path, rfl⟩

/-! ## Changes -/

/-- The statement that records a script is understood as putting its row in place, in either
dialect. -/
theorem means_record (dialect : Dialect) (time : Timestamp) (path hash : String) (speed : Nat) :
    Means ((Change.record path hash speed).statement dialect time)
      (.ledger (.ofChange time (.record path hash speed))) := by
  have hcomma : Reads ", " [.mark ','] := by
    rw [Reads]
    cbv
  have hopen : Reads "VALUES (" [.word "VALUES", .mark '('] := by
    rw [Reads]
    cbv
  have hreleased : Reads ", 'RELEASED', " [.mark ',', .literal "RELEASED", .mark ','] := by
    rw [Reads]
    cbv
  have hend : Reads ", 0)" [.mark ',', .word "0", .mark ')'] := by
    rw [Reads]
    cbv
  -- The fixed parts are read by evaluation, the values one by one, for any text that they hold.
  have hvalues := (((hopen.literal (by decide) path).words hcomma (by decide)).literal
    (Ends.append (by decide) _) hash).words hreleased (by decide)
  have hnumbers := (((Reads.of_literal time.renderSeconds).words hcomma (by decide)).number
    (Ends.append (by decide) _) speed).words hend (by decide)
  have hends : Ends ", 'RELEASED', " := by decide
  cases dialect with
  | replaceInto =>
      have hfront : Reads
          s!"REPLACE INTO {tableName} (name, hash, state, applied_at, speed, missing_runs) "
          [.word "REPLACE", .word "INTO", .word tableName, .mark '(', .word "name", .mark ',',
            .word "hash", .mark ',', .word "state", .mark ',', .word "applied_at", .mark ',',
            .word "speed", .mark ',', .word "missing_runs", .mark ')'] := by
        rw [Reads]
        cbv
      exact ⟨_, (hfront.behind (by decide) hvalues).behind ((hends.append _).append _) hnumbers,
        rfl⟩
  | insertOrReplace =>
      have hfront : Reads
          s!"INSERT OR REPLACE INTO {tableName} (name, hash, state, applied_at, speed, missing_runs) "
          [.word "INSERT", .word "OR", .word "REPLACE", .word "INTO", .word tableName, .mark '(',
            .word "name", .mark ',', .word "hash", .mark ',', .word "state", .mark ',',
            .word "applied_at", .mark ',', .word "speed", .mark ',', .word "missing_runs",
            .mark ')'] := by
        rw [Reads]
        cbv
      exact ⟨_, (hfront.behind (by decide) hvalues).behind ((hends.append _).append _) hnumbers,
        rfl⟩

/-- The store reads the statement of a change as the change. -/
theorem means_change (dialect : Dialect) (time : Timestamp) (c : Change) :
    Means (c.statement dialect time) (.ledger (.ofChange time c)) := by
  cases c with
  | record path hash speed => exact means_record dialect time path hash speed
  | archive path =>
      have hfront : Reads s!"UPDATE {tableName} SET state = 'ARCHIVED' WHERE name = "
          [.word "UPDATE", .word tableName, .word "SET", .word "state", .mark '=',
            .literal "ARCHIVED", .word "WHERE", .word "name", .mark '='] := by
        rw [Reads]
        cbv
      exact ⟨_, hfront.literal (by decide) path, rfl⟩
  | remove path =>
      have hfront : Reads s!"DELETE FROM {tableName} WHERE name = "
          [.word "DELETE", .word "FROM", .word tableName, .word "WHERE", .word "name",
            .mark '='] := by
        rw [Reads]
        cbv
      exact ⟨_, hfront.literal (by decide) path, rfl⟩
  | rename old new =>
      have hfront : Reads s!"UPDATE {tableName} SET name = "
          [.word "UPDATE", .word tableName, .word "SET", .word "name", .mark '='] := by
        rw [Reads]
        cbv
      have hreset : Reads ", missing_runs = 0 "
          [.mark ',', .word "missing_runs", .mark '=', .word "0"] := by
        rw [Reads]
        cbv
      have hwhere : Reads "WHERE name = " [.word "WHERE", .word "name", .mark '='] := by
        rw [Reads]
        cbv
      exact ⟨_, ((hfront.literal (by decide) new).words hreset (by decide)).behind
        (Ends.append (by decide) _) (hwhere.literal (by decide) old), rfl⟩
  | rehash path hash =>
      have hfront : Reads s!"UPDATE {tableName} SET hash = "
          [.word "UPDATE", .word tableName, .word "SET", .word "hash", .mark '='] := by
        rw [Reads]
        cbv
      have hwhere : Reads " WHERE name = " [.word "WHERE", .word "name", .mark '='] := by
        rw [Reads]
        cbv
      exact ⟨_, ((hfront.literal (by decide) hash).words hwhere (by decide)).literal
        (Ends.append (by decide) _) path, rfl⟩
  | markMissing path =>
      have hfront : Reads
          s!"UPDATE {tableName} SET missing_runs = missing_runs + 1 WHERE name = "
          [.word "UPDATE", .word tableName, .word "SET", .word "missing_runs", .mark '=',
            .word "missing_runs", .mark '+', .word "1", .word "WHERE", .word "name",
            .mark '='] := by
        rw [Reads]
        cbv
      exact ⟨_, hfront.literal (by decide) path, rfl⟩
  | clearMissing path =>
      have hfront : Reads s!"UPDATE {tableName} SET missing_runs = 0 WHERE name = "
          [.word "UPDATE", .word tableName, .word "SET", .word "missing_runs", .mark '=',
            .word "0", .word "WHERE", .word "name", .mark '='] := by
        rw [Reads]
        cbv
      exact ⟨_, hfront.literal (by decide) path, rfl⟩

end SchemaMigration.Rehearsal
