import SchemaMigration.Ledger.Operation
import SchemaMigration.Site
import SchemaMigration.Text.Number
import SchemaMigration.Text.Quoted

/-! # The ledger in SQL — a table of the target database

    The ledger lives in one table of the database it is about.  Every change is
    a single statement about a single row, and every value in a statement is a
    quoted literal.  Reading is forgiving: a column that is missing or cannot be
    read takes a default, and only a row without any column is no record. -/

namespace SchemaMigration.Ledger

/-- The table that holds the records. -/
def tableName : String := "applied_updates"

/-- The columns of the table. -/
def columnDefinitions : List String :=
  ["name         VARCHAR(200) NOT NULL PRIMARY KEY",
    "hash         CHAR(64)     NOT NULL DEFAULT ''",
    "state        VARCHAR(8)   NOT NULL DEFAULT 'RELEASED'",
    "applied_at   VARCHAR(40)  NOT NULL",
    "speed        BIGINT       NOT NULL DEFAULT 0",
    "missing_runs INTEGER      NOT NULL DEFAULT 0"]

/-- The statement that makes the table, one column on each line. -/
def createStatement : String :=
  s!"CREATE TABLE IF NOT EXISTS {tableName} (\n                 "
    ++ ",\n                 ".intercalate columnDefinitions ++ "\n             )"

/-- The query for all records. -/
def listStatement : String :=
  s!"SELECT name, hash, state, applied_at, speed, missing_runs FROM {tableName} ORDER BY name"

/-- The query for one counter. -/
def countStatement (path : String) : String :=
  s!"SELECT missing_runs FROM {tableName} WHERE name = {Quoted.literal path}"

/-- The statement of a change, in a dialect and at a time. -/
def Change.statement (dialect : Dialect) (time : Timestamp) : Change → String
  | .record path hash speed =>
      s!"{dialect.replaceWords} {tableName} (name, hash, state, applied_at, speed, missing_runs) "
        ++ s!"VALUES ({Quoted.literal path}, {Quoted.literal hash}, 'RELEASED', "
        ++ s!"{Quoted.literal time.renderSeconds}, {speed}, 0)"
  | .archive path =>
      s!"UPDATE {tableName} SET state = 'ARCHIVED' WHERE name = {Quoted.literal path}"
  | .remove path => s!"DELETE FROM {tableName} WHERE name = {Quoted.literal path}"
  | .rename old new =>
      s!"UPDATE {tableName} SET name = {Quoted.literal new}, missing_runs = 0 "
        ++ s!"WHERE name = {Quoted.literal old}"
  | .rehash path hash =>
      s!"UPDATE {tableName} SET hash = {Quoted.literal hash} WHERE name = {Quoted.literal path}"
  | .markMissing path =>
      s!"UPDATE {tableName} SET missing_runs = missing_runs + 1 WHERE name = {Quoted.literal path}"
  | .clearMissing path =>
      s!"UPDATE {tableName} SET missing_runs = 0 WHERE name = {Quoted.literal path}"

/-- What is reported about a state column that names no state. -/
def unknownState (path column : String) : Log.Line :=
  .warn .ledger s!"Ledger record '{path}' has unknown state '{column}', treating it as active"

/-- Reads a row: the record and what there is to report. -/
def ofRow : Row → Option (Record × List Log.Line)
  | [] => none
  | path :: columns =>
      let column := columns.getD 1 ""
      let (state, report) :=
        match RecordState.ofColumn? column with
        | some state => (state, [])
        | none => (.active, [unknownState path column])
      some
        ({ path
           hash := columns.getD 0 ""
           appliedAt := (Timestamp.read? (columns.getD 2 "")).getD .epoch
           speed := (columns[3]?.bind (Text.unsigned? 64)).getD 0
           state
           missingRuns := (columns[4]?.bind (Text.unsigned? 32)).getD 0 }, report)

/-- Reads a counter from the first column of the first row. -/
def counterOfRows (rows : List Row) : Nat :=
  ((rows.head?.bind List.head?).bind (Text.unsigned? 32)).getD 0

/-- Reports lines one after another. -/
def report : List Log.Line → Program Site.interface Unit
  | [] => pure ()
  | line :: rest => do
      Site.log line
      report rest

/-- The records of rows, reporting unknown states on the way. -/
def ofRows : List Row → Program Site.interface (List Record)
  | [] => pure []
  | row :: rest =>
      match ofRow row with
      | none => ofRows rest
      | some (record, lines) => do
          report lines
          let records ← ofRows rest
          pure (record :: records)

/-- A failed statement of the ledger. -/
def failed {α : Type} (context : String) : Except DatabaseError α → Except UpdateError α
  | .ok a => .ok a
  | .error cause => .error (.ledger context cause)

/-- Makes the table if it is not there. -/
def ensureTable : Program Site.interface (Except UpdateError Unit) := do
  pure (failed "create ledger table" (← Site.execute createStatement))

/-- Whether the table is there. -/
def tableExists : Program Site.interface (Except UpdateError Bool) := do
  match failed "list tables" (← Site.tables) with
  | .ok names => pure (.ok (names.any fun name => Text.equalIgnoringCase name tableName))
  | .error e => pure (.error e)

/-- All records in path order. -/
def list : Program Site.interface (Except UpdateError (List Record)) := do
  match failed "list ledger records" (← Site.query listStatement) with
  | .ok rows => do
      let records ← ofRows rows
      pure (.ok records)
  | .error e => pure (.error e)

/-- The time that a change is recorded with; only recording looks at the clock. -/
def timeOf : Change → Program Site.interface Timestamp
  | .record _ _ _ => Site.now
  | _ => pure .epoch

/-- Makes a change. -/
def change (dialect : Dialect) (c : Change) : Program Site.interface (Except UpdateError Unit) := do
  let time ← timeOf c
  Site.log (.debug .ledger s!"ledger: {c.describe}")
  pure (failed c.describe (← Site.execute (c.statement dialect time)))

/-- Counts one more run without the file of a path and reads the new count. -/
def countMissing (dialect : Dialect) (path : String) :
    Program Site.interface (Except UpdateError Nat) := do
  match ← change dialect (.markMissing path) with
  | .error e => pure (.error e)
  | .ok () =>
      match failed s!"read missing count of '{path}'" (← Site.query (countStatement path)) with
      | .ok rows => pure (.ok (counterOfRows rows))
      | .error e => pure (.error e)

/-- Every operation of a ledger, in SQL. -/
def perform (dialect : Dialect) :
    (op : Operation) → Program Site.interface (Except UpdateError op.Value)
  | .list => list
  | .change c => change dialect c
  | .countMissing path => countMissing dialect path

end SchemaMigration.Ledger
