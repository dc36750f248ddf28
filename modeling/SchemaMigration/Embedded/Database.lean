import SchemaMigration.Embedded.Engine

/-! # Embedded databases — an engine as database and script runner

    A script file is applied inside one transaction: it takes effect as a whole
    or not at all, and a failure is logged and answered by a status.  Connections
    given to the runner do not matter, since there is only one. -/

namespace SchemaMigration.Embedded

/-- Runs one statement; the error ends with the statement. -/
def execute (sql : String) : Program Engine.interface (Except DatabaseError Unit) := do
  match ← Engine.execute sql with
  | .ok () => pure (.ok ())
  | .error reason => pure (.error (.execution s!"{reason}: {sql}"))

/-- Runs a script outside a transaction of its own. -/
def executeBatch (sql : String) : Program Engine.interface (Except DatabaseError Unit) := do
  match ← Engine.script sql with
  | .ok () => pure (.ok ())
  | .error reason => pure (.error (.execution reason))

/-- Reads rows, every cell as text. -/
def query (sql : String) : Program Engine.interface (Except DatabaseError (List Row)) := do
  match ← Engine.query sql with
  | .ok rows => pure (.ok (rows.map fun row => row.map Engine.Cell.render))
  | .error (.refused reason) => pure (.error (.execution s!"{reason}: {sql}"))
  | .error (.interrupted reason) => pure (.error (.execution reason))

/-- The query for the names of all tables. -/
def tablesQuery : String :=
  "SELECT table_name FROM information_schema.tables WHERE table_schema = 'main' ORDER BY table_name"

/-- The first column of every row that has one. -/
def firstColumn (rows : List Row) : List String :=
  rows.filterMap List.head?

/-- Answers a request to the database.  Opening its file makes it, so it exists. -/
def answer : (q : Database.Request) →
    Program Engine.interface (Except DatabaseError q.Value)
  | .execute sql => execute sql
  | .executeBatch sql => executeBatch sql
  | .query sql => query sql
  | .exists => pure (.ok true)
  | .tables => do
      match ← query tablesQuery with
      | .ok rows => pure (.ok (firstColumn rows))
      | .error e => pure (.error e)

/-- Runs a script inside a transaction and rolls back on an error. -/
def applyInTransaction (sql : String) : Program Engine.interface (Except DatabaseError Unit) := do
  match ← Engine.script "BEGIN TRANSACTION" with
  | .error reason => pure (.error (.execution s!"BEGIN failed: {reason}"))
  | .ok () =>
      match ← Engine.script sql with
      | .error reason =>
          let _ ← Engine.script "ROLLBACK"
          pure (.error (.execution reason))
      | .ok () =>
          match ← Engine.script "COMMIT" with
          | .error reason =>
              let _ ← Engine.script "ROLLBACK"
              pure (.error (.execution s!"COMMIT failed: {reason}"))
          | .ok () => pure (.ok ())

/-- Applies a script file: status 0 when it took effect, 1 when nothing did. -/
def runFile (path : Path) : Program Engine.interface (Except DatabaseError Int) := do
  match ← Engine.readScript path with
  | .error cause =>
      Engine.log (.error .engine s!"Failed to read script '{path.text}': {cause.message}")
      pure (.ok 1)
  | .ok sql =>
      match ← applyInTransaction sql with
      | .ok () => pure (.ok 0)
      | .error e =>
          Engine.log (.error .engine s!"Applying '{path.text}' failed: {e.message}")
          pure (.ok 1)

/-- Answers a request to the script runner. -/
def answerRunner : (q : Runner.Request) →
    Program Engine.interface (Except DatabaseError q.Value)
  | .file _ path => runFile path
  | .query _ sql => do
      match ← query sql with
      | .ok [] => pure (.ok none)
      | .ok rows => pure (.ok (some rows))
      | .error e => pure (.error e)

end SchemaMigration.Embedded
