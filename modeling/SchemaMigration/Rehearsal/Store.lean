import SchemaMigration.Ledger.Sql
import SchemaMigration.Rehearsal.Token

/-! # The rehearsal store — a small database in memory

    The store knows tables by name and one table by content: the ledger, a map
    from the name column to the other columns, all of them texts.  It runs the
    statements of the ledger with their usual meaning, makes and drops tables,
    and undoes what happened since a transaction began.  Statements about
    anything else do nothing. -/

namespace SchemaMigration.Rehearsal

/-- One row of the ledger table. -/
structure StoredRecord where
  name : String
  hash : String
  state : String
  appliedAt : String
  speed : String
  missingRuns : String
  deriving DecidableEq, Repr

/-- The columns in their order. -/
def StoredRecord.columns (r : StoredRecord) : List String :=
  [r.name, r.hash, r.state, r.appliedAt, r.speed, r.missingRuns]

/-- The tables: the rows of the ledger, if it is there, and the names of the others. -/
structure Tables where
  ledger : Option (List StoredRecord)
  others : List String
  deriving DecidableEq, Repr

/-- A name put in its place among names in ascending order. -/
def insertName (name : String) : List String → List String
  | [] => [name]
  | other :: rest =>
      if name = other then other :: rest
      else if name ≤ other then name :: other :: rest
      else other :: insertName name rest

/-- A row put in its place among rows in ascending order, over one of its name. -/
def insertRecord (r : StoredRecord) : List StoredRecord → List StoredRecord
  | [] => [r]
  | other :: rest =>
      if r.name = other.name then r :: rest
      else if r.name ≤ other.name then r :: other :: rest
      else other :: insertRecord r rest

namespace Tables

/-- The names of all tables in ascending order. -/
def names (t : Tables) : List String :=
  match t.ledger with
  | some _ => insertName Ledger.tableName t.others
  | none => t.others

/-- Whether there is a table of a name. -/
def contains (t : Tables) (name : String) : Bool :=
  t.names.contains name

/-- The tables with an empty table of a new name. -/
def create (t : Tables) (name : String) : Tables :=
  if name = Ledger.tableName then { t with ledger := some [] }
  else { t with others := insertName name t.others }

/-- The tables without a table. -/
def drop (t : Tables) (name : String) : Tables :=
  if name = Ledger.tableName then { t with ledger := none }
  else { t with others := t.others.filter (· ≠ name) }

end Tables

/-- A new value of a column. -/
inductive Assignment where
  | set (column value : String)
  | countMissing
  deriving DecidableEq, Repr

/-- A statement about the ledger. -/
inductive LedgerStatement where
  | replace (r : StoredRecord)
  | update (assignments : List Assignment) (name : String)
  | delete (name : String)
  | selectAll
  | selectMissing (name : String)
  | other
  deriving DecidableEq, Repr

/-- What a statement asks of the store. -/
inductive Statement where
  | beginTransaction
  | rollback
  | commit
  | createTable (name : String) (onlyIfAbsent : Bool)
  | dropTable (name : String)
  | broken
  | listTables
  | ledger (s : LedgerStatement)
  | other
  deriving DecidableEq, Repr

/-- Reads one assignment. -/
def assignment? : List Token → Option Assignment
  | [.word column, .mark '=', .literal value] => some (.set column value)
  | [.word column, .mark '=', .word value] => some (.set column value)
  | [.word "missing_runs", .mark '=', .word "missing_runs", .mark '+', .word "1"] =>
      some .countMissing
  | _ => none

/-- The tokens between commas. -/
def betweenCommas : List Token → List (List Token)
  | [] => [[]]
  | t :: rest =>
      if t = .mark ',' then [] :: betweenCommas rest
      else
        match betweenCommas rest with
        | [] => [[t]]
        | first :: others => (t :: first) :: others

/-- The name in a condition `name = '…'`. -/
def nameOfCondition : List Token → Option String
  | .word "name" :: .mark '=' :: .literal value :: _ => some value
  | _ => none

/-- Reads a statement that names the ledger table. -/
def readLedgerStatement (ts : List Token) : LedgerStatement :=
  let condition := nameOfCondition (afterWord "WHERE" ts)
  match (wordsOf ts).map upper with
  | "INSERT" :: "OR" :: "REPLACE" :: "INTO" :: _ | "REPLACE" :: "INTO" :: _ =>
      match valuesOf (afterWord "VALUES" ts) with
      | [name, hash, state, appliedAt, speed, missingRuns] =>
          .replace ⟨name, hash, state, appliedAt, speed, missingRuns⟩
      | _ => .other
  | "UPDATE" :: _ =>
      let changes := beforeWord "WHERE" (afterWord "SET" ts)
      match condition, (betweenCommas changes).mapM assignment? with
      | some name, some assignments => .update assignments name
      | _, _ => .other
  | "DELETE" :: _ =>
      match condition with
      | some name => .delete name
      | none => .other
  | "SELECT" :: "MISSING_RUNS" :: _ =>
      match condition with
      | some name => .selectMissing name
      | none => .other
  | "SELECT" :: "NAME" :: _ => .selectAll
  | _ => .other

/-- Reads a statement by its first words. -/
def readStatement (ts : List Token) : Statement :=
  let words := wordsOf ts
  let rest :=
    if words.contains Ledger.tableName then .ledger (readLedgerStatement ts) else .other
  match words.map upper with
  | "BEGIN" :: _ => .beginTransaction
  | "ROLLBACK" :: _ => .rollback
  | "COMMIT" :: _ => .commit
  | "CREATE" :: "TABLE" :: "IF" :: "NOT" :: "EXISTS" :: _ :: _ =>
      .createTable (words.getD 5 "") true
  | "CREATE" :: "TABLE" :: _ :: _ => .createTable (words.getD 2 "") false
  | "DROP" :: "TABLE" :: _ :: _ => .dropTable (words.getD 2 "")
  | "BROKEN" :: _ => .broken
  | "SELECT" :: _ => if words.contains "information_schema" then .listTables else rest
  | _ => rest

/-- A database in memory, with the tables as they were when a transaction began. -/
structure Store where
  tables : Tables
  saved : Option Tables
  deriving DecidableEq, Repr

/-- The number that a counter column holds; a text that is no number counts as zero. -/
def counterValue (s : String) : Int :=
  let value :=
    match s.toList with
    | '-' :: rest => (Text.digits? rest).map fun n => -(n : Int)
    | '+' :: rest => (Text.digits? rest).map fun n => (n : Int)
    | cs => (Text.digits? cs).map fun n => (n : Int)
  (value.filter (Text.fitsSigned 64)).getD 0

/-- The row after an assignment. -/
def Assignment.apply (r : StoredRecord) : Assignment → StoredRecord
  | .countMissing => { r with missingRuns := toString (counterValue r.missingRuns + 1) }
  | .set "name" value => { r with name := value }
  | .set "hash" value => { r with hash := value }
  | .set "state" value => { r with state := value }
  | .set "applied_at" value => { r with appliedAt := value }
  | .set "speed" value => { r with speed := value }
  | .set "missing_runs" value => { r with missingRuns := value }
  | .set _ _ => r

/-- The rows without the row of a name. -/
def eraseRecord (name : String) (rows : List StoredRecord) : List StoredRecord :=
  rows.filter fun r => r.name ≠ name

/-- Runs a statement about the ledger on its rows: the rows after it, and its result. -/
def LedgerStatement.run (rows : List StoredRecord) :
    LedgerStatement → Except String (List StoredRecord × List Row)
  | .replace r => .ok (insertRecord r rows, [])
  | .update assignments name =>
      match rows.find? fun r => r.name = name with
      | none => .ok (rows, [])
      | some r =>
          let changed := assignments.foldl Assignment.apply r
          let others := eraseRecord name rows
          if others.any fun o => o.name = changed.name then
            .error s!"Constraint Error: Duplicate key \"name: {changed.name}\""
          else .ok (insertRecord changed others, [])
  | .delete name => .ok (eraseRecord name rows, [])
  | .selectAll => .ok (rows, rows.map StoredRecord.columns)
  | .selectMissing name =>
      .ok (rows, (rows.filter fun r => r.name = name).map fun r => [r.missingRuns])
  | .other => .ok (rows, [])

namespace Store

/-- A store without tables. -/
def empty : Store := ⟨⟨none, []⟩, none⟩

/-- The text of an error about a table that is not there. -/
def noTable (name : String) : String :=
  s!"Catalog Error: Table with name {name} does not exist!"

/-- Runs a statement: its rows or an error, and the store after it. -/
def perform (s : Store) : Statement → Except String (List Row) × Store
  | .beginTransaction => (.ok [], { s with saved := some s.tables })
  | .rollback =>
      match s.saved with
      | some tables => (.ok [], ⟨tables, none⟩)
      | none => (.ok [], s)
  | .commit => (.ok [], { s with saved := none })
  | .createTable name onlyIfAbsent =>
      if s.tables.contains name then
        if onlyIfAbsent then (.ok [], s)
        else (.error s!"Catalog Error: Table with name \"{name}\" already exists!", s)
      else (.ok [], { s with tables := s.tables.create name })
  | .dropTable name =>
      if s.tables.contains name then (.ok [], { s with tables := s.tables.drop name })
      else (.error (noTable name), s)
  | .broken => (.error "Parser Error: syntax error at or near \"BROKEN\"", s)
  | .listTables => (.ok (s.tables.names.map fun name => [name]), s)
  | .ledger statement =>
      match s.tables.ledger with
      | none => (.error (noTable Ledger.tableName), s)
      | some rows =>
          match statement.run rows with
          | .ok (after, result) =>
              (.ok result, { s with tables := { s.tables with ledger := some after } })
          | .error reason => (.error reason, s)
  | .other => (.ok [], s)

/-- Runs one statement given as text. -/
def run (s : Store) (sql : String) : Except String (List Row) × Store :=
  match tokens sql.toList with
  | none => (.error "Parser Error: unterminated quoted string", s)
  | some ts => s.perform (readStatement ts)

/-- Runs statements one after another; the first failure ends it and keeps what ran before. -/
def runAll (s : Store) : List String → Except String Unit × Store
  | [] => (.ok (), s)
  | sql :: rest =>
      match s.run sql with
      | (.ok _, after) => after.runAll rest
      | (.error reason, after) => (.error reason, after)

/-- Runs a script: the statements between its semicolons. -/
def runScript (s : Store) (sql : String) : Except String Unit × Store :=
  s.runAll (Text.split ';' sql)

end Store

end SchemaMigration.Rehearsal
