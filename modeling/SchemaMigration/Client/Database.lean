import SchemaMigration.Client.Invocation
import SchemaMigration.Text.Quoted
import SchemaMigration.Text.Utf8

/-! # Client databases — the SQL client as database and script runner

    Every statement is a call of the client.  A call that fails says what the
    client printed as its diagnostic; a script that fails is answered by its
    status, and its output goes to the log. -/

namespace SchemaMigration.Client

/-- What can be asked around a client: calls, the places of programs, and the log. -/
inductive Request where
  | call (invocation : Invocation)
  | isFile (path : Path)
  | programDirectories
  | currentDirectory
  | log (line : Log.Line)
  deriving DecidableEq, Repr

/-- The shape of the answer. -/
abbrev Request.Reply : Request → Type
  | .call _ => Except FileError Output
  | .isFile _ => Bool
  | .programDirectories => List Path
  | .currentDirectory => Path
  | .log _ => Unit

/-- Requests around a client. -/
abbrev interface : Interface where
  Request := Request
  Reply := Request.Reply

/-- Calls a program. -/
def call (i : Invocation) : Program interface (Except FileError Output) :=
  Program.request (I := interface) (.call i)

/-- Looks whether a path leads to a file. -/
def isFile (path : Path) : Program interface Bool :=
  Program.request (I := interface) (.isFile path)

/-- Reports a line. -/
def log (line : Log.Line) : Program interface Unit :=
  Program.request (I := interface) (.log line)

/-- Reports lines in order. -/
def logAll : List Log.Line → Program interface Unit
  | [] => pure ()
  | line :: rest => do
      log line
      logAll rest

/-- Calls the client with a connection. -/
def callWith (client : Client) (c : Connection) (arguments : List String) :
    Program interface (Except DatabaseError Output) := do
  match ← call (client.invocation c arguments) with
  | .ok output => pure (.ok output)
  | .error cause => pure (.error (.client client.program cause))

/-- Runs a query: the rows, or what the client printed about its failure. -/
def query (client : Client) (c : Connection) (sql : String) :
    Program interface (Except DatabaseError (List Row)) := do
  match ← client.callWith c (queryArguments c sql) with
  | .error e => pure (.error e)
  | .ok output =>
      if output.ending.isSuccess then
        pure (.ok (readRows (Utf8.decodeLossy output.standard)))
      else
        let reason := Text.trim (Utf8.decodeLossy output.diagnostic)
        pure (.error (.execution s!"{reason} (query: {sql})"))

/-- Applies a script file: what the client printed is logged, and its status answered. -/
def runFile (client : Client) (c : Connection) (path : Path) :
    Program interface (Except DatabaseError Int) := do
  match ← client.callWith c (fileArguments c path) with
  | .error e => pure (.error e)
  | .ok output =>
      logAll ((Text.linesOf (Utf8.decodeLossy output.standard)).map (.debug .client))
      logAll ((Text.linesOf (Utf8.decodeLossy output.diagnostic)).map (.error .client))
      pure (.ok output.ending.status)

/-- The query that has a row if the database exists. -/
def existsQuery (database : String) : String :=
  "SELECT SCHEMA_NAME FROM information_schema.SCHEMATA WHERE SCHEMA_NAME = "
    ++ Quoted.literal database

/-- The query for the names of all tables. -/
def tablesQuery : String := "SHOW TABLES"

/-- Answers a request to the database.  Whether it exists is asked without using it. -/
def answer (client : Client) : (q : Database.Request) →
    Program interface (Except DatabaseError q.Value)
  | .execute sql => do
      match ← client.query client.connection sql with
      | .ok _ => pure (.ok ())
      | .error e => pure (.error e)
  | .executeBatch sql => do
      match ← client.query client.connection sql with
      | .ok _ => pure (.ok ())
      | .error e => pure (.error e)
  | .query sql => client.query client.connection sql
  | .exists => do
      let c := client.connection
      match ← client.query c.withoutDatabase (existsQuery c.database) with
      | .ok rows => pure (.ok (!rows.isEmpty))
      | .error e => pure (.error (.connection e.message))
  | .tables => do
      match ← client.query client.connection tablesQuery with
      | .ok rows => pure (.ok (rows.filterMap List.head?))
      | .error e => pure (.error e)

/-- Answers a request to the script runner. -/
def answerRunner (client : Client) : (q : Runner.Request) →
    Program interface (Except DatabaseError q.Value)
  | .file c path => client.runFile c path
  | .query c sql => do
      match ← client.query c sql with
      | .ok [] => pure (.ok none)
      | .ok rows => pure (.ok (some rows))
      | .error e => pure (.error e)

end SchemaMigration.Client
