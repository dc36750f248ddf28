import SchemaMigration.Baseline.Resolve
import SchemaMigration.Ledger.Sql
import SchemaMigration.Update.Run

/-! # Preparing a database — create, populate, update

    One database is made to exist, initialised from its baseline and brought up
    to date.  Each step reports success as a truth value: errors are logged and
    go no further, so that whoever prepares several databases can stop. -/

namespace SchemaMigration

/-- A database that can be prepared. -/
structure Target where
  kind : Kind
  connection : Connection
  dialect : Dialect
  deriving DecidableEq, Repr

/-- The settings that one database is prepared with. -/
structure RunSettings where
  source : Path
  options : Options
  automatic : Bool
  baselineUrl : Option String
  deriving DecidableEq, Repr

/-- A database with the settings it is prepared with. -/
structure Preparation where
  target : Target
  settings : RunSettings
  deriving DecidableEq, Repr

namespace Preparation

variable (p : Preparation)

/-- The policy of the database. -/
def policy : Policy := .ofKind p.target.kind

/-- The name of the database in messages. -/
def displayName : String := p.policy.displayName

/-- The name of the database on its server. -/
def databaseName : String := p.target.connection.database

/-- Whether the database exists; an error is logged and read as "no". -/
def databaseExists : Program Site.interface Bool := do
  match ← Site.databaseExists with
  | .ok answer => pure answer
  | .error e =>
      Site.log (.error .preparation
        s!"Could not check whether database \"{p.databaseName}\" exists: {e.message}")
      pure false

/-- The script that makes the database. -/
def creationScript : String :=
  s!"CREATE DATABASE {Quoted.identifier p.databaseName} DEFAULT CHARACTER SET utf8mb4 "
    ++ "COLLATE utf8mb4_unicode_ci;\n"

/-- Applies the creation script over a connection without a database. -/
def runCreation (script : Path) : Program Site.interface Bool := do
  match ← Site.runFile p.target.connection.withoutDatabase script with
  | .ok 0 =>
      Site.log (.info .preparation "Done.")
      pure true
  | _ =>
      Site.log (.error .preparation
        (s!"Failed to create database {p.databaseName}! Does the user have "
          ++ "`CREATE`, `ALTER`, `DROP`, `INSERT` and `DELETE` privileges on the MySQL server?"))
      pure false

/-- Makes the database. -/
def createDatabase : Program Site.interface Bool := do
  Site.log (.info .preparation
    s!"Database \"{p.databaseName}\" does not exist, automatically creating it...")
  match ← Site.makeTemporary p.creationScript with
  | .error fault =>
      Site.log (.error .preparation fault.message)
      pure false
  | .ok script =>
      let made ← p.runCreation script
      Site.dropTemporary script
      pure made

/-- Makes the database unless it exists. -/
def ensureDatabase : Program Site.interface Bool := do
  if ← p.databaseExists then pure true else p.createDatabase

/-- What the baseline of the database is resolved with. -/
def resolver : Baseline.Resolver where
  policy := p.policy
  baseFile := some (p.policy.baseFile p.settings.source)
  url := p.settings.baselineUrl
  automatic := p.settings.automatic
  connection := p.target.connection

/-- Resolves the baseline and reports how it went. -/
def applyBaseline : Program Site.interface Bool := do
  Site.log (.info .preparation s!"Populating the {p.displayName} database...")
  match ← p.resolver.resolve with
  | .done (some _) =>
      Site.log (.info .preparation s!">> {p.displayName} database population completed!")
      pure true
  | .done none => pure true
  | .failed reason =>
      Site.log (.error .preparation s!"Populating the {p.displayName} database failed: {reason}")
      pure false
  | other =>
      Site.log (.error .preparation
        s!"Baseline resolution for {p.displayName} stopped in state {other.describe}")
      pure false

/-- Initialises the database if it needs it: a database with tables does not,
    unless its baseline is applied on every load. -/
def populate : Program Site.interface Bool := do
  if p.policy.alwaysRefresh then p.applyBaseline
  else
    match ← Site.tables with
    | .ok [] => p.applyBaseline
    | .ok _ => pure true
    | .error e =>
        Site.log (.error .preparation
          s!"Could not list the tables of the {p.displayName} database: {e.message}")
        pure false

/-- Where the scripts of the database are, if the source directory is there. -/
def source : Program Site.interface (Except UpdateError ScriptSource) := do
  let root := p.settings.source
  if ← Site.isDirectory root then
    pure (.ok ⟨p.policy.updatesDirectory root, p.policy.archivedDirectory root⟩)
  else pure (.error (.directoryNotFound root))

/-- Answers the questions of an update run about a database. -/
def answerRun (target : Target) :
    (q : Update.Request) → Program Site.interface (Update.Request.Reply q)
  | .scan source => Site.scan source
  | .ledger op => Ledger.perform target.dialect op
  | .runScript location => Site.runFile target.connection location
  | .stopwatch => Site.stopwatch
  | .log line => Site.log line

/-- Carries out a part of an update run on a database. -/
def carryOut {α : Type} (target : Target) (run : Update.Run α) :
    Program Site.interface (Except UpdateError α) :=
  Program.via (I := Update.interface) (answerRun target) run.run

/-- Opens the ledger and runs the update. -/
def runUpdate : Program Site.interface (Except UpdateError Update.Summary) := do
  match ← p.source with
  | .error e => pure (.error e)
  | .ok source =>
      match ← Ledger.ensureTable with
      | .error e => pure (.error e)
      | .ok () => carryOut p.target (Update.update source p.settings.options)

/-- Plans against an empty ledger. -/
def planUnrecorded (source : ScriptSource) :
    Program Site.interface (Except UpdateError Plan) := do
  match ← Site.scan source with
  | .error e => pure (.error e)
  | .ok (live, archived) => pure (.ok (Plan.build ⟨live, archived, [], p.settings.options⟩))

/-- Plans the update without changing anything; without a ledger table the ledger is empty. -/
def plan : Program Site.interface (Except UpdateError Plan) := do
  match ← p.source with
  | .error e => pure (.error e)
  | .ok source =>
      match ← Ledger.tableExists with
      | .error e => pure (.error e)
      | .ok true => carryOut p.target (Update.plan source p.settings.options)
      | .ok false => p.planUnrecorded source

/-- What is reported after a successful update. -/
def successLine (s : Update.Summary) : Log.Line :=
  let info := s!"Containing {s.recent} new and {s.archived} archived updates."
  if s.updated = 0 then .info .preparation s!">> {p.displayName} database is up-to-date! {info}"
  else
    let noun := if s.updated = 1 then "query" else "queries"
    .info .preparation s!">> Applied {s.updated} {noun}. {info}"

/-- Applies the pending scripts and reports how it went. -/
def update : Program Site.interface Bool := do
  Site.log (.info .preparation s!"Updating {p.displayName} database...")
  match ← p.runUpdate with
  | .ok summary =>
      Site.log (p.successLine summary)
      pure true
  | .error e =>
      Site.log (.error .preparation s!"Updating the {p.displayName} database failed: {e.message}")
      Site.log (.error .preparation s!"hint: {e.hint}")
      pure false

end Preparation

end SchemaMigration
