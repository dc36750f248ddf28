import SchemaMigration.InputError
import SchemaMigration.Log
import SchemaMigration.Plan.Options

/-! # Settings — what a project file says

    The settings name the directory of the scripts, the switches of update runs
    and, for each kind, how its database is reached.  Accepted settings never
    fail later for a connection string: `check` reads every one of them. -/

namespace SchemaMigration

/-- How a database is driven. -/
inductive Backend where
  | mysql
  | duckdb
  deriving DecidableEq, Repr

/-- The name of the backend in settings. -/
def Backend.name : Backend → String
  | .mysql => "mysql"
  | .duckdb => "duckdb"

/-- The settings of one database. -/
structure DatabaseSettings where
  backend : Backend
  /-- A connection string, or the file of an embedded database. -/
  connection : String
  /-- Whether update scripts run for this database. -/
  updates : Bool
  /-- Where to download the baseline from. -/
  baselineUrl : Option String
  deriving DecidableEq, Repr

/-- The settings shared by all update runs. -/
structure UpdateSettings where
  /-- The mask of the kinds to process. -/
  enabledKinds : Nat
  /-- Whether missing databases are created and populated. -/
  autoSetup : Bool
  options : Options
  deriving DecidableEq, Repr

/-- The shared settings of a project that names none. -/
def UpdateSettings.standard : UpdateSettings := ⟨Kind.fullMask, true, .standard⟩

/-- Everything a project file says. -/
structure Settings where
  sourceDirectory : Path
  clientProgram : Option Path
  /-- Download and apply baselines without asking. -/
  automatic : Bool
  updates : UpdateSettings
  databases : List (Kind × DatabaseSettings)
  deriving DecidableEq, Repr

namespace Settings

/-- The settings of a kind. -/
def database? (s : Settings) (kind : Kind) : Option DatabaseSettings :=
  s.databases.lookup kind

/-- Whether a kind has settings. -/
def isConfigured (s : Settings) (kind : Kind) : Bool :=
  (s.database? kind).isSome

/-- The configured kinds that the mask selects, in processing order. -/
def enabled (s : Settings) : List Kind :=
  Kind.all.filter fun k => k.inMask s.updates.enabledKinds && s.isConfigured k

/-- Reads the connection string of a kind. -/
def readConnection (kind : Kind) (value : String) : Except InputError Connection :=
  Connection.readFor kind.slug value

/-- How the database of a kind is reached. -/
def connection (s : Settings) (kind : Kind) : Except InputError Connection :=
  match s.database? kind with
  | none => .error (.invalid (.notConfigured kind))
  | some d =>
      match d.backend with
      | .mysql => readConnection kind d.connection
      | .duckdb => .ok (.embedded d.connection)

/-- Refuses a database that could not be reached. -/
def checkDatabase (kind : Kind) (d : DatabaseSettings) : Except InputError Unit :=
  match d.backend with
  | .mysql => (readConnection kind d.connection).map fun _ => ()
  | .duckdb =>
      if (Text.trim d.connection).isEmpty then .error (.invalid (.noConnection kind)) else .ok ()

/-- Refuses databases one after another. -/
def checkDatabases : List (Kind × DatabaseSettings) → Except InputError Unit
  | [] => .ok ()
  | (kind, d) :: rest => do
      checkDatabase kind d
      checkDatabases rest

/-- Refuses settings that a run could not use: no source directory, bits of the
    mask that select nothing, or a database that could not be reached. -/
def check (s : Settings) : Except InputError Unit := do
  if s.sourceDirectory.isEmpty then throw (.invalid .noSourceDirectory)
  if s.updates.enabledKinds > Kind.fullMask then
    throw (.invalid (.unknownBits s.updates.enabledKinds))
  checkDatabases (Kind.all.filterMap fun k => (s.database? k).map fun d => (k, d))

/-- What is reported about accepted settings: enabled kinds without a database. -/
def warnings (s : Settings) : List Log.Line :=
  (Kind.all.filter fun k => k.inMask s.updates.enabledKinds && !s.isConfigured k).map fun k =>
    .warn .settings (s!"updates.enable_databases selects '{k.slug}' but no "
      ++ s!"databases.{k.slug} section is configured; it will be skipped")

end Settings

end SchemaMigration
