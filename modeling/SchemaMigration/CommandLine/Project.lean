import SchemaMigration.CommandLine.Arguments
import SchemaMigration.CommandLine.Host
import SchemaMigration.Fleet

/-! # Projects — settings, selected databases, connections

    Every command loads the settings of its project, selects databases and
    connects them.  A failure names what was attempted, followed by its causes. -/

namespace SchemaMigration.CommandLine

/-- Why a command failed. -/
inductive Failure where
  | settings (place : Host.Place) (cause : InputError)
  | notConfigured (kind : Kind)
  | connection (cause : InputError)
  | client (kind : Kind) (cause : DatabaseError)
  | engine (file : String) (cause : DatabaseError)
  | ledger (cause : UpdateError)
  | records (kind : Kind) (cause : UpdateError)
  | plan (kind : Kind) (cause : UpdateError)
  /-- What went wrong has been reported already. -/
  | incomplete
  deriving DecidableEq, Repr

namespace Failure

/-- What was attempted, followed by its causes. -/
def chain : Failure → List String
  | .settings (.directory d) cause => s!"Failed to load dbup.yml from {d.text}" :: cause.causes
  | .settings (.file p) cause => s!"Failed to load config from {p.text}" :: cause.causes
  | .notConfigured kind => [s!"No databases.{kind.slug} section is configured"]
  | .connection cause => cause.causes
  | .client kind cause => s!"Cannot run updates for the {kind.slug} database" :: cause.causes
  | .engine file cause => s!"Failed to open {file}" :: cause.causes
  | .ledger cause => cause.causes
  | .records kind cause => s!"Failed to read the {kind.slug} ledger" :: cause.causes
  | .plan kind cause => s!"Failed to plan the {kind.slug} database" :: cause.causes
  | .incomplete => [""]

/-- The failure in one line. -/
def message (f : Failure) : String := String.intercalate ": " f.chain

end Failure

/-- A part of a command. -/
abbrev Run (α : Type) := Attempt Host.interface Failure α

/-- Carries out a program that cannot fail. -/
def perform {α : Type} (p : Program Host.interface α) : Run α := liftM p

/-- Where the settings are: in the given file, or in the project directory. -/
def Arguments.place (a : Arguments) : Host.Place :=
  match a.settingsFile with
  | some path => .file path
  | none => .directory a.projectDirectory

/-- The directory that a relative source directory starts from. -/
def baseOf : Host.Place → Path
  | .directory path => path
  | .file path => (path.parent?).getD ⟨""⟩

/-- The settings with the source directory below another, unless it starts at the root. -/
def relocate (base : Path) (s : Settings) : Settings :=
  if s.sourceDirectory.isAbsolute then s
  else { s with sourceDirectory := base.join s.sourceDirectory.text }

/-- Loads the settings of a project. -/
def loadSettings (place : Host.Place) : Run Settings := do
  match ← perform (Program.request (I := Host.interface) (.settings place)) with
  | .error cause => throw (.settings place cause)
  | .ok s =>
      perform (Host.reportAll s.warnings)
      pure (relocate (baseOf place) s)

/-- The first of some kinds that has no settings. -/
def firstUnconfigured? (s : Settings) (kinds : List Kind) : Option Kind :=
  kinds.find? fun k => !s.isConfigured k

/-- The databases a command works on, in processing order: the requested ones,
    each once, or all enabled ones when none is requested. -/
def select (s : Settings) (requested : List Kind) : Except Failure (List Kind) :=
  if requested.isEmpty then .ok s.enabled
  else
    let kinds := Kind.dropRepeats (Kind.sort requested)
    match firstUnconfigured? s kinds with
    | some kind => .error (.notConfigured kind)
    | none => .ok kinds

/-- Connects the database of a kind. -/
def connect (s : Settings) (kind : Kind) : Run Host.Link :=
  match s.database? kind with
  | none => throw (.notConfigured kind)
  | some d =>
      match s.connection kind with
      | .error cause => throw (.connection cause)
      | .ok connection =>
          match d.backend with
          | .mysql => do
              let located ← perform (Program.via (I := Client.interface) Host.askClient
                (Client.locate s.clientProgram))
              match located with
              | .ok program => pure (.client ⟨program, connection⟩)
              | .error cause => throw (.client kind cause)
          | .duckdb => do
              let file := d.connection
              match ← perform (Program.request (I := Host.interface) (.openEngine kind file)) with
              | .ok () => pure (.engine kind file)
              | .error reason =>
                  let reason := if file = ":memory:" then reason else s!"{reason}: {file}"
                  throw (.engine file (.connection reason))

/-- A connected database. -/
structure Linked where
  kind : Kind
  link : Host.Link
  deriving DecidableEq, Repr

/-- The database as a target. -/
def Linked.target (l : Linked) : Target := ⟨l.kind, l.link.connection, l.link.dialect⟩

/-- Connects databases in order. -/
def connectAll (s : Settings) : List Kind → Run (List Linked)
  | [] => pure []
  | kind :: rest => do
      let link ← connect s kind
      let others ← connectAll s rest
      pure (⟨kind, link⟩ :: others)

/-- Connected databases as the members of a fleet, numbered in order. -/
def members (links : List Linked) : List Fleet.Member :=
  links.zipIdx.map fun (l, n) => ⟨n, l.target⟩

/-- Asks around one of several connected databases. -/
def askFleet (provider : Prompt.Provider) (links : List Linked) (q : Fleet.Request) :
    Program Host.interface q.question.Reply :=
  Host.askSite provider ((links[q.site]?).map Linked.link) q.question

/-- The settings of a run over selected databases: a request replaces the mask. -/
def settingsFor (s : Settings) (requested selected : List Kind) : Settings :=
  if requested.isEmpty then s
  else { s with updates := { s.updates with enabledKinds := Kind.maskOf selected } }

end SchemaMigration.CommandLine
