import SchemaMigration.Preparation
import SchemaMigration.Settings.Basic

/-! # Fleets — preparing the databases of a project

    The databases are prepared in the order of their kinds, and the first that
    cannot be prepared ends the run.  A kind that the mask leaves out is not
    touched. -/

namespace SchemaMigration.Fleet

/-- A question about one of the databases; `site` says which. -/
structure Request where
  site : Nat
  question : Site.Request

/-- Requests about several databases. -/
abbrev interface : Interface where
  Request := Request
  Reply q := q.question.Reply

/-- Asks the questions of a program about one database. -/
def at_ {α : Type} (site : Nat) (p : Program Site.interface α) : Program interface α :=
  p.via fun q => Program.request (I := interface) ⟨site, q⟩

/-- A database of a project, with the number of its site. -/
structure Member where
  site : Nat
  target : Target

/-- The settings that a kind is prepared with. -/
def settingsFor (s : Settings) (kind : Kind) : RunSettings where
  source := s.sourceDirectory
  options := s.updates.options
  automatic := s.automatic
  baselineUrl := (s.database? kind).bind DatabaseSettings.baselineUrl

/-- The preparation of a database of a project. -/
def preparation (s : Settings) (target : Target) : Preparation :=
  ⟨target, settingsFor s target.kind⟩

/-- Whether update scripts run for a kind. -/
def updatesEnabled (s : Settings) (kind : Kind) : Bool :=
  match s.database? kind with
  | some d => d.updates
  | none => true

/-- Makes the database exist, if that is allowed. -/
def ensureExists (s : Settings) (p : Preparation) : Program Site.interface Bool := do
  if ← p.databaseExists then pure true
  else if s.updates.autoSetup then p.ensureDatabase
  else
    Site.log (.error .fleet
      s!"Database \"{p.databaseName}\" does not exist and updates.auto_setup is disabled")
    pure false

/-- Initialises the database, if that is allowed. -/
def ensurePopulated (s : Settings) (p : Preparation) : Program Site.interface Bool :=
  if s.updates.autoSetup then p.populate else pure true

/-- Brings the database up to date, unless its updates are switched off. -/
def ensureUpdated (s : Settings) (p : Preparation) : Program Site.interface Bool :=
  if updatesEnabled s p.target.kind then p.update
  else do
    Site.log (.info .fleet (s!"{p.policy.settingName} is disabled, skipping updates of the "
      ++ s!"{p.displayName} database"))
    pure true

/-- Prepares one database, each step only after the one before it succeeded. -/
def prepareOne (s : Settings) (target : Target) : Program Site.interface Bool := do
  let p := preparation s target
  if p.policy.isEnabled s.updates.enabledKinds then
    if ← ensureExists s p then
      if ← ensurePopulated s p then ensureUpdated s p else pure false
    else pure false
  else
    Site.log (.debug .fleet s!"{p.displayName} database is not enabled, skipping")
    pure true

/-- Prepares databases one after another until one cannot be prepared. -/
def prepareInOrder (s : Settings) : List Member → Program interface Bool
  | [] => pure true
  | m :: rest => do
      if ← at_ m.site (prepareOne s m.target) then prepareInOrder s rest
      else
        let name := (Policy.ofKind m.target.kind).displayName
        at_ m.site (Site.log (.error .fleet
          s!"Stopping: the {name} database could not be prepared"))
        pure false

/-- Members in the order of their kinds; equal kinds keep their order. -/
def inOrder (members : List Member) : List Member :=
  members.mergeSort fun a b => a.target.kind.le b.target.kind

/-- Prepares databases in the order of their kinds. -/
def prepare (s : Settings) (members : List Member) : Program interface Bool :=
  prepareInOrder s (inOrder members)

end SchemaMigration.Fleet
