import SchemaMigration.Rehearsal.World

/-! # Rehearsal sessions — single steps in a world

    A step is one thing that can be done with the database of a kind: a change
    of its ledger, a part of an update run, a part of its preparation, or a
    direct request.  Running a step answers an outcome or an error. -/

namespace SchemaMigration.Rehearsal

/-- Which records are listed. -/
inductive RecordFilter where
  | all
  | active
  | archived
  deriving DecidableEq, Repr

/-- Whether a record is listed. -/
def RecordFilter.keeps : RecordFilter → Record → Bool
  | .all, _ => true
  | .active, r => r.state = .active
  | .archived, r => r.state = .archived

/-- What is done with a ledger. -/
inductive LedgerStep where
  | list (filter : RecordFilter)
  | change (c : Ledger.Change)
  | countMissing (path : String)
  deriving DecidableEq, Repr

/-- What is done with the scripts of two directories. -/
inductive RunStep where
  | plan
  | keepPlan
  | applyKept
  | update
  deriving DecidableEq, Repr

/-- What is done to prepare a database. -/
inductive PreparationStep where
  | exists
  | create
  | populate
  | update
  | runUpdate
  | plan
  deriving DecidableEq, Repr

/-- What is asked of a database or its runner directly. -/
inductive DirectStep where
  | execute (sql : String)
  | executeBatch (sql : String)
  | query (sql : String)
  | exists
  | tables
  | info
  | runFile (connection : Connection) (file : Path)
  | runQuery (connection : Connection) (sql : String)
  deriving DecidableEq, Repr

/-- One step of a session. -/
inductive Step where
  | ledger (onlyExisting : Bool) (step : LedgerStep)
  | run (source : ScriptSource) (options : Options) (step : RunStep)
  | prepare (settings : RunSettings) (step : PreparationStep)
  | load (settings : Settings) (kinds : List Kind)
  | loadOne (settings : Settings)
  | settings (settings : Settings)
  | direct (step : DirectStep)

/-- What a successful step answers. -/
inductive Outcome where
  | done
  | noLedger
  | records (records : List Record)
  | number (n : Int)
  | truth (b : Bool)
  | plan (p : Plan)
  | summary (s : Update.Summary)
  | settings (s : RunSettings)
  | rows (rows : List Row)
  | noRows
  | names (names : List String)
  | info (connection : Connection) (backend : Backend)

/-- Why a step failed. -/
inductive StepError where
  | update (e : UpdateError)
  | database (e : DatabaseError)

/-- The outcome of a part of an update run. -/
def ofUpdate {α : Type} (f : α → Outcome) : Except UpdateError α → Except StepError Outcome
  | .ok a => .ok (f a)
  | .error e => .error (.update e)

/-- The outcome of a request to a database. -/
def ofDatabase {α : Type} (f : α → Outcome) : Except DatabaseError α → Except StepError Outcome
  | .ok a => .ok (f a)
  | .error e => .error (.database e)

/-- A world together with the plan that was kept for later. -/
structure Session where
  world : World
  kept : Plan

namespace LedgerStep

/-- Does a step with a ledger that is there. -/
def program (dialect : Dialect) : LedgerStep → Program Site.interface (Except StepError Outcome)
  | .list filter => do
      let result ← Ledger.list
      pure (ofUpdate (fun records => .records (records.filter filter.keeps)) result)
  | .change c => do
      let result ← Ledger.change dialect c
      pure (ofUpdate (fun _ => .done) result)
  | .countMissing path => do
      let result ← Ledger.countMissing dialect path
      pure (ofUpdate (fun n => .number n) result)

/-- Opens a ledger and does a step with it. -/
def opened (dialect : Dialect) (onlyExisting : Bool) (step : LedgerStep) :
    Program Site.interface (Except StepError Outcome) := do
  if onlyExisting then
    match ← Ledger.tableExists with
    | .error e => pure (.error (.update e))
    | .ok true => step.program dialect
    | .ok false => pure (.ok .noLedger)
  else
    match ← Ledger.ensureTable with
    | .error e => pure (.error (.update e))
    | .ok () => step.program dialect

end LedgerStep

namespace RunStep

/-- The part of an update run that a step is. -/
def program (source : ScriptSource) (options : Options) (kept : Plan) : RunStep → Update.Run Outcome
  | .plan => Outcome.plan <$> Update.plan source options
  | .keepPlan => Outcome.plan <$> Update.plan source options
  | .applyKept => Outcome.summary <$> Update.apply kept options
  | .update => Outcome.summary <$> Update.update source options

/-- Opens the ledger and does a step with it. -/
def opened (target : Target) (source : ScriptSource) (options : Options) (kept : Plan)
    (step : RunStep) : Program Site.interface (Except StepError Outcome) := do
  match ← Ledger.ensureTable with
  | .error e => pure (.error (.update e))
  | .ok () => do
      let result ← Preparation.carryOut target (step.program source options kept)
      pure (ofUpdate id result)

end RunStep

/-- Does a step of a preparation. -/
def PreparationStep.program (p : Preparation) :
    PreparationStep → Program Site.interface (Except StepError Outcome)
  | .exists => (fun b => .ok (.truth b)) <$> p.databaseExists
  | .create => (fun b => .ok (.truth b)) <$> p.ensureDatabase
  | .populate => (fun b => .ok (.truth b)) <$> p.populate
  | .update => (fun b => .ok (.truth b)) <$> p.update
  | .runUpdate => ofUpdate Outcome.summary <$> p.runUpdate
  | .plan => ofUpdate Outcome.plan <$> p.plan

/-- Makes a direct request. -/
def DirectStep.program (connection : Connection) (backend : Backend) :
    DirectStep → Program Site.interface (Except StepError Outcome)
  | .execute sql => ofDatabase (fun _ => .done) <$> Site.execute sql
  | .executeBatch sql =>
      ofDatabase (fun _ => .done) <$>
        Program.request (I := Site.interface) (.database (.executeBatch sql))
  | .query sql => ofDatabase Outcome.rows <$> Site.query sql
  | .exists => ofDatabase Outcome.truth <$> Site.databaseExists
  | .tables => ofDatabase Outcome.names <$> Site.tables
  | .info => pure (.ok (.info connection backend))
  | .runFile c file => ofDatabase Outcome.number <$> Site.runFile c file
  | .runQuery c sql =>
      ofDatabase (fun rows => rows.elim Outcome.noRows Outcome.rows) <$>
        Program.request (I := Site.interface) (.runner (.query c sql))

namespace Session

/-- Runs a program about the database of a kind. -/
def perform {α : Type} (s : Session) (kind : Kind) (p : Program Site.interface α) : α × Session :=
  let (a, world) := s.world.perform kind p
  (a, { s with world })

/-- Keeps the plan that a step answered, if it asks for that. -/
def keep (s : Session) (step : RunStep) : Except StepError Outcome → Session
  | .ok (.plan p) => if step = .keepPlan then { s with kept := p } else s
  | _ => s

/-- Runs a step with the database of a kind. -/
def step (s : Session) (kind : Kind) (site : RehearsedSite) :
    Step → Except StepError Outcome × Session
  | .ledger onlyExisting step => s.perform kind (step.opened site.dialect onlyExisting)
  | .run source options step =>
      let (result, after) := s.perform kind (step.opened (site.target kind) source options s.kept)
      (result, after.keep step result)
  | .prepare settings step => s.perform kind (step.program ⟨site.target kind, settings⟩)
  | .load settings kinds =>
      let members := kinds.filterMap s.world.member?
      let (b, world) := s.world.performFleet (Fleet.prepare settings members)
      (.ok (.truth b), { s with world })
  | .loadOne settings =>
      let (b, after) := s.perform kind (Fleet.prepareOne settings (site.target kind))
      (.ok (.truth b), after)
  | .settings settings => (.ok (.settings (Fleet.settingsFor settings kind)), s)
  | .direct step => s.perform kind (step.program site.connection site.backend)

end Session

end SchemaMigration.Rehearsal
