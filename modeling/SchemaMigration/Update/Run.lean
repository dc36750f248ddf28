import SchemaMigration.Ledger.Operation
import SchemaMigration.Log
import SchemaMigration.Plan.Build
import SchemaMigration.Scripts.Scan
import SchemaMigration.Text.Column

/-! # Update runs — carrying out a plan

    A run first makes the changes that only the ledger needs, then applies the
    pending scripts in order and records each, then looks after the records
    whose files are gone.  The first failure ends it: scripts applied before
    stay recorded, and nothing after is touched. -/

namespace SchemaMigration.Update

/-- What an update run can ask. -/
inductive Request where
  | scan (source : ScriptSource)
  | ledger (op : Ledger.Operation)
  | runScript (location : Path)
  | stopwatch
  | log (line : Log.Line)
  deriving DecidableEq, Repr

/-- The shape of the answer.  Applying a script answers its exit status. -/
abbrev Request.Reply : Request → Type
  | .scan _ => Except UpdateError (List Script × List Script)
  | .ledger op => Except UpdateError op.Value
  | .runScript _ => Except DatabaseError Int
  | .stopwatch => Nat
  | .log _ => Unit

/-- Requests made by an update run. -/
abbrev interface : Interface where
  Request := Request
  Reply := Request.Reply

/-- A part of an update run. -/
abbrev Run (α : Type) := Attempt interface UpdateError α

/-- Reports a line. -/
def log (line : Log.Line) : Run Unit :=
  liftM (Program.request (I := interface) (.log line))

/-- The stopwatch in milliseconds. -/
def stopwatch : Run Nat :=
  liftM (Program.request (I := interface) .stopwatch)

/-- Reads the scripts. -/
def scan (source : ScriptSource) : Run (List Script × List Script) :=
  .mk (Program.request (I := interface) (.scan source))

/-- All records of the ledger. -/
def records : Run (List Record) :=
  .mk (Program.request (I := interface) (.ledger .list))

/-- Changes the ledger. -/
def change (c : Ledger.Change) : Run Unit :=
  .mk (Program.request (I := interface) (.ledger (.change c)))

/-- Counts a run without the file of a path. -/
def countMissing (path : String) : Run Nat :=
  .mk (Program.request (I := interface) (.ledger (.countMissing path)))

/-- Applies a script file. -/
def runScript (location : Path) : Run (Except DatabaseError Int) :=
  liftM (Program.request (I := interface) (.runScript location))

/-- What a run did. -/
structure Summary where
  /-- Scripts that were run. -/
  updated : Nat
  /-- Scripts that were run and had no record before. -/
  recent : Nat
  /-- Records that were archived. -/
  archived : Nat
  /-- Records that were removed. -/
  cleaned : Nat
  deriving DecidableEq, Repr

/-- Scans the files and plans against the ledger, without changing anything. -/
def plan (source : ScriptSource) (options : Options) : Run Plan := do
  let (live, archived) ← scan source
  let known ← records
  log (.debug .update (s!"Scanned {live.length} update(s) and {archived.length} archived update(s) "
    ++ s!"against {known.length} ledger record(s)"))
  pure (Plan.build ⟨live, archived, known, options⟩)

/-- The change that a decision needs in the ledger alone. -/
def ledgerChange (e : PlannedFile) : Option Ledger.Change :=
  match e.verdict with
  | .renamed old => some (.rename old e.script.path)
  | .rehash => some (.rehash e.script.path e.script.hash)
  | .archivedRedundant record => some (.archive record)
  | _ => none

/-- What is reported before a decision is carried out in the ledger. -/
def announcement (e : PlannedFile) : Option Log.Line :=
  let path := e.script.path
  let hash := Text.shortened e.script.hash
  match e.verdict with
  | .renamed old => some (.info .update s!"Renaming update \"{old}\" to \"{path}\" '{hash}'.")
  | .rehash => some (.info .update s!"Updating hash of \"{path}\" to '{hash}'.")
  | .archivedRedundant record =>
      some (.info .update s!"Archiving update \"{record}\" (found as \"{path}\").")
  | .redundant kept => some (.debug .update s!"Skipping \"{path}\", same content as \"{kept}\"")
  | _ => none

/-- Carries out what a decision needs in the ledger alone. -/
def settle (e : PlannedFile) : Run Unit := do
  match announcement e with
  | some line => log line
  | none => pure ()
  match ledgerChange e with
  | some c => change c
  | none => pure ()

/-- Carries out what the decisions need in the ledger alone, in order. -/
def settleAll : List PlannedFile → Run Unit
  | [] => pure ()
  | e :: rest => do
      settle e
      settleAll rest

/-- Applies a pending script and records it. -/
def applyScript (s : Script) : Run Unit := do
  log (.info .update s!"Applying update \"{s.path}\" '{Text.shortened s.hash}'...")
  let started ← stopwatch
  match ← runScript s.location with
  | .error cause => throw (.scriptFailed s.path cause.message)
  | .ok status =>
      if status ≠ 0 then
        throw (.scriptFailed s.path s!"SQL client exited with status {status}")
      let stopped ← stopwatch
      tryCatch (change (.record s.path s.hash (stopped - started))) fun e => do
        log (.error .update (s!"Update \"{s.path}\" was applied but could not be recorded; "
          ++ "it will be applied again on the next run"))
        throw e

/-- Applies pending scripts in order. -/
def applyAll : List PlannedFile → Run Unit
  | [] => pure ()
  | e :: rest => do
      applyScript e.script
      applyAll rest

/-- Resets the counters of records whose files are back. -/
def clearAll : List String → Run Unit
  | [] => pure ()
  | path :: rest => do
      change (.clearMissing path)
      clearAll rest

/-- Counts one more run without the file of a record, and removes the record when
    the count exceeds the limit.  Answers how many records went. -/
def bury (limit : Nat) (path : String) : Run Nat := do
  let missing ← countMissing path
  if missing > limit then
    log (.info .update s!"Deleting orphaned entry \"{path}\" (missing for {missing} runs)...")
    change (.remove path)
    pure 1
  else
    log (.warn .update s!"Update \"{path}\" is applied but its file is missing ({missing}/{limit})")
    pure 0

/-- Looks after dead records in order. -/
def buryAll (limit : Nat) : List DeadReference → Run Nat
  | [] => pure 0
  | d :: rest => do
      let one ← bury limit d.path
      let others ← buryAll limit rest
      pure (one + others)

/-- Looks after records whose files are back or gone; without a limit nothing is done. -/
def cleanUp (p : Plan) (options : Options) : Run Nat :=
  match options.limit? with
  | none => pure 0
  | some limit => do
      clearAll p.recovered
      buryAll limit p.dead

/-- Carries out a plan. -/
def apply (p : Plan) (options : Options) : Run Summary := do
  settleAll p.entries
  applyAll p.pending
  let cleaned ← cleanUp p options
  pure
    { updated := p.pending.length
      recent := (p.pending.filter fun e => e.verdict ≠ .pending .contentChanged).length
      archived := p.count "archived-redundant"
      cleaned }

/-- Plans and carries out the plan. -/
def update (source : ScriptSource) (options : Options) : Run Summary := do
  let p ← plan source options
  apply p options

end SchemaMigration.Update
