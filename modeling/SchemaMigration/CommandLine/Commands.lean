import SchemaMigration.CommandLine.Project
import SchemaMigration.CommandLine.Report

/-! # Commands — update, plan, ledger

    Updating prepares the selected databases and reports through the log alone.
    Planning and listing the ledger change nothing and print a report. -/

namespace SchemaMigration.CommandLine

/-- Who answers questions: nobody, unless there is a terminal and it may be used. -/
def chooseProvider (nonInteractive : Bool) : Program Host.interface Prompt.Provider :=
  if nonInteractive then pure .nobody
  else do
    let isTerminal ← Program.request (I := Host.interface) .inputIsTerminal
    pure (.detect isTerminal)

/-- Creates, populates and updates the selected databases. -/
def update (place : Host.Place) (requested : List Kind) (nonInteractive : Bool) : Run Unit := do
  let s ← loadSettings place
  let kinds ← liftExcept (select s requested)
  if kinds.isEmpty then
    perform (Host.report (.warn .updateCommand "No databases are enabled, nothing to update"))
  else
    let s := settingsFor s requested kinds
    let links ← connectAll s kinds
    let provider ← perform (chooseProvider nonInteractive)
    let prepared ← perform (Program.via (I := Fleet.interface) (askFleet provider links)
      (Fleet.prepare s (members links)))
    if !prepared then throw .incomplete
where
  liftExcept {α : Type} (e : Except Failure α) : Run α :=
    match e with
    | .ok a => pure a
    | .error f => throw f

/-- Plans the update of one connected database. -/
def planOne (s : Settings) (l : Linked) : Run Plan := do
  let p := Fleet.preparation s l.target
  match ← perform (Host.atSite .nobody l.link p.plan) with
  | .ok plan => pure plan
  | .error cause => throw (.plan l.kind cause)

/-- Plans the updates of connected databases in order. -/
def planAll (s : Settings) (format : Format) : List Linked → Report.PlanReport →
    Run Report.PlanReport
  | [], report => pure report
  | l :: rest, report => do
      let plan ← planOne s l
      if format = .table then
        let summary := Report.summary (Policy.ofKind l.kind).displayName plan
        perform (Host.report (.info .planCommand summary))
      planAll s format rest (report.add l.kind plan)

/-- Shows what an update of the selected databases would do. -/
def plan (place : Host.Place) (requested : List Kind) (format : Format) : Run Unit := do
  let s ← loadSettings place
  let kinds ← update.liftExcept (select s requested)
  let links ← connectAll s kinds
  let report ← planAll s format links .empty
  match format with
  | .table => perform (Host.print report.table)
  | .json => perform (Host.print (Report.document report.json))

/-- Prints records. -/
def printRecords (format : Format) (records : List Record) : Program Host.interface Unit :=
  match format with
  | .table => Host.print (Report.recordTable records)
  | .json => Host.print (Report.document (.list (records.map Report.recordJson)))

/-- The records of a connected database; without a ledger there are none to list. -/
def recordsOf (kind : Kind) (link : Host.Link) : Run (Option (List Record)) := do
  match ← perform (Host.atSite .nobody link Ledger.tableExists) with
  | .error cause => throw (.ledger cause)
  | .ok false => pure none
  | .ok true =>
      match ← perform (Host.atSite .nobody link (Ledger.perform link.dialect .list)) with
      | .error cause => throw (.records kind cause)
      | .ok records => pure (some records)

/-- Lists the ledger of a database. -/
def ledger (place : Host.Place) (kind : Kind) (archivedOnly : Bool) (format : Format) :
    Run Unit := do
  let s ← loadSettings place
  let link ← connect s kind
  match ← recordsOf kind link with
  | none =>
      perform (Host.report
        (.warn .ledgerCommand s!"The {kind.slug} database has no {Ledger.tableName} table yet"))
      if format = .json then perform (printRecords .json [])
  | some records =>
      let listed := if archivedOnly then records.filter fun r => r.state = .archived else records
      perform (printRecords format listed)

/-- Carries out what was asked for. -/
def Arguments.carryOut (a : Arguments) : Run Unit :=
  match a.command with
  | .update databases nonInteractive => update a.place databases nonInteractive
  | .plan databases format => plan a.place databases format
  | .ledger database archivedOnly format => ledger a.place database archivedOnly format

/-- The exit status of a command. -/
def statusOf : Except Failure Unit → Nat
  | .ok () => 0
  | .error _ => 1

end SchemaMigration.CommandLine
