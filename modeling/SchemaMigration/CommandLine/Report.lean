import SchemaMigration.Ledger.Record
import SchemaMigration.Plan.Basic
import SchemaMigration.Text.Column
import SchemaMigration.Text.Json

/-! # Reports — plans and ledgers for the operator

    A report is a table with aligned columns, or JSON with the same content.
    Columns are as wide as the longest entry takes in bytes. -/

namespace SchemaMigration.Report

/-- A line of text. -/
def line (s : String) : String := s ++ "\n"

/-- Cells side by side, two blanks apart. -/
def columns (cells : List String) : String := String.intercalate "  " cells

/-- A column of hyphens. -/
def ruler (width : Nat) : String := Text.padRight '-' width ""

/-- Text filled up with blanks. -/
def left (width : Nat) (s : String) : String := Text.padRight ' ' width s

/-- The greatest of some widths, but at least `least`. -/
def widest (least : Nat) (widths : List Nat) : Nat := widths.foldl max least

/-- A planned file of one database. -/
structure PlanRow where
  kind : Kind
  file : PlannedFile

/-- A dead reference of one database. -/
structure DeadRow where
  kind : Kind
  reference : DeadReference

/-- The plans of several databases. -/
structure PlanReport where
  files : List PlanRow
  dead : List DeadRow

namespace PlanReport

/-- The report before any plan. -/
def empty : PlanReport := ⟨[], []⟩

/-- The report with the plan of one more database. -/
def add (r : PlanReport) (kind : Kind) (p : Plan) : PlanReport where
  files := r.files ++ p.entries.map (⟨kind, ·⟩)
  dead := r.dead ++ p.dead.map (⟨kind, ·⟩)

/-- The width of the column of database names. -/
def kindWidth (r : PlanReport) : Nat :=
  widest 8 (r.files.map fun row => row.kind.slug.utf8ByteSize)

/-- The width of the column of paths. -/
def pathWidth (r : PlanReport) : Nat :=
  widest 4 (r.files.map fun row => row.file.script.path.utf8ByteSize)

/-- The width of the column of directory names. -/
def directoryWidth : Nat := 9

/-- The width of shortened hashes. -/
def hashWidth : Nat := 7

/-- One line of the table of files. -/
def fileLine (r : PlanReport) (kind path directory hash action : String) : String :=
  line (columns [left r.kindWidth kind, left r.pathWidth path, left directoryWidth directory,
    left hashWidth hash, action])

/-- The table of files. -/
def fileTable (r : PlanReport) : String :=
  let heading := r.fileLine "DATABASE" "PATH" "DIRECTORY" "HASH" "ACTION"
  let rule := line (columns [ruler r.kindWidth, ruler r.pathWidth, ruler directoryWidth,
    ruler hashWidth, ruler 30])
  let rows := r.files.map fun row =>
    let s := row.file.script
    r.fileLine row.kind.slug s.path s.directory.name (Text.shortened s.hash)
      row.file.verdict.describe
  heading ++ rule ++ String.join rows

/-- The list of dead references. -/
def deadList (r : PlanReport) : String :=
  if r.dead.isEmpty then ""
  else
    let rows := r.dead.map fun row => line (s!"  {row.kind.slug} {row.reference.path} "
      ++ s!"(missing for {row.reference.missingRuns} run(s))")
    line "" ++ line "Dead references:" ++ String.join rows

/-- The report as a table. -/
def table (r : PlanReport) : String :=
  if r.files.isEmpty && r.dead.isEmpty then line "No update scripts found."
  else r.fileTable ++ r.deadList

/-- The report as JSON. -/
def json (r : PlanReport) : Text.Json :=
  .record
    [("files", .list (r.files.map fun row =>
        .record [("database", .text row.kind.slug), ("path", .text row.file.script.path),
          ("directory", .text row.file.script.directory.name),
          ("action", .text row.file.verdict.describe), ("hash", .text row.file.script.hash)])),
      ("dead_references", .list (r.dead.map fun row =>
        .record [("database", .text row.kind.slug), ("path", .text row.reference.path),
          ("missing_runs", .number row.reference.missingRuns)]))]

end PlanReport

/-- What is reported about the plan of one database. -/
def summary (displayName : String) (p : Plan) : String :=
  if p.isNoop then s!"{displayName}: up-to-date"
  else
    let renamed := p.count "renamed"
    let archived := p.count "archived-redundant"
    s!"{displayName}: {p.pending.length} to apply, {renamed} renamed, {archived} to archive, "
      ++ s!"{p.dead.length} dead"

/-- One line of the table of records. -/
def recordLine (pathWidth : Nat) (path hash state applied speed missing : String) : String :=
  line (columns [left pathWidth path, left PlanReport.hashWidth hash, left 8 state,
    left 20 applied, Text.padLeft ' ' 9 speed, missing])

/-- Records as a table. -/
def recordTable (records : List Record) : String :=
  if records.isEmpty then line "No applied updates recorded."
  else
    let width := widest 4 (records.map fun r => r.path.utf8ByteSize)
    let heading := recordLine width "PATH" "HASH" "STATE" "APPLIED" "SPEED_MS" "MISSING"
    let rule := line (columns [ruler width, ruler PlanReport.hashWidth, ruler 8, ruler 20,
      ruler 9, ruler 7])
    let rows := records.map fun r =>
      recordLine width r.path (Text.shortened r.hash) r.state.name r.appliedAt.renderTable
        (toString r.speed) (toString r.missingRuns)
    heading ++ rule ++ String.join rows

/-- A record as JSON. -/
def recordJson (r : Record) : Text.Json :=
  .record [("path", .text r.path), ("hash", .text r.hash),
    ("applied_at", .text r.appliedAt.render), ("speed_ms", .number r.speed),
    ("state", .text r.state.name), ("missing_runs", .number r.missingRuns)]

/-- A JSON value as printed text. -/
def document (j : Text.Json) : String := line (j.pretty 0)

end SchemaMigration.Report
