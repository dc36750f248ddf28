import SchemaMigration.Scripts.Basic

/-! # Plans — what an update run would do -/

namespace SchemaMigration

/-- Why a script has to be run. -/
inductive PendingReason where
  | new
  | contentChanged
  | renameNotAllowed
  | duplicate
  deriving DecidableEq, Repr

/-- The decision for one scanned file. -/
inductive Verdict where
  /-- Run it and record it. -/
  | pending (reason : PendingReason)
  /-- Recorded with the same content. -/
  | applied
  /-- Recorded under a path that is gone; the record moves. -/
  | renamed (old : String)
  /-- Recorded without a hash, which is filled in. -/
  | rehash
  /-- Another script brings the same content. -/
  | redundant (kept : String)
  /-- The archived file of an active record, which becomes archived. -/
  | archivedRedundant (record : String)
  /-- An archived file that asks for nothing. -/
  | archived
  deriving DecidableEq, Repr

namespace Verdict

/-- Whether the file is run. -/
def isPending : Verdict → Bool
  | .pending _ => true
  | _ => false

/-- Whether the decision changes neither the database nor the ledger. -/
def isQuiet : Verdict → Bool
  | .applied => true
  | .archived => true
  | .redundant _ => true
  | _ => false

/-- The short name of the decision. -/
def label : Verdict → String
  | .pending .new => "new"
  | .pending .contentChanged => "changed"
  | .pending .renameNotAllowed => "rename-rerun"
  | .pending .duplicate => "duplicate-rerun"
  | .applied => "applied"
  | .renamed _ => "renamed"
  | .rehash => "rehash"
  | .redundant _ => "redundant"
  | .archivedRedundant _ => "archived-redundant"
  | .archived => "archived"

/-- The decision in words. -/
def describe : Verdict → String
  | .renamed old => s!"renamed from {old}"
  | .redundant kept => s!"redundant (duplicate of {kept})"
  | .archivedRedundant record => s!"archived-redundant (archives {record})"
  | other => other.label

end Verdict

/-- A scanned file with its decision. -/
structure PlannedFile where
  script : Script
  verdict : Verdict
  deriving DecidableEq, Repr

/-- A record that no scanned file accounts for, with its counter before the run. -/
structure DeadReference where
  path : String
  missingRuns : Nat
  deriving DecidableEq, Repr

/-- What an update run would do. -/
structure Plan where
  /-- The live scripts in ascending path order, then the archived ones. -/
  entries : List PlannedFile
  /-- The records whose file is gone. -/
  dead : List DeadReference
  /-- The paths of records whose file was gone and is back. -/
  recovered : List String
  deriving DecidableEq, Repr

namespace Plan

/-- The plan of a run that has nothing to look at. -/
def nothing : Plan := ⟨[], [], []⟩

/-- The files to run, in the order in which they run. -/
def pending (p : Plan) : List PlannedFile :=
  p.entries.filter fun e => e.verdict.isPending

/-- How many entries have a label. -/
def count (p : Plan) (label : String) : Nat :=
  (p.entries.filter fun e => e.verdict.label = label).length

/-- Whether a run would neither run a script nor change the ledger. -/
def isNoop (p : Plan) : Bool :=
  p.entries.all (fun e => e.verdict.isQuiet) && p.dead.isEmpty && p.recovered.isEmpty

end Plan

end SchemaMigration
