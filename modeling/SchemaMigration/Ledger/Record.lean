import SchemaMigration.Time.Timestamp

/-! # Ledger records — which scripts a database has seen -/

namespace SchemaMigration

/-- Where the file of a record was last known to be. -/
inductive RecordState where
  | active
  | archived
  deriving DecidableEq, Repr

namespace RecordState

/-- The value in the state column. -/
def column : RecordState → String
  | .active => "RELEASED"
  | .archived => "ARCHIVED"

/-- Reads the state column. -/
def ofColumn? : String → Option RecordState
  | "RELEASED" => some .active
  | "ARCHIVED" => some .archived
  | _ => none

/-- The name of the state in reports. -/
def name : RecordState → String
  | .active => "active"
  | .archived => "archived"

end RecordState

/-- One applied script.  A record from older bookkeeping may have no hash.
    `missingRuns` counts the runs in a row that did not find its file. -/
structure Record where
  path : String
  hash : String
  appliedAt : Timestamp
  speed : Nat
  state : RecordState
  missingRuns : Nat
  deriving DecidableEq, Repr

end SchemaMigration
