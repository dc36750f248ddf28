import SchemaMigration.Ledger.Record
import SchemaMigration.Program
import SchemaMigration.UpdateError

/-! # Ledger operations — what a run asks of the ledger

    A ledger is a set of records, one for each path.  Every change touches the
    record of one path. -/

namespace SchemaMigration.Ledger

/-- A change of one record. -/
inductive Change where
  /-- Add or overwrite the record of a path, as active; `speed` is in milliseconds. -/
  | record (path hash : String) (speed : Nat)
  /-- Move a record to the archived state. -/
  | archive (path : String)
  /-- Delete a record. -/
  | remove (path : String)
  /-- Give a record another path and reset its counter. -/
  | rename (old new : String)
  /-- Replace the hash of a record. -/
  | rehash (path hash : String)
  /-- Count one more run without the file. -/
  | markMissing (path : String)
  /-- Reset the counter of runs without the file. -/
  | clearMissing (path : String)
  deriving DecidableEq, Repr

/-- What the change is for, in reports. -/
def Change.describe : Change → String
  | .record path _ _ => s!"record '{path}' as applied"
  | .archive path => s!"archive '{path}'"
  | .remove path => s!"remove '{path}'"
  | .rename old new => s!"rename '{old}' to '{new}'"
  | .rehash path _ => s!"rehash '{path}'"
  | .markMissing path => s!"mark '{path}' missing"
  | .clearMissing path => s!"clear missing count of '{path}'"

/-- What can be asked of a ledger: all records in path order, or a change.
    Counting a missing run answers the new count. -/
inductive Operation where
  | list
  | change (c : Change)
  | countMissing (path : String)
  deriving DecidableEq, Repr

/-- The value of a successful answer. -/
abbrev Operation.Value : Operation → Type
  | .list => List Record
  | .change _ => Unit
  | .countMissing _ => Nat

/-- Operations on one ledger. -/
abbrev interface : Interface where
  Request := Operation
  Reply q := Except UpdateError q.Value

end SchemaMigration.Ledger
