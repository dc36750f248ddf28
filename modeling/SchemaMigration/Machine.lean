import SchemaMigration.Log
import SchemaMigration.Program
import SchemaMigration.Scripts.Scan
import SchemaMigration.Time.Timestamp

/-! # Machines — files, temporary scripts, clocks and the log

    What a run needs of the machine it works on, whatever the databases are. -/

namespace SchemaMigration

/-- Why a temporary script could not be made. -/
inductive TemporaryFault where
  | notCreated (cause : FileError)
  | notWritten (path : Path) (cause : FileError)
  deriving DecidableEq, Repr

/-- The reason in words. -/
def TemporaryFault.message : TemporaryFault → String
  | .notCreated cause => s!"Failed to create temporary query file: {cause.message}"
  | .notWritten path cause =>
      s!"Failed to write temporary query file \"{path.text}\": {cause.message}"

namespace Machine

/-- What can be asked of a machine. -/
inductive Request where
  | isFile (path : Path)
  | isDirectory (path : Path)
  | scan (source : ScriptSource)
  | makeTemporary (text : String)
  | dropTemporary (path : Path)
  | now
  | stopwatch
  | log (line : Log.Line)
  deriving DecidableEq, Repr

/-- The shape of the answer.  The stopwatch counts milliseconds. -/
abbrev Request.Reply : Request → Type
  | .isFile _ => Bool
  | .isDirectory _ => Bool
  | .scan _ => Except UpdateError (List Script × List Script)
  | .makeTemporary _ => Except TemporaryFault Path
  | .dropTemporary _ => Unit
  | .now => Timestamp
  | .stopwatch => Nat
  | .log _ => Unit

/-- Requests to a machine. -/
abbrev interface : Interface where
  Request := Request
  Reply := Request.Reply

end Machine

end SchemaMigration
