import SchemaMigration.Database.Error
import SchemaMigration.InputError

/-! # Update errors — why an update run stopped

    Every error carries a hint that is reported beside it. -/

namespace SchemaMigration

/-- Why an update run, or a part of it, failed. -/
inductive UpdateError where
  | directoryNotFound (path : Path)
  | scriptFailed (path : String) (detail : String)
  | ledger (context : String) (cause : DatabaseError)
  | download (url : String) (reason : String)
  | missingClient (searched : String)
  | input (cause : InputError)
  | database (cause : DatabaseError)
  deriving DecidableEq, Repr

namespace UpdateError

/-- A database error outside the ledger; a missing client keeps a case of its own. -/
def ofDatabase : DatabaseError → UpdateError
  | .missingClient searched => .missingClient searched
  | other => .database other

/-- The error in words. -/
def message : UpdateError → String
  | .directoryNotFound path => s!"[U001] Update directory not found: {path.text}"
  | .scriptFailed path detail => s!"[U002] Applying update '{path}' failed: {detail}"
  | .ledger context cause => s!"[U003] Update ledger error ({context}): {cause.message}"
  | .download url reason => s!"[U004] Failed to download {url}: {reason}"
  | .missingClient searched =>
      s!"[U005] Didn't find any executable MySQL binary at '{searched}' or in PATH"
  | .input cause => s!"[U006] {cause.message}"
  | .database cause => s!"[U007] {cause.message}"

/-- The error in words, followed by what caused it. -/
def causes : UpdateError → List String
  | .ledger context cause => message (.ledger context cause) :: cause.causes
  | .input cause => message (.input cause) :: cause.causes
  | other => [other.message]

/-- What an operator can do about it. -/
def hint : UpdateError → String
  | .directoryNotFound _ =>
      "change `source_directory` in dbup.yml to the directory containing your sql directory"
  | .scriptFailed _ _ =>
      "fix the failing script; updates applied before it are recorded and will not run again"
  | .ledger _ _ =>
      "check the database connection; a script may have run without being recorded "
        ++ "and could be applied again"
  | .download _ _ =>
      "download the baseline manually and place it at the expected base file path"
  | .missingClient _ => "install the MySQL client or set `mysql_executable` in dbup.yml"
  | .input _ => "check the file permissions of the updates directory"
  | .database _ => "check the database connection settings"

end UpdateError

end SchemaMigration
