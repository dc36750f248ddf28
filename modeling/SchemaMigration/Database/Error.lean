import SchemaMigration.Files.Error
import SchemaMigration.Files.Path

/-! # Database errors — why a database could not be used -/

namespace SchemaMigration

/-- Why a statement, a script or a connection failed. -/
inductive DatabaseError where
  | connection (reason : String)
  | execution (reason : String)
  | missingClient (searched : String)
  | client (program : Path) (cause : FileError)
  | lock (reason : String)
  deriving DecidableEq, Repr

/-- The error in words. -/
def DatabaseError.message : DatabaseError → String
  | .connection reason => s!"[D001] Database connection failed: {reason}"
  | .execution reason => s!"[D002] SQL execution failed: {reason}"
  | .missingClient searched =>
      s!"[D003] Didn't find any executable MySQL binary at '{searched}' or in PATH; "
        ++ "set `mysql_executable` in dbup.yml"
  | .client program cause =>
      s!"[D004] Failed to run SQL client '{program.text}': {cause.message}"
  | .lock reason => s!"[D006] Database mutex poisoned: {reason}"

/-- The error in words, followed by what caused it. -/
def DatabaseError.causes : DatabaseError → List String
  | .client program cause => [DatabaseError.message (.client program cause), cause.message]
  | other => [other.message]

end SchemaMigration
