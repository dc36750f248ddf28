import SchemaMigration.Database.Connection
import SchemaMigration.Database.Error
import SchemaMigration.Log
import SchemaMigration.Program

/-! # Database requests — what a run asks of a database

    A database runs statements and reads rows of text; a script runner applies
    files and answers single queries over a given connection.  Every request can
    fail. -/

namespace SchemaMigration

/-- One row of a result, every column as text. -/
abbrev Row := List String

/-- The way in which a database replaces a row with the same key. -/
inductive Dialect where
  | replaceInto
  | insertOrReplace
  deriving DecidableEq, Repr

/-- The words a replacing statement starts with. -/
def Dialect.replaceWords : Dialect → String
  | .replaceInto => "REPLACE INTO"
  | .insertOrReplace => "INSERT OR REPLACE INTO"

namespace Database

/-- What can be asked of one target database. -/
inductive Request where
  | execute (sql : String)
  | executeBatch (sql : String)
  | query (sql : String)
  | exists
  | tables
  deriving DecidableEq, Repr

/-- The value of a successful answer. -/
abbrev Request.Value : Request → Type
  | .execute _ => Unit
  | .executeBatch _ => Unit
  | .query _ => List Row
  | .exists => Bool
  | .tables => List String

/-- Requests to one target database. -/
abbrev interface : Interface where
  Request := Request
  Reply q := Except DatabaseError q.Value

end Database

namespace Runner

/-- What can be asked of a script runner.  Applying a file answers the exit
    status, zero for success; a query answers no rows rather than an empty list. -/
inductive Request where
  | file (connection : Connection) (path : Path)
  | query (connection : Connection) (sql : String)
  deriving DecidableEq, Repr

/-- The value of a successful answer. -/
abbrev Request.Value : Request → Type
  | .file _ _ => Int
  | .query _ _ => Option (List Row)

/-- Requests to a script runner. -/
abbrev interface : Interface where
  Request := Request
  Reply q := Except DatabaseError q.Value

end Runner

end SchemaMigration
