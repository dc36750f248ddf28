import SchemaMigration.Database.Request
import SchemaMigration.Text.Shortest

/-! # Embedded engines — a database inside the process

    An engine runs one statement or a whole script and answers queries with
    typed cells.  A cell that has no type of its own, or a null, is shown as
    `NULL`. -/

namespace SchemaMigration.Engine

/-- One cell of a result. -/
inductive Cell where
  | text (value : String)
  | integer (value : Int)
  | real (value : Float)
  | truth (value : Bool)
  | null

/-- The cell as text. -/
def Cell.render : Cell → String
  | .text value => value
  | .integer value => toString value
  | .real value => Shortest.render value
  | .truth true => "true"
  | .truth false => "false"
  | .null => "NULL"

/-- Why a query has no rows: the engine refused it, or failed while handing rows out. -/
inductive QueryFault where
  | refused (reason : String)
  | interrupted (reason : String)
  deriving DecidableEq, Repr

/-- What can be asked of an engine and of the files around it. -/
inductive Request where
  | execute (sql : String)
  | script (sql : String)
  | query (sql : String)
  | readScript (path : Path)
  | log (line : Log.Line)
  deriving DecidableEq, Repr

/-- The shape of the answer; a failure is the engine's own text. -/
abbrev Request.Reply : Request → Type
  | .execute _ => Except String Unit
  | .script _ => Except String Unit
  | .query _ => Except QueryFault (List (List Cell))
  | .readScript _ => Except FileError String
  | .log _ => Unit

/-- Requests to an engine. -/
abbrev interface : Interface where
  Request := Request
  Reply := Request.Reply

/-- Runs one statement. -/
def execute (sql : String) : Program interface (Except String Unit) :=
  Program.request (I := interface) (.execute sql)

/-- Runs a script. -/
def script (sql : String) : Program interface (Except String Unit) :=
  Program.request (I := interface) (.script sql)

/-- Reads the rows of a query. -/
def query (sql : String) : Program interface (Except QueryFault (List (List Cell))) :=
  Program.request (I := interface) (.query sql)

/-- Reads a script file. -/
def readScript (path : Path) : Program interface (Except FileError String) :=
  Program.request (I := interface) (.readScript path)

/-- Reports a line. -/
def log (line : Log.Line) : Program interface Unit :=
  Program.request (I := interface) (.log line)

end SchemaMigration.Engine
