import SchemaMigration.Database.Request
import SchemaMigration.Machine

/-! # Sites — everything around one database

    Preparing one database asks its database and its script runner, the
    operator, the downloader, the files, the clock and the log.  `Site` is the
    interface with all of these questions. -/

namespace SchemaMigration

namespace Operator

/-- What can be asked of the operator: a yes or no, or a path, which may be withheld. -/
inductive Request where
  | confirm (question : String)
  | askPath (question : String)
  deriving DecidableEq, Repr

/-- The operator's answer. -/
abbrev Request.Answer : Request → Type
  | .confirm _ => Bool
  | .askPath _ => Option String

end Operator

namespace Site

/-- What the preparation of one database can ask. -/
inductive Request where
  | database (q : Database.Request)
  | runner (q : Runner.Request)
  | operator (q : Operator.Request)
  | download (url : String) (destination : Path)
  | machine (q : Machine.Request)
  deriving DecidableEq, Repr

/-- The shape of the answer. -/
abbrev Request.Reply : Request → Type
  | .database q => Except DatabaseError q.Value
  | .runner q => Except DatabaseError q.Value
  | .operator q => q.Answer
  | .download _ _ => Except UpdateError Unit
  | .machine q => q.Reply

/-- Requests made while preparing one database. -/
abbrev interface : Interface where
  Request := Request
  Reply := Request.Reply

/-- Runs one statement. -/
def execute (sql : String) : Program interface (Except DatabaseError Unit) :=
  Program.request (I := interface) (.database (.execute sql))

/-- Reads the rows of a query. -/
def query (sql : String) : Program interface (Except DatabaseError (List Row)) :=
  Program.request (I := interface) (.database (.query sql))

/-- Asks whether the database exists. -/
def databaseExists : Program interface (Except DatabaseError Bool) :=
  Program.request (I := interface) (.database .exists)

/-- Lists the tables of the database. -/
def tables : Program interface (Except DatabaseError (List String)) :=
  Program.request (I := interface) (.database .tables)

/-- Applies a script file over a connection. -/
def runFile (connection : Connection) (path : Path) :
    Program interface (Except DatabaseError Int) :=
  Program.request (I := interface) (.runner (.file connection path))

/-- Asks the operator a yes or no. -/
def confirm (question : String) : Program interface Bool :=
  Program.request (I := interface) (.operator (.confirm question))

/-- Asks the operator for a path. -/
def askPath (question : String) : Program interface (Option String) :=
  Program.request (I := interface) (.operator (.askPath question))

/-- Downloads a file. -/
def download (url : String) (destination : Path) : Program interface (Except UpdateError Unit) :=
  Program.request (I := interface) (.download url destination)

/-- Looks whether a path leads to a file. -/
def isFile (path : Path) : Program interface Bool :=
  Program.request (I := interface) (.machine (.isFile path))

/-- Looks whether a path leads to a directory. -/
def isDirectory (path : Path) : Program interface Bool :=
  Program.request (I := interface) (.machine (.isDirectory path))

/-- Reads the scripts of two directories. -/
def scan (source : ScriptSource) :
    Program interface (Except UpdateError (List Script × List Script)) :=
  Program.request (I := interface) (.machine (.scan source))

/-- Makes a temporary script. -/
def makeTemporary (text : String) : Program interface (Except TemporaryFault Path) :=
  Program.request (I := interface) (.machine (.makeTemporary text))

/-- Drops a temporary script. -/
def dropTemporary (path : Path) : Program interface Unit :=
  Program.request (I := interface) (.machine (.dropTemporary path))

/-- The current time. -/
def now : Program interface Timestamp :=
  Program.request (I := interface) (.machine .now)

/-- The stopwatch in milliseconds. -/
def stopwatch : Program interface Nat :=
  Program.request (I := interface) (.machine .stopwatch)

/-- Reports a line. -/
def log (line : Log.Line) : Program interface Unit :=
  Program.request (I := interface) (.machine (.log line))

end Site

end SchemaMigration
