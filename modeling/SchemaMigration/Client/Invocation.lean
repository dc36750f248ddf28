import SchemaMigration.Database.Request

/-! # Client invocations — how the SQL client is called, and what it prints

    The client gets the connection as flags and what to do after `-e`.  The
    password is never an argument: it goes into the environment of the client.
    A query prints one line for each row, with tabs between the columns. -/

namespace SchemaMigration

/-- A client program with the connection of its target database. -/
structure Client where
  program : Path
  connection : Connection
  deriving DecidableEq, Repr

namespace Client

/-- The name that the program is searched by. -/
def programName : String := "mysql"

/-- One call of a program; the password is put into its environment if there is one. -/
structure Invocation where
  program : Path
  arguments : List String
  password : Option String
  deriving DecidableEq, Repr

/-- How a call ended. -/
inductive Ending where
  | exited (status : Nat)
  | killed (signal : Nat)
  deriving DecidableEq, Repr

/-- What a call left behind. -/
structure Output where
  ending : Ending
  standard : ByteArray
  diagnostic : ByteArray

/-- Whether a call ended well. -/
def Ending.isSuccess (e : Ending) : Bool := e = .exited 0

/-- The exit status; a killed client has the status -1. -/
def Ending.status : Ending → Int
  | .exited status => status
  | .killed _ => -1

/-- The flags that say where the server is.  With a socket the port is switched
    off, since it would win otherwise. -/
def placeArguments (c : Connection) : List String :=
  if c.usesSocket then ["-P0", "--protocol=SOCKET", s!"-S{c.portOrSocket}"]
  else [s!"-P{c.portOrSocket}"]

/-- The flag that asks for encryption. -/
def tlsArguments (c : Connection) : List String :=
  match c.tls with
  | .disabled => []
  | .required => ["--ssl-mode=REQUIRED"]

/-- The flags of a connection. -/
def connectionArguments (c : Connection) : List String :=
  [s!"-h{c.host}", s!"-u{c.user}"] ++ placeArguments c
    ++ ["--default-character-set=utf8mb4", "--max-allowed-packet=1GB"] ++ tlsArguments c

/-- The name of the database to use, if there is one. -/
def databaseArguments (c : Connection) : List String :=
  if c.database.isEmpty then [] else [c.database]

/-- A path as the client reads it: with slashes only. -/
def scriptPath (p : Path) : String :=
  String.ofList (p.text.toList.map fun c => if c = '\\' then '/' else c)

/-- What the client is told to do with a script file. -/
def sourceCommand (p : Path) : String :=
  s!"BEGIN; SOURCE {scriptPath p}; COMMIT;"

/-- The arguments that apply a script file inside a transaction. -/
def fileArguments (c : Connection) (p : Path) : List String :=
  connectionArguments c ++ ["-e", sourceCommand p] ++ databaseArguments c

/-- The arguments that run a query and print its rows without headings. -/
def queryArguments (c : Connection) (query : String) : List String :=
  connectionArguments c ++ ["--batch", "--skip-column-names", "-e", query] ++ databaseArguments c

/-- The password that is handed to the client; an empty one is not. -/
def passwordOf (c : Connection) : Option String :=
  if c.password.isEmpty then none else some c.password

/-- A call with a connection. -/
def invocation (client : Client) (c : Connection) (arguments : List String) : Invocation :=
  ⟨client.program, arguments, passwordOf c⟩

/-- The rows that printed text stands for; empty lines are no rows. -/
def rowsOf (text : List Char) : List (List (List Char)) :=
  ((Text.lines text).filter fun line => !line.isEmpty).map (Text.fields '\t')

/-- The rows of printed text, as strings. -/
def readRows (text : String) : List Row :=
  (rowsOf text.toList).map fun row => row.map String.ofList

end Client

end SchemaMigration
