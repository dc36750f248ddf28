import SchemaMigration.Text.Blank
import SchemaMigration.Text.Escaped
import SchemaMigration.Text.Fields

/-! # Connections — how a database is reached

    A connection string is `host;port_or_socket;user;password;database`, with
    `;ssl` after it when the transport must be encrypted.  Every field but the
    password loses the white space around it, and no rendering shows the
    password. -/

namespace SchemaMigration

/-- Whether the transport is encrypted. -/
inductive Tls where
  | disabled
  | required
  deriving DecidableEq, Repr

/-- The name of the choice. -/
def Tls.name : Tls → String
  | .disabled => "Disabled"
  | .required => "Required"

/-- The parameters of a connection. -/
structure Connection where
  host : String
  portOrSocket : String
  user : String
  password : String
  database : String
  tls : Tls
  deriving DecidableEq, Repr

/-- Why a connection string is refused. -/
inductive ConnectionFault where
  | fieldCount (found : Nat)
  | unknownTls (option : String)
  | noHost
  | noDatabase
  deriving DecidableEq, Repr

/-- The reason in words. -/
def ConnectionFault.message : ConnectionFault → String
  | .fieldCount found =>
      s!"expected 'host;port_or_socket;user;password;database[;ssl]', got {found} fields"
  | .unknownTls option => s!"unknown TLS option '{option}' (only 'ssl' is supported)"
  | .noHost => "host and port_or_socket must not be empty"
  | .noDatabase => "database name must not be empty"

namespace Connection

/-- Reads the optional last field. -/
def readTls (field : String) : Except ConnectionFault Tls :=
  match Text.trim field with
  | "" => .ok .disabled
  | "ssl" => .ok .required
  | other => .error (.unknownTls other)

/-- Refuses a connection without a place to connect to or a database to use. -/
def checked (c : Connection) : Except ConnectionFault Connection :=
  if c.host.isEmpty ∨ c.portOrSocket.isEmpty then .error .noHost
  else if c.database.isEmpty then .error .noDatabase
  else .ok c

/-- The connection of the five leading fields. -/
def ofFields (host port user password database : String) (tls : Tls) : Connection :=
  ⟨Text.trim host, Text.trim port, Text.trim user, password, Text.trim database, tls⟩

/-- Reads a connection string.  The number of fields is checked first, then the
    TLS option, then the fields that must not be empty. -/
def read (value : String) : Except ConnectionFault Connection :=
  match Text.split ';' value with
  | [host, port, user, password, database] =>
      (ofFields host port user password database .disabled).checked
  | [host, port, user, password, database, option] => do
      let tls ← readTls option
      (ofFields host port user password database tls).checked
  | fields => .error (.fieldCount fields.length)

/-- The connection string of a connection. -/
def write (c : Connection) : String :=
  let fields := [c.host, c.portOrSocket, c.user, c.password, c.database]
  let option := match c.tls with
    | .disabled => []
    | .required => ["ssl"]
  String.intercalate ";" (fields ++ option)

/-- The connection of an embedded database: its file path is also its name. -/
def embedded (path : String) : Connection :=
  ⟨"localhost", path, "", "", path, .disabled⟩

/-- Whether the second field names a socket: a port starts with a digit. -/
def usesSocket (c : Connection) : Bool :=
  match c.portOrSocket.toList with
  | [] => true
  | first :: _ => !first.isDigit

/-- The connection to the server without a database to use. -/
def withoutDatabase (c : Connection) : Connection :=
  { c with database := "" }

/-- The short rendering. -/
def render (c : Connection) : String :=
  s!"{c.user}@{c.host}:{c.portOrSocket}/{c.database}"

/-- The rendering with every field named, and the password hidden. -/
def diagnostic (c : Connection) : String :=
  "ConnectionInfo \x7b host: " ++ Text.diagnostic c.host
    ++ ", port_or_socket: " ++ Text.diagnostic c.portOrSocket
    ++ ", user: " ++ Text.diagnostic c.user
    ++ ", password: \"<redacted>\", database: " ++ Text.diagnostic c.database
    ++ ", tls: " ++ c.tls.name ++ " \x7d"

end Connection

end SchemaMigration
