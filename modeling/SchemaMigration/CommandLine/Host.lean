import SchemaMigration.Client.Location
import SchemaMigration.Download
import SchemaMigration.Embedded.Database
import SchemaMigration.Prompt
import SchemaMigration.Settings.Basic

/-! # Hosts — everything a command works with

    A command reads settings, connects databases and prepares them.  Below that
    lie files, client calls, engines, a terminal and the log.  `Host` is the
    interface with all of these questions; what a database or an operator is
    asked turns into questions to the host. -/

namespace SchemaMigration.Host

/-- Where the settings of a project are. -/
inductive Place where
  | directory (path : Path)
  | file (path : Path)
  deriving DecidableEq, Repr

/-- What can be asked of a host. -/
inductive Request where
  | settings (place : Place)
  | client (q : Client.Request)
  | openEngine (kind : Kind) (file : String)
  | engine (kind : Kind) (q : Engine.Request)
  | machine (q : Machine.Request)
  | transfer (q : Download.Request)
  | inputIsTerminal
  | terminal (q : Prompt.Request)
  | print (text : String)
  | report (line : Log.Line)

/-- The shape of the answer.  An engine that cannot be opened says why. -/
abbrev Request.Reply : Request → Type
  | .settings _ => Except InputError Settings
  | .client q => q.Reply
  | .openEngine _ _ => Except String Unit
  | .engine _ q => q.Reply
  | .machine q => q.Reply
  | .transfer q => q.Reply
  | .inputIsTerminal => Bool
  | .terminal q => q.Reply
  | .print _ => Unit
  | .report _ => Unit

/-- Requests to a host. -/
abbrev interface : Interface where
  Request := Request
  Reply := Request.Reply

/-- Reports a line. -/
def report (line : Log.Line) : Program interface Unit :=
  Program.request (I := interface) (.report line)

/-- Reports lines in order. -/
def reportAll : List Log.Line → Program interface Unit
  | [] => pure ()
  | line :: rest => do
      report line
      reportAll rest

/-- Prints a text. -/
def print (text : String) : Program interface Unit :=
  Program.request (I := interface) (.print text)

/-- Asks around the client. -/
def askClient : (q : Client.Request) → Program interface q.Reply
  | .log line => report line
  | q => Program.request (I := interface) (.client q)

/-- Asks the engine of a kind. -/
def askEngine (kind : Kind) : (q : Engine.Request) → Program interface q.Reply
  | .log line => report line
  | q => Program.request (I := interface) (.engine kind q)

/-- Asks the machine. -/
def askMachine : (q : Machine.Request) → Program interface q.Reply
  | .log line => report line
  | q => Program.request (I := interface) (.machine q)

/-- Asks the terminal. -/
def askTerminal : (q : Prompt.Request) → Program interface q.Reply
  | .log line => report line
  | q => Program.request (I := interface) (.terminal q)

/-- Asks around a download. -/
def askDownload : (q : Download.Request) → Program interface q.Reply
  | .log line => report line
  | q => Program.request (I := interface) (.transfer q)

/-- How a database is connected. -/
inductive Link where
  | client (c : Client)
  | engine (kind : Kind) (file : String)
  deriving DecidableEq, Repr

namespace Link

/-- The connection of a link. -/
def connection : Link → Connection
  | .client c => c.connection
  | .engine _ file => .embedded file

/-- Which backend a link uses. -/
def backend : Link → Backend
  | .client _ => .mysql
  | .engine _ _ => .duckdb

/-- The dialect that the database speaks. -/
def dialect : Link → Dialect
  | .client _ => .replaceInto
  | .engine _ _ => .insertOrReplace

end Link

/-- Asks a linked database. -/
def askDatabase (link : Option Link) (q : Database.Request) :
    Program interface (Except DatabaseError q.Value) :=
  match link with
  | some (.client c) => Program.via (I := Client.interface) askClient (c.answer q)
  | some (.engine kind _) =>
      Program.via (I := Engine.interface) (askEngine kind) (Embedded.answer q)
  | none => pure (.error (.connection "no database is linked"))

/-- Asks the script runner of a linked database. -/
def askRunner (link : Option Link) (q : Runner.Request) :
    Program interface (Except DatabaseError q.Value) :=
  match link with
  | some (.client c) => Program.via (I := Client.interface) askClient (c.answerRunner q)
  | some (.engine kind _) =>
      Program.via (I := Engine.interface) (askEngine kind) (Embedded.answerRunner q)
  | none => pure (.error (.connection "no database is linked"))

/-- Asks around a linked database. -/
def askSite (provider : Prompt.Provider) (link : Option Link) :
    (q : Site.Request) → Program interface q.Reply
  | .database q => askDatabase link q
  | .runner q => askRunner link q
  | .operator q => Program.via (I := Prompt.interface) askTerminal (provider.answer q)
  | .download url destination =>
      Program.via (I := Download.interface) askDownload (Download.run url destination)
  | .machine q => askMachine q

/-- Carries out a program about a linked database. -/
def atSite {α : Type} (provider : Prompt.Provider) (link : Link) (p : Program Site.interface α) :
    Program interface α :=
  Program.via (I := Site.interface) (askSite provider (some link)) p

end SchemaMigration.Host
