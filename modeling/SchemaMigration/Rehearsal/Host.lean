import SchemaMigration.CommandLine.Commands
import SchemaMigration.Rehearsal.Client
import SchemaMigration.Rehearsal.Server
import SchemaMigration.Rehearsal.World
import SchemaMigration.Settings.File

/-! # Rehearsed hosts — a command line with everything it touches as a value

    Settings and scripts are read from a file tree, engines start empty, the
    client answers from rules, and downloads come from a rehearsed server. -/

namespace SchemaMigration.Rehearsal

/-- The surroundings of a command, with what it printed and reported. -/
structure HostStage where
  client : ClientStage
  engines : List (Kind × ScriptedStore)
  server : Server
  /-- The operator's input, and whether it is a terminal. -/
  transcript : Prompt.Transcript
  inputIsTerminal : Bool
  printed : String
  reported : List Log.Line

/-- An engine without any tables. -/
def freshEngine : ScriptedStore :=
  { store := ⟨⟨none, []⟩, none⟩, rules := [], statements := [], hideSpeed := true }

/-- Why the engine cannot open a file: its name says so. -/
def openFault (file : String) : Except String Unit :=
  if Text.contains file "unopenable" then .error "IO Error: cannot open file" else .ok ()

namespace HostStage

/-- The surroundings of a command that nobody watches. -/
def ofClient (client : ClientStage) : HostStage :=
  { client, engines := [], server := .absent, transcript := ⟨[], "", []⟩, inputIsTerminal := false
    printed := "", reported := [] }

/-- The files. -/
def files (s : HostStage) : FileTree := s.client.files

/-- The stage with other files. -/
def setFiles (s : HostStage) (files : FileTree) : HostStage :=
  { s with client := { s.client with files } }

/-- The stage with reported lines. -/
def add (s : HostStage) (lines : List Log.Line) : HostStage :=
  { s with reported := s.reported ++ lines }

/-- The stage with the engine of a kind. -/
def setEngine (s : HostStage) (kind : Kind) (e : ScriptedStore) : HostStage :=
  { s with engines := (kind, e) :: s.engines.filter fun (k, _) => k != kind }

/-- Answers the requests of a command. -/
def answer : (q : Host.Request) → HostStage → q.Reply × HostStage
  | .settings (.directory path), s => (Settings.loadFrom s.files path, s)
  | .settings (.file path), s => (Settings.load s.files path, s)
  | .client q, s =>
      let (reply, client) := ClientStage.answer q s.client
      (reply, { s with client })
  | .openEngine kind file, s => (openFault file, s.setEngine kind freshEngine)
  | .engine kind q, s =>
      let engine := (s.engines.lookup kind).getD freshEngine
      let (reply, engine, log) := ScriptedStore.engineAnswer s.files q (engine, [])
      (reply, (s.setEngine kind engine).add log)
  | .machine q, s =>
      let (reply, files, log) := answerMachine s.files q
      (reply, (s.setFiles files).add log)
  | .transfer q, s =>
      let (reply, server, files, log) := answerDownload q (s.server, s.files, [])
      (reply, ({ s.setFiles files with server }).add log)
  | .inputIsTerminal, s => (s.inputIsTerminal, s)
  | .terminal q, s =>
      let (reply, transcript) := Prompt.Transcript.answer q s.transcript
      (reply, { s with transcript })
  | .print text, s => ((), { s with printed := s.printed ++ text })
  | .report line, s => ((), s.add [line])

/-- Runs a part of a command. -/
def perform {α : Type} (s : HostStage) (run : CommandLine.Run α) :
    Except CommandLine.Failure α × HostStage :=
  Program.run (I := Host.interface) answer run.run s

end HostStage

end SchemaMigration.Rehearsal
