import SchemaMigration.Client.Location
import SchemaMigration.Files.Tree

/-! # Rehearsed clients — a client program that answers from rules

    The client program is one file of a tree.  A call of it prints what the
    first rule says whose pattern the command contains, and is noted.  Any other
    file cannot be run. -/

namespace SchemaMigration.Rehearsal

/-- What the client prints for the commands that contain a pattern, and how it ends. -/
structure ClientRule where
  pattern : String
  output : Client.Output

/-- The surroundings of a client. -/
structure ClientStage where
  files : FileTree
  /-- The directories that programs are searched in. -/
  directories : List Path
  /-- The client program, if there is one. -/
  program : Option Path
  rules : List ClientRule
  calls : List Client.Invocation
  log : List Log.Line

/-- The output of a client that has nothing to say. -/
def silence : Client.Output := ⟨.exited 0, .empty, .empty⟩

/-- The command among the arguments of a call. -/
def commandOf : List String → String
  | "-e" :: command :: _ => command
  | _ :: rest => commandOf rest
  | [] => ""

namespace ClientStage

/-- Whether a path leads to the client program. -/
def check (s : ClientStage) (path : Path) : Except FileError Unit :=
  match s.files.item path with
  | .error cause => .error cause
  | .ok (.folder _) => .error .denied
  | .ok (.file _) =>
      if s.program.any fun p => s.files.resolve p = s.files.resolve path then .ok ()
      else .error .denied

/-- Tries paths in order; a file that cannot be run is worse news than no file. -/
def checkAny (s : ClientStage) : List Path → Except FileError Unit
  | [] => .error .notFound
  | path :: rest =>
      match s.check path with
      | .ok () => .ok ()
      | .error .denied =>
          match s.checkAny rest with
          | .ok () => .ok ()
          | .error _ => .error .denied
      | .error _ => s.checkAny rest

/-- Whether a text holds the character that ends texts for the system. -/
def hasNul (text : String) : Bool := text.toList.contains (Char.ofNat 0)

/-- Whether a call can be started.  A name without a slash is searched. -/
def canStart (s : ClientStage) (i : Client.Invocation) : Except FileError Unit :=
  if hasNul i.program.text || i.arguments.any hasNul || i.password.any hasNul then
    .error .nulInArgument
  else if i.program.text.toList.contains '/' then s.check i.program
  else if i.program.isEmpty then .error .notFound
  else s.checkAny (s.directories.map fun d => d.join i.program.text)

/-- What the rules say about a call. -/
def outputFor (s : ClientStage) (i : Client.Invocation) : Client.Output :=
  match s.rules.find? fun r => Text.contains (commandOf i.arguments) r.pattern with
  | some r => r.output
  | none => silence

/-- Answers requests around a client. -/
def answer : (q : Client.Request) → ClientStage → q.Reply × ClientStage
  | .call i, s =>
      match s.canStart i with
      | .error cause => (.error cause, s)
      | .ok () => (.ok (s.outputFor i), { s with calls := s.calls ++ [i] })
  | .isFile path, s => (s.files.isFile path, s)
  | .programDirectories, s => (s.directories, s)
  | .currentDirectory, s => (⟨"/" ++ String.intercalate "/" s.files.current⟩, s)
  | .log line, s => ((), { s with log := s.log ++ [line] })

/-- Runs a program around a client. -/
def perform {α : Type} (s : ClientStage) (p : Program Client.interface α) : α × ClientStage :=
  p.run (I := Client.interface) answer s

end ClientStage

/-- The directories that a search path names. -/
def searchDirectories (value : String) : List Path :=
  (Text.split ':' value).map Path.mk

end SchemaMigration.Rehearsal
