import SchemaMigration.Download
import SchemaMigration.Files.Change

/-! # Rehearsed servers — replies in order, one for each connection

    A server listens at one place and has its replies ready.  Once they are used
    up, or at any other place, nobody answers.  A download from it changes a file
    tree. -/

namespace SchemaMigration.Rehearsal

/-- A server, with the addresses that it was asked for. -/
structure Server where
  host : String
  port : Nat
  replies : List ByteArray
  asked : List Http.Url

namespace Server

/-- A server that nobody can reach. -/
def absent : Server := ⟨"", 0, [], []⟩

/-- Whether an address leads to the server. -/
def isAt (s : Server) (u : Http.Url) : Bool :=
  !u.secure && u.host == s.host && u.port.getD (Http.Url.usualPort false) == s.port

/-- Answers a connection with the next reply. -/
def answer (u : Http.Url) (s : Server) : Option ByteArray × Server :=
  match s.replies with
  | [] => (none, s)
  | reply :: rest =>
      if s.isAt u then (some reply, { s with replies := rest, asked := s.asked ++ [u] })
      else (none, s)

end Server

/-- The tree after a step that may be refused, and its answer. -/
def settle (files : FileTree) : Except FileError FileTree → Except FileError Unit × FileTree
  | .ok after => (.ok (), after)
  | .error cause => (.error cause, files)

/-- Answers the requests of a download from a server to a file tree. -/
def answerDownload : (q : Download.Request) → Server × FileTree × List Log.Line →
    q.Reply × Server × FileTree × List Log.Line
  | .fetch url, (server, files, log) =>
      let (reply, server) := (Http.fetch url).run (I := Http.wire) Server.answer server
      (reply, server, files, log)
  | .makeDirectory path, (server, files, log) =>
      let (reply, files) := settle files (files.makeDirectory path)
      (reply, server, files, log)
  | .makeTemporary directory, (server, files, log) =>
      match files.makeTemporary directory with
      | .ok (path, files) => (.ok path, server, files, log)
      | .error cause => (.error cause, server, files, log)
  | .append temporary piece, (server, files, log) =>
      let (reply, files) := settle files (files.append temporary piece)
      (reply, server, files, log)
  | .finish _, rest => (.ok (), rest)
  | .replace destination temporary, (server, files, log) =>
      let (reply, files) := settle files (files.replace destination temporary)
      (reply, server, files, log)
  | .drop temporary, (server, files, log) => ((), server, files.remove temporary, log)
  | .log line, (server, files, log) => ((), server, files, log ++ [line])

end SchemaMigration.Rehearsal
