import SchemaMigration.Machine
import SchemaMigration.Rehearsal.Rules

/-! # Rehearsed machines — a file tree, a standing clock and a log -/

namespace SchemaMigration.Rehearsal

/-- The path of every temporary script. -/
def temporaryPath : Path := ⟨"/tmp/create_database.sql"⟩

/-- Answers a request to a machine with the given files: the clock stands at the
    fixed time, and the stopwatch at zero. -/
def answerMachine (files : FileTree) : (q : Machine.Request) → q.Reply × FileTree × List Log.Line
  | .isFile path => (files.isFile path, files, [])
  | .isDirectory path => (files.isDirectory path, files, [])
  | .scan source => (source.scan files, files, [])
  | .makeTemporary text => (.ok temporaryPath, files.write temporaryPath text.toUTF8, [])
  | .dropTemporary path => ((), files.remove path, [])
  | .now => ((Timestamp.read? (String.ofList fixedTime)).getD .epoch, files, [])
  | .stopwatch => (0, files, [])
  | .log line => ((), files, [line])

end SchemaMigration.Rehearsal
