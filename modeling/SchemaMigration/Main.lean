import SchemaMigration.CommandLine.Diagnostics
import SchemaMigration.CommandLine.Reading
import SchemaMigration.CommandLine.Usage
import SchemaMigration.Rehearsal.Host

/-! # The program — a command rehearsed on the files below the current directory

    The files are read first and never changed.  Engines start empty, a MySQL
    client is looked for but not run, nobody is asked anything, and no server is
    reached.  So a rehearsal shows what a command would do to databases that have
    nothing yet. -/

namespace SchemaMigration.CommandLine

/-- The name of the variable that holds a log filter. -/
def filterVariable : String := "DBUP_LOG"

/-- The name of the variable that holds the directories of programs. -/
def searchVariable : String := "PATH"

/-- Reads directory entries from the disk.  What cannot be read counts as absent. -/
partial def readEntries : List IO.FS.DirEntry → IO Directory
  | [] => pure .empty
  | entry :: rest => do
      let others ← readEntries rest
      try
        if ← entry.path.isDir then
          let inside ← readEntries (← entry.path.readDir).toList
          pure (.folder entry.fileName inside others)
        else
          let content ← IO.FS.readBinFile entry.path
          pure (.file entry.fileName content others)
      catch _ => pure others

/-- The files below the current directory. -/
def readTree : IO FileTree := do
  let place ← IO.currentDir
  let names := place.components.filter fun name => !name.isEmpty
  let inside ← readEntries (← place.readDir).toList
  pure ⟨Directory.modify (fun _ => some (.folder inside)) names .empty, names⟩

/-- The surroundings of a rehearsal. -/
def readStage : IO Rehearsal.HostStage := do
  let files ← readTree
  let directories := Rehearsal.searchDirectories ((← IO.getEnv searchVariable).getD "")
  pure (.ofClient { files, directories, program := none, rules := [], calls := [], log := [] })

/-- Rehearses a command and shows what came of it. -/
def rehearse (a : Arguments) : IO UInt32 := do
  let stage ← readStage
  let filter := Log.Filter.choose (← IO.getEnv filterVariable) a.verbose
  let (result, after) := stage.perform a.carryOut
  for line in shownLines Log.Topic.name filter after.reported do IO.eprintln line
  for line in failureLines result do IO.eprintln line
  IO.print after.printed
  pure (statusOf result).toUInt32

/-- What is said about words that make no command. -/
def explain (stop : Stop) : IO UInt32 := do
  match stop with
  | .fault _ => IO.eprint programHelp
  | _ => IO.print stop.text
  pure stop.status.toUInt32

end SchemaMigration.CommandLine

/-- Reads the words of the command line and rehearses the command. -/
def main (words : List String) : IO UInt32 :=
  match SchemaMigration.CommandLine.Arguments.read words with
  | .ok a => SchemaMigration.CommandLine.rehearse a
  | .error stop => SchemaMigration.CommandLine.explain stop
