import SchemaMigration.Client.Database

/-! # Locating the client — the configured program, or one from the search path

    A configured program is taken when it is a file.  Otherwise the directories
    that programs are searched in are tried in order. -/

namespace SchemaMigration.Client

/-- The first of some paths that leads to a file. -/
def firstFile : List Path → Program interface (Option Path)
  | [] => pure none
  | path :: rest => do
      if ← isFile path then pure (some path) else firstFile rest

/-- Searches the directories for programs. -/
def search : Program interface (Option Path) := do
  let directories ← Program.request (I := interface) .programDirectories
  firstFile (directories.map fun d => d.join programName)

/-- Searches the directories for programs, when no configured one was a file. -/
def searchInstead (configured : Option Path) : Program interface (Except DatabaseError Path) := do
  match ← search with
  | some found =>
      if configured.isSome then
        log (.warn .client
          s!"Configured mysql_executable not found, using '{found.text}' from PATH")
      pure (.ok found)
  | none =>
      pure (.error (.missingClient ((configured.map Path.text).getD programName)))

/-- The client program, as a path from the root if it is the configured one. -/
def locate (configured : Option Path) : Program interface (Except DatabaseError Path) := do
  match configured with
  | none => searchInstead none
  | some path =>
      if ← isFile path then
        let current ← Program.request (I := interface) .currentDirectory
        pure (.ok (Path.absolute current path))
      else searchInstead (some path)

end SchemaMigration.Client
