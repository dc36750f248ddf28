import SchemaMigration.Scripts.Basic
import SchemaMigration.UpdateError

/-! # Scanning — the scripts below two directories

    Live scripts lie anywhere below the updates directory, archived ones
    anywhere below the archive.  The archive may lie inside the updates
    directory and is then left out of the live scripts.  Each list is in
    component-by-component order of the paths. -/

namespace SchemaMigration

/-- The two directories that a run reads from. -/
structure ScriptSource where
  updates : Path
  archived : Path
  deriving DecidableEq, Repr

/-- A script file found below a directory: the names that lead to it, how its
    path is written, and its bytes. -/
structure FoundFile where
  names : List String
  location : Path
  content : ByteArray

namespace FoundFile

/-- Whether names come no later than others, name by name. -/
def namesLe : List String → List String → Bool
  | [], _ => true
  | _ :: _, [] => false
  | a :: as, b :: bs => if a = b then namesLe as bs else a ≤ b

/-- Whether `a` comes no later than `b`, component by component. -/
def le (a b : FoundFile) : Bool := namesLe a.names b.names

/-- The script that a found file is. -/
def script (directory : DirectoryClass) (root : Path) (f : FoundFile) : Script :=
  Script.ofBytes root f.location directory f.content

end FoundFile

namespace Directory

/-- The script files in a directory and below it, in listing order.  `place` is
    how the path of the directory is written and `names` leads to it from the
    scanned root; a folder at `excluded` is passed over. -/
def scriptFiles (excluded : Option Path) (place : Path) (names : List String) :
    Directory → List FoundFile
  | .empty => []
  | .file name content rest =>
      let others := scriptFiles excluded place names rest
      if Path.extensionOf? name = some "sql" then
        ⟨names ++ [name], place.join name, content⟩ :: others
      else others
  | .folder name inside rest =>
      let others := scriptFiles excluded place names rest
      let below := place.join name
      if excluded.any fun e => e.same below then others
      else scriptFiles excluded below (names ++ [name]) inside ++ others

end Directory

namespace ScriptSource

/-- The scripts of one directory, in component order. -/
def collect (root : Path) (excluded : Option Path) (directory : DirectoryClass)
    (inside : Directory) : List Script :=
  ((inside.scriptFiles excluded root []).mergeSort FoundFile.le).map
    (FoundFile.script directory root)

/-- The live and the archived scripts.  A missing updates directory is an error,
    a missing archive holds no scripts. -/
def scan (tree : FileTree) (source : ScriptSource) :
    Except UpdateError (List Script × List Script) :=
  match tree.item source.updates with
  | .ok (.folder inside) =>
      let live := collect source.updates (some source.archived) .updates inside
      match tree.item source.archived with
      | .ok (.folder archive) => .ok (live, collect source.archived none .archived archive)
      | _ => .ok (live, [])
  | _ => .error (.directoryNotFound source.updates)

end ScriptSource

end SchemaMigration
