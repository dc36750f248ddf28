import SchemaMigration.Digest.Sha256
import SchemaMigration.Files.Tree
import SchemaMigration.InputError

/-! # Update scripts — files that change a database

    A script is named by its path below the directory it was found in and
    identified by the digest of its bytes. -/

namespace SchemaMigration

/-- Which kind of directory a script was found in. -/
inductive DirectoryClass where
  | base
  | updates
  | archived
  deriving DecidableEq, Repr

/-- The name of the class. -/
def DirectoryClass.name : DirectoryClass → String
  | .base => "base"
  | .updates => "updates"
  | .archived => "archived"

/-- A script as it was found. -/
structure Script where
  path : String
  hash : String
  location : Path
  directory : DirectoryClass
  deriving DecidableEq, Repr

namespace Script

/-- The name of a file relative to a directory; a file that is not below it
    keeps all of its components. -/
def nameBelow (root file : Path) : String :=
  "/".intercalate (((root.after? file).getD file.components).map Path.Component.text)

/-- The script that a file with some bytes is. -/
def ofBytes (root file : Path) (directory : DirectoryClass) (content : ByteArray) : Script :=
  ⟨nameBelow root file, Sha256.digest content, file, directory⟩

/-- Reads a file as a script. -/
def load (tree : FileTree) (root file : Path) (directory : DirectoryClass) :
    Except InputError Script :=
  match tree.read file with
  | .ok content => .ok (ofBytes root file directory content)
  | .error cause => .error (.unreadable file cause)

end Script

end SchemaMigration
