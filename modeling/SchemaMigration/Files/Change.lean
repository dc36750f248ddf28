import SchemaMigration.Files.Tree

/-! # Changes of file trees — steps that the system may refuse

    Writing in `FileTree` makes whatever is missing on the way.  The steps here
    look first, and are refused for the same reasons as on a disk. -/

namespace SchemaMigration

/-- The names of the entries. -/
def Directory.names : Directory → List String
  | .empty => []
  | .file name _ rest => name :: names rest
  | .folder name _ rest => name :: names rest

namespace FileTree

/-- Makes a directory and those above it, unless it is there. -/
def makeDirectory (t : FileTree) (p : Path) : Except FileError FileTree :=
  match t.item p with
  | .ok (.folder _) => .ok t
  | .ok (.file _) => .error .alreadyThere
  | .error .notFound => .ok (t.makeFolder p)
  | .error cause => .error cause

/-- A name that no entry of a directory has: it is longer than all of them. -/
def freshName (taken : List String) : String :=
  ".tmp" ++ String.ofList (List.replicate (taken.foldl (fun n name => n + name.length) 0) '0')

/-- Makes an empty file of a new name in a directory. -/
def makeTemporary (t : FileTree) (directory : Path) : Except FileError (Path × FileTree) :=
  match t.item directory with
  | .ok (.folder inside) =>
      let path := directory.join (freshName inside.names)
      .ok (path, t.write path .empty)
  | .ok (.file _) => .error .notDirectory
  | .error cause => .error cause

/-- Adds bytes at the end of a file. -/
def append (t : FileTree) (p : Path) (piece : ByteArray) : Except FileError FileTree :=
  (t.read p).map fun content => t.write p (content ++ piece)

/-- Moves a file to a destination, in place of the file that is there. -/
def replace (t : FileTree) (destination p : Path) : Except FileError FileTree :=
  if wantsDirectory destination then .error .notDirectory
  else
    match t.item destination with
    | .ok (.folder _) => .error .isDirectory
    | .ok (.file _) => .ok (t.rename p destination)
    | .error .notFound => .ok (t.rename p destination)
    | .error cause => .error cause

end FileTree

end SchemaMigration
