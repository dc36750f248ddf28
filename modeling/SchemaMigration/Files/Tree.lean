import SchemaMigration.Files.Error
import SchemaMigration.Files.Path
import SchemaMigration.Text.Utf8

/-! # File trees — directories as values

    A directory is a list of named entries.  `FileTree` adds the directory that
    relative paths start from.  Every look-up follows the components of a path
    as an operating system does: a double dot leaves an existing directory, and
    a name below a file is refused. -/

namespace SchemaMigration

/-- The entries of a directory, one after another. -/
inductive Directory where
  | empty
  | file (name : String) (content : ByteArray) (rest : Directory)
  | folder (name : String) (inside : Directory) (rest : Directory)
  deriving Inhabited

/-- What a path can lead to. -/
inductive Item where
  | file (content : ByteArray)
  | folder (inside : Directory)

namespace Directory

/-- The entry with a name. -/
def find? (name : String) : Directory → Option Item
  | .empty => none
  | .file n content rest => if n = name then some (.file content) else find? name rest
  | .folder n inside rest => if n = name then some (.folder inside) else find? name rest

/-- The directory without the entry of a name. -/
def erase (name : String) : Directory → Directory
  | .empty => .empty
  | .file n content rest => if n = name then rest else .file n content (erase name rest)
  | .folder n inside rest => if n = name then rest else .folder n inside (erase name rest)

/-- The directory with an entry, which replaces one of the same name. -/
def insert (name : String) (item : Item) (d : Directory) : Directory :=
  match item with
  | .file content => .file name content (d.erase name)
  | .folder inside => .folder name inside (d.erase name)

/-- The item at the end of a chain of names. -/
def at? : List String → Directory → Option Item
  | [], d => some (.folder d)
  | [name], d => d.find? name
  | name :: rest, d =>
      match d.find? name with
      | some (.folder inside) => at? rest inside
      | _ => none

/-- Changes the entry at the end of a chain of names, making the folders on the way. -/
def modify (change : Option Item → Option Item) : List String → Directory → Directory
  | [], d => d
  | [name], d =>
      match change (d.find? name) with
      | some item => d.insert name item
      | none => d.erase name
  | name :: rest, d =>
      let inside :=
        match d.find? name with
        | some (.folder inside) => inside
        | _ => .empty
      d.insert name (.folder (modify change rest inside))

end Directory

/-- The files a run sees: everything below the root, and the names that lead to
    the directory relative paths start from. -/
structure FileTree where
  root : Directory
  current : List String

namespace FileTree

/-- The longest name a file may have, in bytes. -/
def nameLimit : Nat := 255

/-- Follows components from a chain of names that leads to an existing directory. -/
def follow (t : FileTree) : List String → List Path.Component → Except FileError (List String)
  | at_, [] => .ok at_
  | at_, c :: rest =>
      match t.root.at? at_ with
      | none => .error .notFound
      | some (.file _) => .error .notDirectory
      | some (.folder _) =>
          match c with
          | .root => t.follow [] rest
          | .here => t.follow at_ rest
          | .up => t.follow at_.dropLast rest
          | .name text =>
              if text.utf8ByteSize > nameLimit then .error .nameTooLong
              else t.follow (at_ ++ [text]) rest

/-- Whether a path can only lead to a directory: it ends in a slash or a dot. -/
def wantsDirectory (p : Path) : Bool :=
  match p.text.toList.reverse with
  | '/' :: _ => true
  | '.' :: '/' :: _ => true
  | _ => false

/-- The names from the root that a path stands for. -/
def locate (t : FileTree) (p : Path) : Except FileError (List String) :=
  if p.text.toList.contains (Char.ofNat 0) then .error .nulInName
  else if p.isEmpty then .error .notFound
  else t.follow t.current p.components

/-- What a path leads to. -/
def item (t : FileTree) (p : Path) : Except FileError Item := do
  let names ← t.locate p
  match t.root.at? names with
  | none => .error .notFound
  | some (.file content) => if wantsDirectory p then .error .notDirectory else .ok (.file content)
  | some (.folder inside) => .ok (.folder inside)

/-- Whether a path leads to a file. -/
def isFile (t : FileTree) (p : Path) : Bool :=
  match t.item p with
  | .ok (.file _) => true
  | _ => false

/-- Whether a path leads to a directory. -/
def isDirectory (t : FileTree) (p : Path) : Bool :=
  match t.item p with
  | .ok (.folder _) => true
  | _ => false

/-- Whether a path leads anywhere. -/
def contains (t : FileTree) (p : Path) : Bool :=
  match t.item p with
  | .ok _ => true
  | .error _ => false

/-- The bytes of a file. -/
def read (t : FileTree) (p : Path) : Except FileError ByteArray := do
  match ← t.item p with
  | .file content => .ok content
  | .folder _ => .error .isDirectory

/-- The text of a file. -/
def readText (t : FileTree) (p : Path) : Except FileError String := do
  let bytes ← t.read p
  match Utf8.decode? bytes with
  | some text => .ok text
  | none => .error .notText

/-- The names from the root that a path stands for, whether or not anything is there. -/
def resolve (t : FileTree) (p : Path) : List String :=
  p.components.foldl
    (fun at_ c =>
      match c with
      | .root => []
      | .here => at_
      | .up => at_.dropLast
      | .name text => at_ ++ [text])
    t.current

/-- The tree with a file, and with the folders on the way to it. -/
def write (t : FileTree) (p : Path) (content : ByteArray) : FileTree :=
  { t with root := t.root.modify (fun _ => some (.file content)) (t.resolve p) }

/-- The tree with a folder, and with the folders on the way to it. -/
def makeFolder (t : FileTree) (p : Path) : FileTree :=
  { t with
    root := t.root.modify
      (fun old =>
        match old with
        | some (.folder inside) => some (.folder inside)
        | _ => some (.folder .empty))
      (t.resolve p) }

/-- The tree without what a path leads to. -/
def remove (t : FileTree) (p : Path) : FileTree :=
  match t.item p with
  | .ok _ => { t with root := t.root.modify (fun _ => none) (t.resolve p) }
  | .error _ => t

/-- The tree with what is at `p` moved to `q`. -/
def rename (t : FileTree) (p q : Path) : FileTree :=
  match t.item p with
  | .ok moved =>
      let without := t.remove p
      { without with root := without.root.modify (fun _ => some moved) (without.resolve q) }
  | .error _ => t

end FileTree

end SchemaMigration
