import SchemaMigration.Text.Fields

/-! # Paths — text that names a place in a file tree

    A path is kept as it was written, since messages show it so.  Comparing and
    taking apart go by component: empty components and inner dots do not count,
    a leading dot and every double dot do. -/

namespace SchemaMigration

/-- A path as it was written. -/
structure Path where
  text : String
  deriving DecidableEq, Repr, Inhabited

namespace Path

/-- What a path is made of. -/
inductive Component where
  | root
  | here
  | up
  | name (text : String)
  deriving DecidableEq, Repr

/-- The text of one component. -/
def Component.text : Component → String
  | .root => "/"
  | .here => "."
  | .up => ".."
  | .name text => text

/-- A component that is not at the start of its path; empty ones and dots count for nothing. -/
def inner? (piece : List Char) : Option Component :=
  match piece with
  | [] => none
  | ['.'] => none
  | ['.', '.'] => some .up
  | _ => some (.name (String.ofList piece))

/-- The components among the pieces between slashes. -/
def componentsOfPieces : List (List Char) → List Component
  | [] => []
  | [] :: rest => if rest.isEmpty then [] else .root :: rest.filterMap inner?
  | ['.'] :: rest => .here :: rest.filterMap inner?
  | pieces => pieces.filterMap inner?

/-- The components of a path. -/
def components (p : Path) : List Component :=
  componentsOfPieces (Text.fields '/' p.text.toList)

/-- Whether two paths name the same components. -/
def same (p q : Path) : Bool :=
  p.components == q.components

/-- Whether a path starts at the root. -/
def isAbsolute (p : Path) : Bool :=
  p.text.toList.head? == some '/'

/-- Whether a path has no text. -/
def isEmpty (p : Path) : Bool :=
  p.text.isEmpty

/-- The path below `p`; an absolute path replaces `p`. -/
def join (p : Path) (below : String) : Path :=
  if below.toList.head? = some '/' then ⟨below⟩
  else if p.text.isEmpty ∨ p.text.toList.getLast? = some '/' then ⟨p.text ++ below⟩
  else ⟨p.text ++ "/" ++ below⟩

/-- The components after those of `base`, if the path starts with them. -/
def after? (base p : Path) : Option (List Component) :=
  if base.components.isPrefixOf p.components then
    some (p.components.drop base.components.length)
  else none

/-- The name at the end of a path. -/
def fileName? (p : Path) : Option String :=
  match p.components.getLast? with
  | some (.name text) => some text
  | _ => none

/-- What follows the last dot of a name; a name that starts with its only dot has none. -/
def extensionOf? (name : String) : Option String :=
  let reversed := name.toList.reverse
  let ending := reversed.takeWhile (· != '.')
  match reversed.drop ending.length with
  | [] => none
  | [_] => none
  | _ => some (String.ofList ending.reverse)

/-- Removes what counts for nothing from the end of a reversed path: slashes, and
    dots between slashes. -/
def trimReversed : List Char → List Char
  | '/' :: c :: rest => trimReversed (c :: rest)
  | '.' :: '/' :: c :: rest => trimReversed ('/' :: c :: rest)
  | ['.', '/'] => ['/']
  | cs => cs

/-- The path without its last component; a path without one, or the root, has no parent. -/
def parent? (p : Path) : Option Path :=
  match p.components.getLast? with
  | none => none
  | some .root => none
  | some _ =>
      let whole := trimReversed p.text.toList.reverse
      let front := whole.dropWhile (· != '/')
      some ⟨String.ofList (trimReversed front).reverse⟩

/-- The path from the root, with `current` before a relative one.  Inner dots go,
    a slash at the end stays. -/
def absolute (current p : Path) : Path :=
  let parts := if p.components.head? = some .here then p.components.drop 1 else p.components
  let cs := p.text.toList
  let doubled := cs.take 2 = ['/', '/'] ∧ cs.take 3 ≠ ['/', '/', '/']
  let start : Path := if p.isAbsolute then ⟨if doubled then "//" else ""⟩ else current
  let parts := if p.isAbsolute ∧ doubled then parts.drop 1 else parts
  let joined := parts.foldl (fun q c => q.join c.text) start
  if cs.getLast? = some '/' then joined.join "" else joined

end Path

end SchemaMigration
