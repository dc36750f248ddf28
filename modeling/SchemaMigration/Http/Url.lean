import SchemaMigration.Text.Blank
import SchemaMigration.Text.Fields
import SchemaMigration.Text.Number

/-! # Addresses — where a document is fetched from

    An address names a scheme, a host, a port, a path and a query.  Reading one
    forgives what people type: blanks around it, tabs and line breaks in it,
    backslashes for slashes, upper case in scheme and host.  Dots are resolved in
    the path, and characters that cannot stand in a request are written as
    percent codes.  `Reading` is what a text turns out to be beside a base
    address, which relative texts need. -/

namespace SchemaMigration.Http

/-- An address of a document. -/
structure Url where
  secure : Bool
  host : String
  /-- The port, unless it is the usual one of the scheme. -/
  port : Option Nat
  /-- The pieces of the path between slashes. -/
  path : List String
  query : Option String
  fragment : Option String
  deriving DecidableEq, Repr

namespace Url

/-- The name of the scheme. -/
def scheme (u : Url) : String := if u.secure then "https" else "http"

/-- The port that a scheme uses unless told otherwise. -/
def usualPort (secure : Bool) : Nat := if secure then 443 else 80

/-- The host with its port, if the port is not the usual one. -/
def authority (u : Url) : String :=
  match u.port with
  | some n => s!"{u.host}:{n}"
  | none => u.host

/-- Path and query: what a server is asked for. -/
def target (u : Url) : String :=
  let path := "/" ++ String.intercalate "/" u.path
  match u.query with
  | some q => path ++ "?" ++ q
  | none => path

/-- The written address. -/
def render (u : Url) : String :=
  let whole := s!"{u.scheme}://{u.authority}{u.target}"
  match u.fragment with
  | some f => whole ++ "#" ++ f
  | none => whole

/-! ## Percent codes -/

/-- One byte as a percent code. -/
def percentByte (b : UInt8) : String :=
  let digits := (Nat.toDigits 16 b.toNat).map Char.toUpper
  String.ofList ('%' :: List.replicate (2 - digits.length) '0' ++ digits)

/-- The text with the characters of a class, controls and everything outside of
    ASCII as percent codes. -/
def percentEncode (special : List Char) (cs : List Char) : String :=
  String.join (cs.map fun c =>
    if c.toNat < 0x20 || 0x7F ≤ c.toNat || special.contains c then
      String.join ((String.singleton c).toUTF8.toList.map percentByte)
    else String.singleton c)

/-- The characters with a percent code in a path. -/
def pathSpecial : List Char := [' ', '"', '#', '<', '>', '?', '\x60', '\x7b', '\x7d']

/-- The characters with a percent code in a query. -/
def querySpecial : List Char := [' ', '"', '#', '<', '>', '\'']

/-- The characters with a percent code in a fragment. -/
def fragmentSpecial : List Char := [' ', '"', '<', '>', '\x60']

/-! ## Paths -/

/-- Whether a piece of a path stays where it is. -/
def isHere (piece : List Char) : Bool :=
  [".", "%2e"].contains (Text.lowerAscii (String.ofList piece))

/-- Whether a piece of a path goes back by one piece. -/
def isBack (piece : List Char) : Bool :=
  ["..", ".%2e", "%2e.", "%2e%2e"].contains (Text.lowerAscii (String.ofList piece))

/-- The path after walking pieces from a directory.  The last piece names a document,
    which has an empty name where the walk ends in a directory. -/
def walk : List String → List (List Char) → List String
  | done, [] => done
  | done, [last] =>
      if isBack last then done.dropLast ++ [""]
      else if isHere last then done ++ [""]
      else done ++ [percentEncode pathSpecial last]
  | done, piece :: rest =>
      if isBack piece then walk done.dropLast rest
      else if isHere piece then walk done rest
      else walk (done ++ [percentEncode pathSpecial piece]) rest

/-! ## Reading -/

/-- The characters without blanks and controls around them, and without tabs and line breaks. -/
def clean (cs : List Char) : List Char :=
  let isEdge := fun (c : Char) => decide (c.toNat ≤ 0x20)
  let cs := cs.dropWhile isEdge
  let cs := (cs.reverse.dropWhile isEdge).reverse
  cs.filter fun c => c != '\t' && c != '\n' && c != '\r'

/-- Whether a character separates pieces of a path. -/
def isSlash (c : Char) : Bool := c == '/' || c == '\\'

/-- The scheme at the start of a text, in lower case, and what follows its colon. -/
def splitScheme? (cs : List Char) : Option (String × List Char) :=
  let name := cs.takeWhile fun c => c.isAlphanum || c == '+' || c == '-' || c == '.'
  match name, cs.drop name.length with
  | first :: _, ':' :: rest =>
      if first.isAlpha then some (Text.lowerAscii (String.ofList name), rest) else none
  | _, _ => none

/-- The query and the fragment that follow a path. -/
def readTail (cs : List Char) : Option String × Option String :=
  let query := cs.takeWhile (· != '#')
  let fragment :=
    match cs.drop query.length with
    | _ :: rest => some (percentEncode fragmentSpecial rest)
    | [] => none
  match query with
  | _ :: rest => (some (percentEncode querySpecial rest), fragment)
  | [] => (none, fragment)

/-- The address with a walk from one of its directories, and a query and fragment. -/
def goTo (u : Url) (directory : List String) (cs : List Char) : Url :=
  let path := cs.takeWhile fun c => c != '?' && c != '#'
  let pieces := Text.fields '/' (path.map fun c => if c = '\\' then '/' else c)
  let (query, fragment) := readTail (cs.drop path.length)
  { u with path := walk directory pieces, query, fragment }

/-- A port after its colon; the usual one, and none at all, are not written. -/
def readPort? (secure : Bool) (cs : List Char) : Option (Option Nat) :=
  match cs with
  | [] => some none
  | _ =>
      match Text.digits? cs with
      | some n =>
          if !Text.fitsUnsigned 16 n then none
          else some (if n = usualPort secure then none else some n)
      | none => none

/-- The characters that a host cannot have. -/
def hostForbidden : List Char :=
  [' ', '"', '#', '%', '/', ':', '<', '>', '?', '@', '[', '\\', ']', '^', '\x60', '|',
    '\x7b', '\x7d']

/-- A host by name, in lower case, or by a number in brackets. -/
def readHost? (cs : List Char) : Option String :=
  let bracketed := cs.head? = some '[' ∧ cs.getLast? = some ']'
  let inside := if bracketed then (cs.drop 1).dropLast else cs
  let allowed := fun (c : Char) =>
    if bracketed then c.isAlphanum || c == ':' || c == '.'
    else 0x20 < c.toNat && c.toNat != 0x7F && !hostForbidden.contains c
  if inside.isEmpty || !inside.all allowed then none
  else some (Text.lowerAscii (String.ofList cs))

/-- What is left of an authority without the name and password before the last at sign. -/
def dropUser (cs : List Char) : List Char :=
  ((Text.fields '@' cs).getLast?).getD []

/-- Reads what follows the scheme: slashes, authority, path, query and fragment. -/
def readAuthority? (secure : Bool) (cs : List Char) : Option Url :=
  let cs := cs.dropWhile isSlash
  let authority := cs.takeWhile fun c => !isSlash c && c != '?' && c != '#'
  let place := dropUser authority
  let closing := place.reverse.takeWhile (· != ']')
  let port := (closing.reverse.dropWhile (· != ':')).drop 1
  let hasPort := closing.contains ':'
  let host := if hasPort then place.take (place.length - port.length - 1) else place
  let rest := cs.drop authority.length
  let path := if (rest.head?).any isSlash then rest.drop 1 else rest
  match readHost? host, readPort? secure port with
  | some host, some port =>
      some (Url.goTo ⟨secure, host, port, [], none, none⟩ [] path)
  | _, _ => none

/-- The address that a text without a scheme means beside another address. -/
def relative (base : Url) (cs : List Char) : Option Url :=
  match cs with
  | [] => some { base with fragment := none }
  | '#' :: _ => some { base with fragment := (readTail cs).2 }
  | '?' :: _ =>
      let (query, fragment) := readTail cs
      some { base with query, fragment }
  | c :: d :: rest =>
      if isSlash c && isSlash d then readAuthority? base.secure rest
      else if isSlash c then some (base.goTo [] (d :: rest))
      else some (base.goTo base.path.dropLast cs)
  | [c] =>
      if isSlash c then some (base.goTo [] []) else some (base.goTo base.path.dropLast cs)

/-- What a text turns out to be: an address, one of a scheme that is not served, or nothing
    that can be read. -/
inductive Reading where
  | address (u : Url)
  | foreign
  | unreadable
  deriving DecidableEq, Repr

/-- An address, if there is one. -/
def Reading.ofOption : Option Url → Reading
  | some u => .address u
  | none => .unreadable

/-- Reads a text, beside a base address if there is one. -/
def read (base : Option Url) (text : String) : Reading :=
  let cs := clean text.toList
  match splitScheme? cs with
  | some (scheme, rest) =>
      if scheme = "http" || scheme = "https" then
        let secure := scheme == "https"
        match base with
        | some b =>
            if b.secure == secure && !(rest.take 2 == ['/', '/']) then
              .ofOption (b.relative rest)
            else .ofOption (readAuthority? secure rest)
        | none => .ofOption (readAuthority? secure rest)
      else .foreign
  | none =>
      match base with
      | some b => .ofOption (b.relative cs)
      | none => .unreadable

end Url

end SchemaMigration.Http
