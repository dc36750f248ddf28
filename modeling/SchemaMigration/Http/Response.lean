import SchemaMigration.Text.Blank
import SchemaMigration.Text.Escaped
import SchemaMigration.Text.Fields
import SchemaMigration.Text.Number
import SchemaMigration.Text.Utf8

/-! # Responses — what a server sends back

    A response is a head, which ends at an empty line, and a body.  The head says
    where the body ends: after a number of bytes, after the last of its measured
    pieces, or with the connection.  `Body` keeps the pieces that arrived and
    whether all of them did. -/

namespace SchemaMigration.Http

/-- The pieces of a body in order, and whether the body is complete. -/
structure Body where
  pieces : List ByteArray
  complete : Bool
  deriving Inhabited

namespace Body

/-- How many bytes arrived. -/
def size (b : Body) : Nat := b.pieces.foldl (fun n piece => n + piece.size) 0

/-- A body of one piece; an empty piece is none. -/
def ofBytes (bytes : List UInt8) (complete : Bool) : Body :=
  ⟨if bytes.isEmpty then [] else [⟨bytes.toArray⟩], complete⟩

end Body

/-! ## Measured pieces -/

/-- Where a reader is within a body of measured pieces. -/
inductive Place where
  /-- Before the first digit of a size. -/
  | start
  /-- After some digits of a size. -/
  | size (n : Nat)
  /-- After the blanks behind a size. -/
  | blank (n : Nat)
  /-- In the remarks behind a size. -/
  | remark (n : Nat)
  /-- Before the line feed that ends a size line. -/
  | sizeEnd (n : Nat)
  /-- Inside a piece with so many bytes to come. -/
  | inside (n : Nat)
  /-- Before the line break behind a piece. -/
  | pieceReturn
  | pieceEnd
  /-- After the last piece: at the start of a line, within one, and before its line feed. -/
  | lastLine
  | trailer
  | trailerEnd
  | lastEnd
  | finished
  deriving DecidableEq, Repr

namespace Place

/-- The largest size of a piece. -/
def sizeLimit : Nat := Nat.pow 2 64

/-- The value of a hexadecimal digit. -/
def hexDigit? (b : UInt8) : Option Nat :=
  if 48 ≤ b && b ≤ 57 then some (b.toNat - 48)
  else if 97 ≤ b && b ≤ 102 then some (b.toNat - 87)
  else if 65 ≤ b && b ≤ 70 then some (b.toNat - 55)
  else none

/-- Goes on when a byte is the expected one. -/
def expect (b expected : UInt8) (next : Place) : Option Place :=
  if b = expected then some next else none

/-- What may follow a size of `n`: blanks, remarks, or the end of the line. -/
def afterSize (n : Nat) (b : UInt8) : Option Place :=
  if b = 9 || b = 32 then some (.blank n)
  else if b = 59 then some (.remark n)
  else expect b 13 (.sizeEnd n)

/-- The place after one byte; no place follows a byte that is out of place. -/
def after : Place → UInt8 → Option Place
  | .start, b => (hexDigit? b).map .size
  | .size n, b =>
      match hexDigit? b with
      | some d => if 16 * n + d < sizeLimit then some (.size (16 * n + d)) else none
      | none => afterSize n b
  | .blank n, b => afterSize n b
  | .remark n, b =>
      if b = 13 then some (.sizeEnd n) else if b = 10 then none else some (.remark n)
  | .sizeEnd n, b => expect b 10 (if n = 0 then .lastLine else .inside n)
  | .inside n, _ => some (if n ≤ 1 then .pieceReturn else .inside (n - 1))
  | .pieceReturn, b => expect b 13 .pieceEnd
  | .pieceEnd, b => expect b 10 .start
  | .lastLine, b => some (if b = 13 then .lastEnd else .trailer)
  | .trailer, b => some (if b = 13 then .trailerEnd else .trailer)
  | .trailerEnd, b => expect b 10 .lastLine
  | .lastEnd, b => expect b 10 .finished
  | .finished, _ => some .finished

end Place

/-- The bytes inside the pieces of a measured body, and whether its end was reached. -/
def measured : Place → List UInt8 → List UInt8 × Bool
  | place, [] => ([], place == .finished)
  | place, b :: rest =>
      match place.after b with
      | none => ([], false)
      | some next =>
          let (bytes, complete) := measured next rest
          match place with
          | .inside _ => (b :: bytes, complete)
          | _ => (bytes, complete)

/-! ## Heads -/

/-- A field of a head, its name in lower case. -/
structure Field where
  name : String
  value : List UInt8
  deriving DecidableEq, Repr

/-- The first lines of a response. -/
structure Head where
  /-- Whether the version of the protocol knows measured pieces. -/
  measures : Bool
  status : Nat
  reason : String
  fields : List Field
  deriving DecidableEq, Repr

/-- The bytes before the first line feed, without a return at their end, and those after it. -/
def splitLine? (bytes : List UInt8) : Option (List UInt8 × List UInt8) :=
  let line := bytes.takeWhile (· != 10)
  match bytes.drop line.length with
  | _ :: rest => some (if line.getLast? = some 13 then line.dropLast else line, rest)
  | [] => none

/-- Bytes as text, one character for each. -/
def latin (bytes : List UInt8) : String :=
  String.ofList (bytes.map fun b => Char.ofNat b.toNat)

/-- Whether a byte may stand in a field name. -/
def isNameByte (b : UInt8) : Bool :=
  let c := Char.ofNat b.toNat
  b < 128 && (c.isAlphanum || "!#$%&'*+-.^_|~\x60".toList.contains c)

/-- Whether a byte may stand in a field value or a reason. -/
def isValueByte (b : UInt8) : Bool := b = 9 || (32 ≤ b && b ≠ 127)

/-- Whether a byte is a space or a tab. -/
def isBlankByte (b : UInt8) : Bool := b = 9 || b = 32

/-- Reads a field. -/
def Field.read? (line : List UInt8) : Option Field :=
  let name := line.takeWhile (· != 58)
  match line.drop name.length with
  | [] => none
  | _ :: value =>
      let value := ((value.dropWhile isBlankByte).reverse.dropWhile isBlankByte).reverse
      if !name.isEmpty && name.all isNameByte && value.all isValueByte then
        some ⟨Text.lowerAscii (latin name), value⟩
      else none

/-- Reads the status line: whether the version measures, the status, and the reason, which is
    shown only if it is plain text. -/
def readStatus? (line : List UInt8) : Option (Bool × Nat × String) :=
  let version := latin (line.take 8)
  let digits := ((line.drop 9).take 3).map fun b => Char.ofNat b.toNat
  let reason := line.drop 12
  let known := version == "HTTP/1.0" || version == "HTTP/1.1"
  if !known || (line.drop 8).head? != some 32 || digits.length != 3
      || !reason.all isValueByte || (reason.head?).any (· != 32) then none
  else
    match Text.digits? digits with
    | some status =>
        if status < 100 then none
        else
          some (version == "HTTP/1.1", status,
            if reason.any (128 ≤ ·) then "" else latin (reason.drop 1))
    | none => none

/-- Reads fields up to an empty line. -/
def readFields? (fuel : Nat) (bytes : List UInt8) : Option (List Field × List UInt8) :=
  match fuel with
  | 0 => none
  | fuel + 1 =>
      match splitLine? bytes with
      | none => none
      | some ([], rest) => some ([], rest)
      | some (line, rest) =>
          match Field.read? line, readFields? fuel rest with
          | some first, some (others, rest) => some (first :: others, rest)
          | _, _ => none

/-- The bytes after the empty lines before a head. -/
def dropEmptyLines : List UInt8 → List UInt8
  | 13 :: 10 :: rest => dropEmptyLines rest
  | 10 :: rest => dropEmptyLines rest
  | bytes => bytes

/-- Reads a head. -/
def Head.read? (bytes : List UInt8) : Option (Head × List UInt8) :=
  match splitLine? (dropEmptyLines bytes) with
  | none => none
  | some (line, rest) =>
      match readStatus? line, readFields? (rest.length + 1) rest with
      | some (measures, status, reason), some (fields, rest) =>
          some (⟨measures, status, reason, fields⟩, rest)
      | _, _ => none

namespace Head

/-- The values of a field, in order. -/
def values (h : Head) (name : String) : List (List UInt8) :=
  (h.fields.filter fun f => f.name == name).map Field.value

/-- Whether the last coding of the body is the one in measured pieces. -/
def isMeasured (h : Head) : Bool :=
  match (h.values "transfer-encoding").getLast? with
  | some value =>
      let codings := Text.split ',' (latin value)
      (codings.getLast?).any fun c => Text.equalIgnoringCase (Text.trim c) "chunked"
  | none => false

/-- The length that all length fields agree on. -/
def agreedLength? (h : Head) : Option Nat :=
  let stated := (h.values "content-length").flatMap fun v => Text.split ',' (latin v)
  match stated.mapM fun s => Text.digits? (Text.trim s).toList with
  | some (n :: others) => if others.all (· == n) && n < Place.sizeLimit - 2 then some n else none
  | _ => none

end Head

/-- Where a body ends. -/
inductive Extent where
  | bytes (n : Nat)
  | measured
  | connection
  deriving DecidableEq, Repr

namespace Head

/-- Where the body ends; nowhere, if the head contradicts itself. -/
def extent? (h : Head) : Option Extent :=
  if h.status = 101 || h.status = 204 || h.status = 304 then some (.bytes 0)
  else if !(h.values "transfer-encoding").isEmpty then
    if !h.measures then none
    else some (if h.isMeasured then .measured else .connection)
  else if (h.values "content-length").isEmpty then some .connection
  else h.agreedLength?.map .bytes

/-- Whether a head only announces another one. -/
def isInterim (h : Head) : Bool := h.status < 200 && h.status != 101

end Head

/-- The body among the bytes that follow a head. -/
def Body.read (extent : Extent) (bytes : List UInt8) : Body :=
  match extent with
  | .bytes n => .ofBytes (bytes.take n) (n ≤ bytes.length)
  | .measured =>
      let (inside, complete) := Http.measured .start bytes
      .ofBytes inside complete
  | .connection => .ofBytes bytes true

/-- A response. -/
structure Response where
  head : Head
  body : Body

namespace Response

/-- Reads a response, past the heads that only announce it. -/
def readFrom? (fuel : Nat) (bytes : List UInt8) : Option Response :=
  match fuel with
  | 0 => none
  | fuel + 1 =>
      match Head.read? bytes with
      | none => none
      | some (head, rest) =>
          if head.isInterim then readFrom? fuel rest
          else head.extent?.map fun extent => ⟨head, .read extent rest⟩

/-- Reads what a server sent until it closed the connection. -/
def read? (bytes : ByteArray) : Option Response :=
  readFrom? (bytes.size + 1) bytes.toList

/-- Where a response sends on to, as it is written. -/
def location? (r : Response) : Option String :=
  if [301, 302, 303, 307, 308].contains r.head.status then
    (r.head.values "location").head?.bind fun value => Utf8.decode? ⟨value.toArray⟩
  else none

end Response

end SchemaMigration.Http
