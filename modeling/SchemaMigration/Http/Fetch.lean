import SchemaMigration.Http.Response
import SchemaMigration.Http.Url
import SchemaMigration.Program

/-! # Fetching — asking servers until one answers with a document

    A server may send on to another address, a limited number of times.  A status
    that names an error is a failure, whatever its body holds; every other
    response is the document. -/

namespace SchemaMigration.Http

/-- How a client of this library introduces itself. -/
def agent : String := "dbup/0.1.0"

/-- The first line of the request for an address. -/
def requestLine (u : Url) : String := s!"GET {u.target} HTTP/1.1"

/-- The interface to the servers: a request for an address is sent over a new connection, and
    answered by all bytes until the connection closes, if anybody answers. -/
abbrev wire : Interface where
  Request := Url
  Reply := fun _ => Option ByteArray

/-- Why a document could not be fetched. -/
inductive Fault where
  | unreadableAddress
  | foreignAddress
  | noAnswer (at_ : Url)
  | tooManyTurns (at_ : Url)
  | status (code : Nat) (reason : String) (at_ : Url)
  | brokenBody
  deriving DecidableEq, Repr

namespace Fault

/-- A reason with its quotes, backslashes and tabs escaped. -/
def plainReason (reason : String) : String :=
  String.join (reason.toList.map Text.escapeChar)

/-- The fault in words. -/
def message : Fault → String
  | .unreadableAddress => "builder error"
  | .foreignAddress => "builder error"
  | .noAnswer u => s!"error sending request for url ({u.render})"
  | .tooManyTurns u => s!"error following redirect for url ({u.render})"
  | .status code reason u =>
      let side := if code < 500 then "client" else "server"
      s!"HTTP status {side} error ({code} {plainReason reason}) for url ({u.render})"
  | .brokenBody => "error decoding response body"

end Fault

/-- How often a request may be sent on. -/
def turnLimit : Nat := 10

/-- Asks for an address, and for those it is sent on to. -/
def follow : Nat → Url → Program wire (Except Fault (Url × Response))
  | turns, u => do
      let sent ← Program.request (I := wire) u
      match sent.bind Response.read? with
      | none => pure (.error (.noAnswer u))
      | some r =>
          match r.location?.map (Url.read (some u)) with
          | none => pure (.ok (u, r))
          | some .unreadable => pure (.ok (u, r))
          | some .foreign => pure (.error .foreignAddress)
          | some (.address next) =>
              match turns with
              | 0 => pure (.error (.tooManyTurns u))
              | turns + 1 => follow turns next

/-- Fetches the document at an address. -/
def fetch (text : String) : Program wire (Except Fault Body) :=
  match Url.read none text with
  | .unreadable => pure (.error .unreadableAddress)
  | .foreign => pure (.error .foreignAddress)
  | .address u => do
      match ← follow turnLimit u with
      | .error fault => pure (.error fault)
      | .ok (u, r) =>
          if 400 ≤ r.head.status && r.head.status < 600 then
            pure (.error (.status r.head.status r.head.reason u))
          else pure (.ok r.body)

end SchemaMigration.Http
