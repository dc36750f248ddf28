import SchemaMigration.Files.Error
import SchemaMigration.Http.Fetch
import SchemaMigration.Log
import SchemaMigration.UpdateError

/-! # Downloads — a document that replaces a file as a whole

    The document is written piece by piece to a temporary file in the directory
    of its destination.  Only when every piece is there does the temporary file
    take the destination's place; on any failure before that it is dropped, and
    the destination stays what it was. -/

namespace SchemaMigration.Download

/-- What a download asks for: the document, and changes to files. -/
inductive Request where
  | fetch (url : String)
  | makeDirectory (path : Path)
  | makeTemporary (directory : Path)
  | append (temporary : Path) (piece : ByteArray)
  | finish (temporary : Path)
  | replace (destination temporary : Path)
  | drop (temporary : Path)
  | log (line : Log.Line)

/-- The shape of the answer. -/
abbrev Request.Reply : Request → Type
  | .fetch _ => Except Http.Fault Http.Body
  | .makeDirectory _ => Except FileError Unit
  | .makeTemporary _ => Except FileError Path
  | .append _ _ => Except FileError Unit
  | .finish _ => Except FileError Unit
  | .replace _ _ => Except FileError Unit
  | .drop _ => Unit
  | .log _ => Unit

/-- Requests made by a download. -/
abbrev interface : Interface where
  Request := Request
  Reply := Request.Reply

/-- Reports a line. -/
def log (line : Log.Line) : Program interface Unit :=
  Program.request (I := interface) (.log line)

/-- The directory of a destination, which is the current one for a bare name. -/
def directoryOf (destination : Path) : Path :=
  match destination.parent? with
  | some parent => if parent.isEmpty then ⟨"."⟩ else parent
  | none => ⟨"."⟩

/-- Writes pieces in order; answers the reason of a failure. -/
def appendAll (temporary : Path) : List ByteArray → Program interface (Except String Unit)
  | [] => pure (.ok ())
  | piece :: rest => do
      match ← Program.request (I := interface) (.append temporary piece) with
      | .ok () => appendAll temporary rest
      | .error cause => pure (.error cause.message)

/-- Writes a body and puts it in the place of the destination; answers the reason of a failure. -/
def store (body : Http.Body) (destination temporary : Path) :
    Program interface (Except String Unit) := do
  match ← appendAll temporary body.pieces with
  | .error reason => pure (.error reason)
  | .ok () =>
      if !body.complete then pure (.error Http.Fault.brokenBody.message)
      else
        match ← Program.request (I := interface) (.finish temporary) with
        | .error cause => pure (.error cause.message)
        | .ok () =>
            match ← Program.request (I := interface) (.replace destination temporary) with
            | .ok () => pure (.ok ())
            | .error cause =>
                let refused := s!"failed to persist temporary file path: {cause.message}"
                pure (.error s!"cannot write {destination.text}: {refused}")

/-- Stores a body by way of a temporary file, which is dropped on a failure. -/
def replaceWith (body : Http.Body) (destination : Path) :
    Program interface (Except String Unit) := do
  let directory := directoryOf destination
  match ← Program.request (I := interface) (.makeDirectory directory) with
  | .error cause => pure (.error s!"cannot create {directory.text}: {cause.message}")
  | .ok () =>
      match ← Program.request (I := interface) (.makeTemporary directory) with
      | .error cause => pure (.error s!"cannot create temp file: {cause.message}")
      | .ok temporary =>
          match ← store body destination temporary with
          | .ok () => pure (.ok ())
          | .error reason => do
              Program.request (I := interface) (.drop temporary)
              pure (.error reason)

/-- Downloads the document at an address to a destination. -/
def run (url : String) (destination : Path) : Program interface (Except UpdateError Unit) := do
  log (.info .download s!"Downloading {url} ...")
  match ← Program.request (I := interface) (.fetch url) with
  | .error fault => pure (.error (.download url fault.message))
  | .ok body =>
      match ← replaceWith body destination with
      | .error reason => pure (.error (.download url reason))
      | .ok () => do
          log (.info .download
            s!"Downloaded {body.size} bytes to {destination.text}")
          pure (.ok ())

end SchemaMigration.Download
