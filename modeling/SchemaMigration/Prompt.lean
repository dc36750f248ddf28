import SchemaMigration.Site
import SchemaMigration.Text.Utf8

/-! # Prompts — answers from an operator, or from nobody

    On a terminal a question is written and a line is read.  Only an explicit
    yes counts as one, and an empty path is no path.  Without a terminal every
    answer is no. -/

namespace SchemaMigration.Prompt

/-- What a terminal can do: show a text, and read a line.  A line that is no text
    is reported as such, and at the end of the input there is none. -/
inductive Request where
  | show_ (text : String)
  | readLine
  | log (line : Log.Line)
  deriving DecidableEq, Repr

/-- The shape of the answer. -/
abbrev Request.Reply : Request → Type
  | .show_ _ => Unit
  | .readLine => Except FileError (Option String)
  | .log _ => Unit

/-- Requests to a terminal. -/
abbrev interface : Interface where
  Request := Request
  Reply := Request.Reply

/-- Reports a line. -/
def log (line : Log.Line) : Program interface Unit :=
  Program.request (I := interface) (.log line)

/-- Shows a prompt and reads the line after it, without white space around it. -/
def promptLine (text : String) : Program interface (Option String) := do
  Program.request (I := interface) (.show_ text)
  match ← Program.request (I := interface) .readLine with
  | .ok (some line) => pure (some (Text.trim line))
  | .ok none => pure none
  | .error cause =>
      log (.warn .prompt s!"Failed to read input: {cause.message}")
      pure none

/-- Whether an answer is an explicit yes. -/
def isYes (answer : String) : Bool :=
  let answer := Text.trim answer
  Text.equalIgnoringCase answer "y" || Text.equalIgnoringCase answer "yes"

/-- Asks on a terminal. -/
def ask : (q : Operator.Request) → Program interface q.Answer
  | .confirm question => do
      let answer ← promptLine s!"{question} [y/N]: "
      pure (answer.any isYes)
  | .askPath question => do
      let answer ← promptLine s!"{question}: "
      pure (answer.filter fun path => !path.isEmpty)

/-- Answers no to everything, and says so in the log. -/
def decline : (q : Operator.Request) → Program interface q.Answer
  | .confirm question => do
      log (.debug .prompt s!"Not interactive, answering no to: {question}")
      pure false
  | .askPath question => do
      log (.debug .prompt s!"Not interactive, no answer to: {question}")
      pure none

/-- Who answers. -/
inductive Provider where
  | terminal
  | nobody
  deriving DecidableEq, Repr

/-- The provider for an input: a terminal has somebody to ask. -/
def Provider.detect (inputIsTerminal : Bool) : Provider :=
  if inputIsTerminal then .terminal else .nobody

/-- The answer of a provider. -/
def Provider.answer : Provider → (q : Operator.Request) → Program interface q.Answer
  | .terminal => ask
  | .nobody => decline

/-- A terminal given by the input that is still to be read, with what was shown and logged. -/
structure Transcript where
  input : List UInt8
  shown : String
  log : List Log.Line

/-- The first line of some bytes, with its line feed, and the bytes after it. -/
def takeLine (bytes : List UInt8) : List UInt8 × List UInt8 :=
  let line := bytes.takeWhile (· != 10)
  let rest := bytes.drop line.length
  (line ++ rest.take 1, rest.drop 1)

/-- Answers requests from the given input. -/
def Transcript.answer : (q : Request) → Transcript → q.Reply × Transcript
  | .show_ text, t => ((), { t with shown := t.shown ++ text })
  | .readLine, t =>
      let (line, rest) := takeLine t.input
      if line.isEmpty then (.ok none, t)
      else
        match Utf8.decode? ⟨line.toArray⟩ with
        | some text => (.ok (some text), { t with input := rest })
        | none => (.error .notText, { t with input := rest })
  | .log line, t => ((), { t with log := t.log ++ [line] })

end SchemaMigration.Prompt
