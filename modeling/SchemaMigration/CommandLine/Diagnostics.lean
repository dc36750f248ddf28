import SchemaMigration.CommandLine.Project
import SchemaMigration.Log.Filter

/-! # Diagnostics — what a command writes beside its output

    First come the reported lines that a filter shows, each under a name of its
    topic, and then the failure, if there is one that has not been reported. -/

namespace SchemaMigration.CommandLine

/-- The reported lines that a filter shows.  A report may take several lines. -/
def shownLines (name : Log.Topic → String) (f : Log.Filter) (reported : List Log.Line) :
    List String :=
  let shown := reported.filter fun line => f.shows (name line.topic) line
  shown.flatMap fun line => Text.linesOf (line.render ++ "\n")

/-- The lines about the failure of a command. -/
def failureLines : Except Failure Unit → List String
  | .ok () => []
  | .error .incomplete => []
  | .error failure => Text.linesOf s!"Error: {failure.message}"

end SchemaMigration.CommandLine
