/-! # Log lines — what a run reports while it works -/

namespace SchemaMigration.Log

/-- How urgent a line is. -/
inductive Level where
  | trace
  | debug
  | info
  | warn
  | error
  deriving DecidableEq, Repr

namespace Level

/-- The name a line is written with. -/
def name : Level → String
  | .trace => "TRACE"
  | .debug => "DEBUG"
  | .info => "INFO"
  | .warn => "WARN"
  | .error => "ERROR"

/-- The urgency as a number, the least urgent level first. -/
def rank : Level → Nat
  | .trace => 0
  | .debug => 1
  | .info => 2
  | .warn => 3
  | .error => 4

end Level

/-- The part of the program that a line comes from. -/
inductive Topic where
  | settings
  | client
  | engine
  | ledger
  | update
  | baseline
  | preparation
  | fleet
  | prompt
  | download
  | updateCommand
  | planCommand
  | ledgerCommand
  deriving DecidableEq, Repr

/-- The name of a topic in log filters: the area and the part of it. -/
def Topic.name : Topic → String
  | .settings => "settings"
  | .client => "databases::client"
  | .engine => "databases::engine"
  | .ledger => "updates::ledger"
  | .update => "updates::run"
  | .baseline => "updates::baseline"
  | .preparation => "updates::preparation"
  | .fleet => "updates::fleet"
  | .prompt => "updates::prompt"
  | .download => "updates::download"
  | .updateCommand => "commands::update"
  | .planCommand => "commands::plan"
  | .ledgerCommand => "commands::ledger"

/-- One reported line. -/
structure Line where
  level : Level
  topic : Topic
  text : String
  deriving DecidableEq, Repr

/-- The line as it is written. -/
def Line.render (line : Line) : String :=
  s!"{line.level.name} {line.text}"

/-- A line about the inner working of a run. -/
def Line.debug (topic : Topic) (text : String) : Line := ⟨.debug, topic, text⟩

/-- A line about the progress of a run. -/
def Line.info (topic : Topic) (text : String) : Line := ⟨.info, topic, text⟩

/-- A line about something that may be wrong. -/
def Line.warn (topic : Topic) (text : String) : Line := ⟨.warn, topic, text⟩

/-- A line about a failure. -/
def Line.error (topic : Topic) (text : String) : Line := ⟨.error, topic, text⟩

end SchemaMigration.Log
