import SchemaMigration.Database.Kind
import SchemaMigration.Files.Path

/-! # Arguments — what an operator asks for on the command line

    There are three commands.  Each has flags of its own beside the global ones,
    which may also stand before the command. -/

namespace SchemaMigration.CommandLine

/-- How a report is printed. -/
inductive Format where
  | table
  | json
  deriving DecidableEq, Repr

/-- The name of a format on the command line. -/
def Format.ofName? (name : String) : Option Format :=
  match name with
  | "table" => some .table
  | "json" => some .json
  | _ => none

/-- The names of the commands. -/
inductive CommandName where
  | update
  | plan
  | ledger
  deriving DecidableEq, Repr

namespace CommandName

/-- Every command. -/
def all : List CommandName := [.update, .plan, .ledger]

/-- The word that names a command. -/
def text : CommandName → String
  | .update => "update"
  | .plan => "plan"
  | .ledger => "ledger"

/-- The command that a word names. -/
def ofText? (word : String) : Option CommandName :=
  all.find? fun name => name.text = word

end CommandName

/-- A command with what it is to work on. -/
inductive Command where
  | update (databases : List Kind) (nonInteractive : Bool)
  | plan (databases : List Kind) (format : Format)
  | ledger (database : Kind) (archivedOnly : Bool) (format : Format)
  deriving DecidableEq, Repr

/-- Everything that was asked for. -/
structure Arguments where
  command : Command
  verbose : Bool
  projectDirectory : Path
  settingsFile : Option Path
  deriving DecidableEq, Repr

/-- Why a command line is refused. -/
inductive UsageFault where
  | nothingGiven
  | missingCommand
  | unknownCommand
  | unknownArgument
  | unusableValue
  | malformedValue
  | needlessValue
  | repeated
  | missingArgument
  deriving DecidableEq, Repr

/-- Why no command is carried out: a fault, or a request that the program answers by itself. -/
inductive Stop where
  | fault (f : UsageFault)
  | help (topic : Option CommandName)
  | version
  deriving DecidableEq, Repr

/-- The exit status of a program that stops so. -/
def Stop.status : Stop → Nat
  | .fault _ => 2
  | .help _ => 0
  | .version => 0

/-- The places where flags can stand: before the command, or behind it. -/
inductive Scope where
  | program
  | command (name : CommandName)
  deriving DecidableEq, Repr

/-- The flags. -/
inductive Flag where
  | verbose
  | projectDirectory
  | settingsFile
  | database
  | nonInteractive
  | output
  | archived
  | help
  | version
  deriving DecidableEq, Repr

namespace Flag

/-- The word behind two hyphens. -/
def word : Flag → String
  | .verbose => "verbose"
  | .projectDirectory => "project-dir"
  | .settingsFile => "config"
  | .database => "database"
  | .nonInteractive => "non-interactive"
  | .output => "output"
  | .archived => "archived"
  | .help => "help"
  | .version => "version"

/-- The letter behind one hyphen. -/
def letter? : Flag → Option Char
  | .verbose => some 'v'
  | .projectDirectory => some 'p'
  | .settingsFile => some 'c'
  | .database => some 'd'
  | .nonInteractive => none
  | .output => some 'o'
  | .archived => none
  | .help => some 'h'
  | .version => some 'V'

/-- Whether a value belongs to the flag. -/
def takesValue : Flag → Bool
  | .projectDirectory => true
  | .settingsFile => true
  | .database => true
  | .output => true
  | _ => false

end Flag

namespace Scope

/-- The flags that can stand anywhere. -/
def globalFlags : List Flag := [.verbose, .projectDirectory, .settingsFile, .help]

/-- The flags that can stand in a place. -/
def flags : Scope → List Flag
  | .program => .version :: globalFlags
  | .command .update => [.database, .nonInteractive] ++ globalFlags
  | .command .plan => [.database, .output] ++ globalFlags
  | .command .ledger => [.database, .archived, .output] ++ globalFlags

/-- Whether a flag may stand more than once and hold several values at commas. -/
def isRepeatable (s : Scope) (f : Flag) : Bool :=
  f = .database && s != .command .ledger

/-- The flag of a word. -/
def flagOfWord? (s : Scope) (word : String) : Option Flag :=
  s.flags.find? fun f => f.word = word

/-- The flag of a letter. -/
def flagOfLetter? (s : Scope) (letter : Char) : Option Flag :=
  s.flags.find? fun f => f.letter? = some letter

end Scope

end SchemaMigration.CommandLine
