import SchemaMigration.CommandLine.Arguments

/-! # Usage — what the program says about itself -/

namespace SchemaMigration.CommandLine

/-- The name of the program. -/
def programName : String := "dbup"

/-- The version of the program. -/
def programVersion : String := "0.1.0"

/-- The answer to a request for the version. -/
def versionText : String := s!"{programName} {programVersion}\n"

/-- Lines one below another. -/
def paragraph (lines : List String) : String := String.join (lines.map fun l => l ++ "\n")

/-- The help on the program. -/
def programHelp : String := paragraph
  ["dbup CLI - create, populate and update server databases from SQL scripts",
    "",
    "Usage: dbup [OPTIONS] <COMMAND>",
    "",
    "Commands:",
    "  update  Create, populate and update the enabled databases",
    "  plan    Show what an update would do without changing anything",
    "  ledger  List the applied updates recorded in a database",
    "  help    Print this message or the help of the given subcommand(s)",
    "",
    "Options:",
    "  -v, --verbose                    Enable verbose output",
    "  -p, --project-dir <PROJECT_DIR>  Directory containing dbup.yml [default: .]",
    "  -c, --config <CONFIG>            Override config file path",
    "  -h, --help                       Print help",
    "  -V, --version                    Print version"]

/-- The help on `update`. -/
def updateHelp : String := paragraph
  ["Create, populate and update the enabled databases",
    "",
    "Usage: dbup update [OPTIONS]",
    "",
    "Options:",
    "  -d, --database <DATABASES>       Databases to process (comma-separated, "
      ++ "default: updates.enable_databases)",
    "      --non-interactive            Never prompt; every question is answered \"no\"",
    "  -v, --verbose                    Enable verbose output",
    "  -p, --project-dir <PROJECT_DIR>  Directory containing dbup.yml [default: .]",
    "  -c, --config <CONFIG>            Override config file path",
    "  -h, --help                       Print help"]

/-- The help on the flag that chooses a format. -/
def outputHelp : List String :=
  ["  -o, --output <OUTPUT>",
    "          Output format",
    "",
    "          Possible values:",
    "          - table: Human-readable table",
    "          - json:  JSON array",
    "          ",
    "          [default: table]",
    ""]

/-- The help on the global flags, spread over lines. -/
def globalHelp : List String :=
  ["  -v, --verbose",
    "          Enable verbose output",
    "",
    "  -p, --project-dir <PROJECT_DIR>",
    "          Directory containing dbup.yml",
    "          ",
    "          [default: .]",
    "",
    "  -c, --config <CONFIG>",
    "          Override config file path",
    "",
    "  -h, --help",
    "          Print help (see a summary with '-h')"]

/-- The help on `plan`. -/
def planHelp : String := paragraph
  (["Show what an update would do without changing anything",
    "",
    "Usage: dbup plan [OPTIONS]",
    "",
    "Options:",
    "  -d, --database <DATABASES>",
    "          Databases to plan (comma-separated, default: updates.enable_databases)",
    ""] ++ outputHelp ++ globalHelp)

/-- The help on `ledger`. -/
def ledgerHelp : String := paragraph
  (["List the applied updates recorded in a database",
    "",
    "Usage: dbup ledger [OPTIONS] --database <DATABASE>",
    "",
    "Options:",
    "  -d, --database <DATABASE>",
    "          Database whose ledger to list",
    "",
    "      --archived",
    "          Only show archived records",
    ""] ++ outputHelp ++ globalHelp)

/-- The help on a command, or on the program. -/
def helpText : Option CommandName → String
  | none => programHelp
  | some .update => updateHelp
  | some .plan => planHelp
  | some .ledger => ledgerHelp

/-- What is printed when no command is carried out. -/
def Stop.text : Stop → String
  | .fault _ => ""
  | .help topic => helpText topic
  | .version => versionText

end SchemaMigration.CommandLine
