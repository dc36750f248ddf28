import SchemaMigration.Database.Connection
import SchemaMigration.Database.Kind
import SchemaMigration.Files.Error
import SchemaMigration.Files.Path

/-! # Input errors — what was given cannot be used

    Settings, connection strings, kind names and script files come from outside.
    Each way in which they can be unusable is a cause of its own. -/

namespace SchemaMigration

/-- Why a settings text is refused. -/
inductive SettingsFault where
  | notYaml
  | missingField (name : String)
  | unknownField (name : String)
  | repeatedField (name : String)
  | wrongValue (field : String)
  deriving DecidableEq, Repr

/-- The reason in words. -/
def SettingsFault.message : SettingsFault → String
  | .notYaml => "the text is not one YAML document"
  | .missingField name => s!"missing field '{name}'"
  | .unknownField name => s!"unknown field '{name}'"
  | .repeatedField name => s!"duplicate field '{name}'"
  | .wrongValue field => s!"unusable value for '{field}'"

/-- Why settings that could be read are refused. -/
inductive InvalidSetting where
  | noSourceDirectory
  | unknownBits (mask : Nat)
  | noConnection (kind : Kind)
  | notConfigured (kind : Kind)
  deriving DecidableEq, Repr

/-- The reason in words. -/
def InvalidSetting.message : InvalidSetting → String
  | .noSourceDirectory => "source_directory cannot be empty"
  | .unknownBits mask =>
      s!"updates.enable_databases = {mask} sets unknown bits (valid mask is 0..={Kind.fullMask})"
  | .noConnection kind => s!"databases.{kind.slug}.connection cannot be empty"
  | .notConfigured kind => s!"no databases.{kind.slug} section is configured"

/-- Why something that was given cannot be used. -/
inductive InputError where
  | settingsNotFound (path : Path)
  | settingsUnreadable (path : Path) (fault : SettingsFault)
  | settingsText (fault : SettingsFault)
  | invalid (setting : InvalidSetting)
  | connection (label : String) (fault : ConnectionFault)
  | unknownKind (name : String)
  | unreadable (path : Path) (cause : FileError)
  deriving DecidableEq, Repr

namespace InputError

/-- What comes before the cause of unreadable settings. -/
def settingsHeading : String := "[C002] Failed to parse config"

/-- What comes before the cause of an unreadable settings text. -/
def textHeading : String := "[C008] Config parse error"

/-- The error in words. -/
def message : InputError → String
  | .settingsNotFound path => s!"[C001] Config file not found: {path.text}"
  | .settingsUnreadable path fault => s!"{settingsHeading}: {path.text}: {fault.message}"
  | .invalid setting => s!"[C003] Invalid config: {setting.message}"
  | .connection label fault =>
      s!"[C004] Invalid connection string for {label}: {fault.message}"
  | .unknownKind name =>
      s!"[C005] Unknown database '{name}' (expected one of: auth, characters, world, hotfixes)"
  | .unreadable path cause => s!"[C007] Failed to read '{path.text}': {cause.message}"
  | .settingsText fault => s!"{textHeading}: {fault.message}"

/-- The error in words, followed by what caused it. -/
def causes : InputError → List String
  | .unreadable path cause => [message (.unreadable path cause), cause.message]
  | .settingsText fault => [message (.settingsText fault), fault.message]
  | other => [other.message]

end InputError

/-- Reads a connection string.  The label says in an error whose connection it is. -/
def Connection.readFor (label value : String) : Except InputError Connection :=
  match Connection.read value with
  | .ok c => .ok c
  | .error fault => .error (.connection label fault)

end SchemaMigration
