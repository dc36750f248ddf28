import SchemaMigration.Settings.Basic
import SchemaMigration.Text.Number
import SchemaMigration.Yaml.Scalar

/-! # Reading settings — from a YAML text to checked settings

    Every mapping has a fixed set of fields.  A field that is unknown, repeated
    or missing without a standard value refuses the whole text, and so does a
    value of another type.  A database that is described twice takes the last
    description. -/

namespace SchemaMigration.Settings

open Yaml

/-- The fields of a mapping with their nodes. -/
abbrev Fields := List (String × Node)

/-- Reads fields, each of an allowed name and none twice. -/
def readFields (allowed : List String) : List (Node × Node) → Fields → Except SettingsFault Fields
  | [], known => .ok known
  | (key, value) :: rest, known =>
      match key.text? with
      | none => .error (.wrongValue "key")
      | some name =>
          if !allowed.contains name then .error (.unknownField name)
          else if (known.lookup name).isSome then .error (.repeatedField name)
          else readFields allowed rest ((name, value) :: known)

/-- Reads a mapping with a fixed set of fields. -/
def readRecord (field : String) (allowed : List String) (n : Node) : Except SettingsFault Fields :=
  match n.entries? with
  | none => .error (.wrongValue field)
  | some entries => readFields allowed entries []

/-- Reads a value, refusing a node that does not write one. -/
def expect {α : Type} (field : String) (read : Node → Option α) (n : Node) :
    Except SettingsFault α :=
  match read n with
  | some a => .ok a
  | none => .error (.wrongValue field)

/-- The value of a field that must be there. -/
def required {α : Type} (fields : Fields) (name : String) (read : Node → Option α) :
    Except SettingsFault α :=
  match fields.lookup name with
  | none => .error (.missingField name)
  | some n => expect name read n

/-- The value of a field, or a standard value without one. -/
def withStandard {α : Type} (fields : Fields) (name : String) (standard : α)
    (read : Node → Option α) : Except SettingsFault α :=
  match fields.lookup name with
  | none => .ok standard
  | some n => expect name read n

/-- The value of a field that may be left out or be null. -/
def optional {α : Type} (fields : Fields) (name : String) (read : Node → Option α) :
    Except SettingsFault (Option α) :=
  withStandard fields name none fun n => do
    if ← n.isMissing? then pure none else (read n).map some

/-- Reads the name of a backend. -/
def readBackend (n : Node) : Option Backend :=
  match n.choice? with
  | some "mysql" => some .mysql
  | some "duckdb" => some .duckdb
  | _ => none

/-- Reads a number of 32 bits without a sign. -/
def readMask (n : Node) : Option Nat := n.natural?.filter (Text.fitsUnsigned 32)

/-- Reads a number of 32 bits with a sign. -/
def readLimit (n : Node) : Option Int := n.integer?.filter (Text.fitsSigned 32)

/-- The fields of the shared settings. -/
def updateFields : List String :=
  ["enable_databases", "auto_setup", "redundancy", "allow_rehash", "archived_redundancy",
    "clean_dead_ref_max_count"]

/-- Reads the shared settings. -/
def readUpdates (n : Node) : Except SettingsFault UpdateSettings := do
  let fields ← readRecord "updates" updateFields n
  let s := UpdateSettings.standard
  let enabledKinds ← withStandard fields "enable_databases" s.enabledKinds readMask
  let autoSetup ← withStandard fields "auto_setup" s.autoSetup Node.truth?
  let redundancy ← withStandard fields "redundancy" s.options.redundancy Node.truth?
  let allowRehash ← withStandard fields "allow_rehash" s.options.allowRehash Node.truth?
  let archivedRedundancy ←
    withStandard fields "archived_redundancy" s.options.archivedRedundancy Node.truth?
  let deadRunLimit ←
    withStandard fields "clean_dead_ref_max_count" s.options.deadRunLimit readLimit
  pure { enabledKinds, autoSetup
         options := { redundancy, allowRehash, archivedRedundancy, deadRunLimit } }

/-- The fields of one database. -/
def databaseFields : List String := ["type", "connection", "updates", "baseline_url"]

/-- Reads the settings of one database. -/
def readDatabase (n : Node) : Except SettingsFault DatabaseSettings := do
  let fields ← readRecord "databases" databaseFields n
  let backend ← withStandard fields "type" Backend.mysql readBackend
  let connection ← required fields "connection" Node.text?
  let updates ← withStandard fields "updates" true Node.truth?
  let baselineUrl ← optional fields "baseline_url" Node.text?
  pure { backend, connection, updates, baselineUrl }

/-- Reads databases by their kinds, the last one first. -/
def readDatabasesFrom : List (Node × Node) → List (Kind × DatabaseSettings) →
    Except SettingsFault (List (Kind × DatabaseSettings))
  | [], known => .ok known
  | (key, value) :: rest, known => do
      let kind ← expect "databases" (fun n => n.choice?.bind Kind.ofSlug?) key
      let d ← readDatabase value
      readDatabasesFrom rest ((kind, d) :: known)

/-- Reads the databases, in the order of their kinds. -/
def readDatabases (n : Node) : Except SettingsFault (List (Kind × DatabaseSettings)) := do
  let entries ← expect "databases" Node.entries? n
  let known ← readDatabasesFrom entries []
  pure (Kind.all.filterMap fun k => (known.lookup k).map fun d => (k, d))

/-- The fields of a settings text. -/
def textFields : List String :=
  ["source_directory", "mysql_executable", "allow_auto_db_update", "updates", "databases"]

/-- Reads settings from a node. -/
def ofNode (n : Node) : Except SettingsFault Settings := do
  let fields ← readRecord "settings" textFields n
  let source ← required fields "source_directory" Node.text?
  let client ← optional fields "mysql_executable" Node.text?
  let automatic ← withStandard fields "allow_auto_db_update" false Node.truth?
  let updates ←
    match fields.lookup "updates" with
    | none => pure .standard
    | some n => readUpdates n
  let databases ←
    match fields.lookup "databases" with
    | none => pure []
    | some n => readDatabases n
  pure { sourceDirectory := ⟨source⟩
         clientProgram := client.map Path.mk
         automatic, updates, databases }

/-- Reads settings from a text, without checking them. -/
def ofText (text : String) : Except SettingsFault Settings :=
  match Node.ofText? text with
  | none => .error .notYaml
  | some n => ofNode n

/-- Reads and checks settings; `refuse` wraps the fault of a text that has no settings. -/
def readWith (refuse : SettingsFault → InputError) (text : String) : Except InputError Settings :=
  match ofText text with
  | .error fault => .error (refuse fault)
  | .ok s => s.check.map fun _ => s

/-- Reads and checks settings. -/
def read (text : String) : Except InputError Settings := readWith .settingsText text

end SchemaMigration.Settings
