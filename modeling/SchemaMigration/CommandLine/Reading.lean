import SchemaMigration.CommandLine.Arguments

/-! # Reading the command line — from words to arguments

    Words are read from left to right.  A flag that takes a value waits for it;
    the value is checked only when the next flag comes, so that a word which
    cannot be read at all is the first thing reported.  A hyphen always starts a
    flag, and behind two lone hyphens nothing does. -/

namespace SchemaMigration.CommandLine

/-- A flag with its value. -/
inductive Setting where
  | verbose
  | nonInteractive
  | archived
  | projectDirectory (text : String)
  | settingsFile (text : String)
  | databases (kinds : List Kind)
  | output (format : Format)
  deriving DecidableEq, Repr

/-- The flag of a setting. -/
def Setting.flag : Setting → Flag
  | .verbose => .verbose
  | .nonInteractive => .nonInteractive
  | .archived => .archived
  | .projectDirectory _ => .projectDirectory
  | .settingsFile _ => .settingsFile
  | .databases _ => .database
  | .output _ => .output

/-- Reads the names of databases. -/
def readKinds : List String → Except UsageFault (List Kind)
  | [] => .ok []
  | name :: rest =>
      match Kind.ofName? name with
      | none => .error .malformedValue
      | some k => (readKinds rest).map (k :: ·)

/-- Reads the value of a flag. -/
def readValue (scope : Scope) (f : Flag) (value : String) : Except Stop Setting :=
  match f with
  | .projectDirectory => .ok (.projectDirectory value)
  | .settingsFile => .ok (.settingsFile value)
  | .database =>
      let names := if scope.isRepeatable f then Text.split ',' value else [value]
      match readKinds names with
      | .ok kinds => .ok (.databases kinds)
      | .error fault => .error (.fault fault)
  | .output =>
      match Format.ofName? value with
      | some format => .ok (.output format)
      | none => .error (.fault .unusableValue)
  | .verbose => .ok .verbose
  | .nonInteractive => .ok .nonInteractive
  | .archived => .ok .archived
  | .help =>
      match scope with
      | .program => .error (.help none)
      | .command name => .error (.help (some name))
  | .version => .error .version

/-- The state between two words: the settings so far, and the flag whose value is
    still to be checked, or to come. -/
structure Reading where
  given : List Setting
  open_ : Option (Flag × Option String)
  deriving DecidableEq, Repr

namespace Reading

/-- The state before the first word. -/
def start : Reading := ⟨[], none⟩

/-- Whether the next word can only be a value or a flag. -/
def awaitsValue (r : Reading) : Bool :=
  match r.open_ with
  | some (_, none) => true
  | _ => false

/-- Adds a flag with its value; one that may stand only once must be new. -/
def add (scope : Scope) (f : Flag) (value : String) (r : Reading) : Except Stop Reading :=
  if !scope.isRepeatable f && r.given.any (fun s => s.flag = f) then .error (.fault .repeated)
  else (readValue scope f value).map fun s => { r with given := r.given ++ [s] }

/-- Checks the value of the open flag. -/
def settle (scope : Scope) (r : Reading) : Except Stop Reading :=
  match r.open_ with
  | none => .ok r
  | some (_, none) => .error (.fault .unusableValue)
  | some (f, some value) => add scope f value { r with open_ := none }

/-- Reads a flag with a value that is attached to it, or none. -/
def readFlag (scope : Scope) (f : Flag) (attached : Option String) (r : Reading) :
    Except Stop Reading := do
  if f.takesValue then
    let r ← r.settle scope
    match attached with
    | some value => r.add scope f value
    | none => pure { r with open_ := some (f, none) }
  else
    match attached with
    | some _ => .error (.fault .needlessValue)
    | none => do
        let r ← r.settle scope
        r.add scope f ""

/-- Reads the letters behind one hyphen.  What follows a letter that takes a value
    is the value, without an equals sign before it. -/
def readLetters (scope : Scope) : List Char → Reading → Except Stop Reading
  | [], r => .ok r
  | c :: rest, r =>
      match scope.flagOfLetter? c with
      | none => .error (.fault .unknownArgument)
      | some f =>
          if f.takesValue then
            let value := match rest with
              | '=' :: more => more
              | _ => rest
            r.readFlag scope f (if rest.isEmpty then none else some (String.ofList value))
          else do
            let r ← r.readFlag scope f none
            readLetters scope rest r

/-- Reads a word behind two hyphens, with a value after an equals sign if it has one. -/
def readLongWord (scope : Scope) (body : List Char) (r : Reading) : Except Stop Reading :=
  let name := body.takeWhile (· != '=')
  let attached := match body.drop name.length with
    | _ :: value => some (String.ofList value)
    | [] => none
  match scope.flagOfWord? (String.ofList name) with
  | none => .error (.fault .unknownArgument)
  | some f => r.readFlag scope f attached

end Reading

/-- The word that asks for help. -/
def helpWord : String := "help"

/-- Whether a word names a command, or asks for help about one. -/
def isCommandWord (word : String) : Bool :=
  word = helpWord || (CommandName.ofText? word).isSome

/-- The fault of a word that stands where no word can. -/
def strayWord (scope : Scope) (trailing : Bool) (word : String) : UsageFault :=
  if scope = .program && !(trailing && isCommandWord word) then .unknownCommand
  else .unknownArgument

/-- Reads words up to the end or to the word that names a command. -/
def readWords (scope : Scope) (trailing : Bool) : List String → Reading →
    Except Stop (Reading × Option (String × List String))
  | [], r => .ok (r, none)
  | word :: rest, r =>
      if trailing then .error (.fault (strayWord scope true word))
      else if scope = .program && !r.awaitsValue && isCommandWord word then
        .ok (r, some (word, rest))
      else
        match word.toList with
        | ['-', '-'] => readWords scope true rest r
        | '-' :: '-' :: body =>
            match r.readLongWord scope body with
            | .error stop => .error stop
            | .ok r => readWords scope false rest r
        | '-' :: c :: letters =>
            match r.readLetters scope (c :: letters) with
            | .error stop => .error stop
            | .ok r => readWords scope false rest r
        | _ =>
            match r.open_ with
            | some (f, none) => readWords scope false rest { r with open_ := some (f, some word) }
            | _ => .error (.fault (strayWord scope false word))

/-- What the words behind a request for help ask for. -/
def helpAbout : List String → Stop
  | [] => .help none
  | [word] =>
      match CommandName.ofText? word with
      | some name => .help (some name)
      | none => if word = helpWord then .help none else .fault .unknownCommand
  | _ => .fault .unknownCommand

/-- The last project directory given. -/
def lastProjectDirectory (settings : List Setting) : Option String :=
  (settings.filterMap fun s =>
    match s with
    | .projectDirectory text => some text
    | _ => none).getLast?

/-- The last settings file given. -/
def lastSettingsFile (settings : List Setting) : Option String :=
  (settings.filterMap fun s =>
    match s with
    | .settingsFile text => some text
    | _ => none).getLast?

/-- All databases given. -/
def databasesOf (settings : List Setting) : List Kind :=
  settings.flatMap fun s =>
    match s with
    | .databases kinds => kinds
    | _ => []

/-- The format given, or the table. -/
def formatOf (settings : List Setting) : Format :=
  (settings.findSome? fun s =>
    match s with
    | .output format => some format
    | _ => none).getD .table

/-- The command that settings make. -/
def commandOf (name : CommandName) (settings : List Setting) : Except Stop Command :=
  let kinds := databasesOf settings
  match name with
  | .update => .ok (.update kinds (settings.contains .nonInteractive))
  | .plan => .ok (.plan kinds (formatOf settings))
  | .ledger =>
      match kinds with
      | kind :: _ => .ok (.ledger kind (settings.contains .archived) (formatOf settings))
      | [] => .error (.fault .missingArgument)

/-- The arguments of a command: a global flag counts wherever it stands, and behind
    the command it wins. -/
def Arguments.ofSettings (command : Command) (before behind : List Setting) : Arguments :=
  let settings := before ++ behind
  { command
    verbose := settings.contains .verbose
    projectDirectory := ⟨(lastProjectDirectory settings).getD "."⟩
    settingsFile := (lastSettingsFile settings).map Path.mk }

/-- What is wrong with a command line that names no command. -/
def withoutCommand (r : Reading) : Stop :=
  match r.settle .program with
  | .error stop => stop
  | .ok r => .fault (if r.given.isEmpty then .nothingGiven else .missingCommand)

/-- Reads the words after the name of the program. -/
def Arguments.read (words : List String) : Except Stop Arguments := do
  let (before, next) ← readWords .program false words .start
  match next with
  | none => .error (withoutCommand before)
  | some (word, rest) =>
      match CommandName.ofText? word with
      | none => .error (helpAbout rest)
      | some name => do
          let (behind, _) ← readWords (.command name) false rest .start
          let behind ← behind.settle (.command name)
          let command ← commandOf name behind.given
          let before ← before.settle .program
          pure (.ofSettings command before.given behind.given)

end SchemaMigration.CommandLine
