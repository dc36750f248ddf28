import SchemaMigration.Embedded.Engine
import SchemaMigration.Rehearsal.Store

/-! # Rules — scripted answers in front of a store

    A rule answers the statements that contain its pattern, after a number of
    them has gone by and as often as it may.  Statements that no rule answers
    run in the store.  Every statement is noted, with the measured speed of a
    recording statement hidden if the store hides it. -/

namespace SchemaMigration.Rehearsal

/-- The kind of error that a scripted failure is. -/
inductive FaultKind where
  | connection
  | execution
  | lock
  | missing
  deriving DecidableEq, Repr

/-- The database error of a kind with a text. -/
def FaultKind.error : FaultKind → String → DatabaseError
  | .connection, text => .connection text
  | .execution, text => .execution text
  | .lock, text => .lock text
  | .missing, text => .missingClient text

/-- A scripted row; `fails` says that the engine fails while handing it out. -/
structure ScriptedRow where
  cells : List Engine.Cell
  fails : Option String

/-- A scripted answer. -/
inductive Answer where
  | rows (rows : List ScriptedRow)
  | failure (text : String) (kind : FaultKind)

/-- A scripted answer to statements. -/
structure Rule where
  pattern : String
  /-- How many statements go by first. -/
  skip : Nat
  /-- How often the rule answers; without a number, always. -/
  times : Option Nat
  answer : Answer

/-- Looks for the rule that answers a statement: its answer, and the rules afterwards. -/
def consult (sql : String) : List Rule → Option Answer × List Rule
  | [] => (none, [])
  | r :: rest =>
      if Text.contains sql r.pattern then
        if r.times = some 0 then
          let (answer, after) := consult sql rest
          (answer, r :: after)
        else if r.skip > 0 then
          let (answer, after) := consult sql rest
          (answer, { r with skip := r.skip - 1 } :: after)
        else (some r.answer, { r with times := r.times.map (· - 1) } :: rest)
      else
        let (answer, after) := consult sql rest
        (answer, r :: after)

/-- What comes before the time in a recording statement. -/
def recordingMark : List Char := "'RELEASED', '".toList

/-- Whether the characters are a time in seconds, as a recording statement has it. -/
def isTime (cs : List Char) : Bool :=
  cs.length = 20 && (cs.zip "dddd-dd-ddTdd:dd:ddZ".toList).all fun (c, shape) =>
    if shape = 'd' then c.isDigit else c = shape

/-- The time that stands for every time of recording. -/
def fixedTime : List Char := "2001-02-03T04:05:06Z".toList

/-- Hides the time, and the speed if that is wanted, right after a recording mark. -/
def hideAfterMark (hideSpeed : Bool) (cs : List Char) : Option (List Char) :=
  let time := cs.take 20
  let rest := cs.drop 20
  if isTime time then
    let mark := "', ".toList
    let speed := (rest.drop 3).takeWhile Char.isDigit
    if hideSpeed && mark.isPrefixOf rest && !speed.isEmpty then
      some (fixedTime ++ mark ++ '0' :: rest.drop (3 + speed.length))
    else some (fixedTime ++ rest)
  else none

/-- Hides the first time of recording in a statement. -/
def hideTime (hideSpeed : Bool) : List Char → List Char
  | [] => []
  | c :: rest =>
      if recordingMark.isPrefixOf (c :: rest) then
        let after := (c :: rest).drop recordingMark.length
        match hideAfterMark hideSpeed after with
        | some hidden => recordingMark ++ hidden
        | none => c :: hideTime hideSpeed rest
      else c :: hideTime hideSpeed rest

/-- A store with rules in front of it and the statements it has seen. -/
structure ScriptedStore where
  store : Store
  rules : List Rule
  statements : List String
  hideSpeed : Bool

namespace ScriptedStore

/-- A statement as it is noted and run. -/
def shown (s : ScriptedStore) (sql : String) : String :=
  String.ofList (hideTime s.hideSpeed sql.toList)

/-- Notes a statement and consults the rules. -/
def receive (s : ScriptedStore) (sql : String) : Option Answer × ScriptedStore :=
  let (answer, rules) := consult sql s.rules
  (answer, { s with rules, statements := s.statements ++ [sql] })

/-- Runs one statement. -/
def run (s : ScriptedStore) (sql : String) : Except String (List Row) × ScriptedStore :=
  let (result, store) := s.store.run sql
  (result, { s with store })

/-- Runs a script. -/
def runScript (s : ScriptedStore) (sql : String) : Except String Unit × ScriptedStore :=
  let (result, store) := s.store.runScript sql
  (result, { s with store })

end ScriptedStore

end SchemaMigration.Rehearsal
