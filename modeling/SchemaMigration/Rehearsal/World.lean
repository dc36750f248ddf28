import SchemaMigration.Embedded.Database
import SchemaMigration.Fleet
import SchemaMigration.Prompt
import SchemaMigration.Rehearsal.Machine

/-! # The rehearsal world — everything a run can ask, as a value

    A world holds files, one site for each kind, the operator's prepared answers
    and what the downloader delivers, together with everything that was asked
    and logged.  Running a program in a world answers its questions and changes
    the world accordingly. -/

namespace SchemaMigration.Rehearsal

/-- What a scripted runner answers for a script. -/
inductive ScriptOutcome where
  | status (code : Int)
  | failure (text : String) (kind : FaultKind)
  deriving DecidableEq, Repr

/-- How the database of a site is driven: by scripted answers, or by the embedded
    backend on top of the store. -/
inductive Driver where
  | scripted (connection : Connection) (present : Bool) (backend : Backend)
      (outcomes : List (String × ScriptOutcome))
  | embedded (path : String)

/-- A script file as a runner was given it. -/
structure RanScript where
  connection : String
  path : String
  content : Option String
  deriving DecidableEq, Repr

/-- One database with its runner. -/
structure RehearsedSite where
  store : ScriptedStore
  driver : Driver
  ran : List RanScript

namespace RehearsedSite

/-- How the database is reached. -/
def connection (s : RehearsedSite) : Connection :=
  match s.driver with
  | .scripted connection _ _ _ => connection
  | .embedded path => .embedded path

/-- Which backend the database says it is. -/
def backend (s : RehearsedSite) : Backend :=
  match s.driver with
  | .scripted _ _ backend _ => backend
  | .embedded _ => .duckdb

/-- The dialect of the database. -/
def dialect (s : RehearsedSite) : Dialect :=
  match s.backend with
  | .mysql => .replaceInto
  | .duckdb => .insertOrReplace

/-- The database as a target. -/
def target (s : RehearsedSite) (kind : Kind) : Target :=
  ⟨kind, s.connection, s.dialect⟩

end RehearsedSite

/-- A world for rehearsals. -/
structure World where
  files : FileTree
  sites : List (Kind × RehearsedSite)
  provider : Prompt.Provider
  answers : List Bool
  paths : List (Option String)
  /-- What every download delivers; without it, downloads fail. -/
  payload : Option ByteArray
  log : List Log.Line
  asked : List String
  downloads : List (String × String)

/-- The name under which outcomes know a script. -/
def outcomeName (path : Path) : String :=
  if path = temporaryPath then "create_database" else (path.fileName?).getD ""

/-- A scripted cell as the text a scripted database answers. -/
def plainCell : Engine.Cell → String
  | .text value => value
  | .integer value => toString value
  | .truth true => "true"
  | .truth false => "false"
  | _ => "NULL"

/-- The rows of a scripted answer as text. -/
def plainRows (rows : List ScriptedRow) : List Row :=
  rows.map fun r => r.cells.map plainCell

namespace ScriptedStore

/-- Runs a statement behind the rules, with failures as database errors. -/
def statement (s : ScriptedStore) (sql : String) :
    Except DatabaseError (List Row) × ScriptedStore :=
  let sql := s.shown sql
  match s.receive sql with
  | (some (.rows rows), s) => (.ok (plainRows rows), s)
  | (some (.failure text kind), s) => (.error (kind.error text), s)
  | (none, s) =>
      match s.run sql with
      | (.ok rows, s) => (.ok rows, s)
      | (.error reason, s) => (.error (.execution reason), s)

/-- Notes a request that is no statement: the scripted answer, if there is one. -/
def pseudoStatement (s : ScriptedStore) (name : String) :
    Except DatabaseError (Option (List Row)) × ScriptedStore :=
  match s.receive name with
  | (some (.rows rows), s) => (.ok (some (plainRows rows)), s)
  | (some (.failure text kind), s) => (.error (kind.error text), s)
  | (none, s) => (.ok none, s)

/-- Answers a request to a scripted database. -/
def answer (present : Bool) : (q : Database.Request) → ScriptedStore →
    Except DatabaseError q.Value × ScriptedStore
  | .execute sql, s =>
      let (result, s) := s.statement sql
      (result.map fun _ => (), s)
  | .executeBatch sql, s =>
      let (result, s) := s.statement sql
      (result.map fun _ => (), s)
  | .query sql, s => s.statement sql
  | .exists, s =>
      let (result, s) := s.pseudoStatement "DATABASE EXISTS"
      (result.map fun _ => present, s)
  | .tables, s =>
      let (result, s) := s.pseudoStatement "LIST TABLES"
      (result.map fun rows =>
        match rows with
        | some rows => Embedded.firstColumn rows
        | none => s.store.tables.names, s)

/-- The rows of a scripted answer as an engine hands them out. -/
def engineRows : List ScriptedRow → Except Engine.QueryFault (List (List Engine.Cell))
  | [] => .ok []
  | r :: rest =>
      match r.fails with
      | some reason => .error (.interrupted reason)
      | none => (engineRows rest).map (r.cells :: ·)

/-- Answers a request to an engine; files are read from a tree. -/
def engineAnswer (files : FileTree) : (q : Engine.Request) → ScriptedStore × List Log.Line →
    q.Reply × (ScriptedStore × List Log.Line)
  | .execute sql, (s, log) =>
      let sql := s.shown sql
      match s.receive sql with
      | (some (.rows _), s) => (.ok (), (s, log))
      | (some (.failure text _), s) => (.error text, (s, log))
      | (none, s) =>
          let (result, s) := s.run sql
          (result.map fun _ => (), (s, log))
  | .script sql, (s, log) =>
      let sql := s.shown sql
      match s.receive sql with
      | (some (.rows _), s) => (.ok (), (s, log))
      | (some (.failure text _), s) => (.error text, (s, log))
      | (none, s) =>
          let (result, s) := s.runScript sql
          (result, (s, log))
  | .query sql, (s, log) =>
      let sql := s.shown sql
      match s.receive sql with
      | (some (.rows rows), s) => (engineRows rows, (s, log))
      | (some (.failure text _), s) => (.error (.refused text), (s, log))
      | (none, s) =>
          match s.run sql with
          | (.ok rows, s) => (.ok (rows.map fun row => row.map Engine.Cell.text), (s, log))
          | (.error reason, s) => (.error (.refused reason), (s, log))
  | .readScript path, state => (files.readText path, state)
  | .log line, (s, log) => ((), (s, log ++ [line]))

end ScriptedStore

namespace RehearsedSite

/-- Runs a program of the embedded backend. -/
def runEngine {α : Type} (files : FileTree) (s : RehearsedSite)
    (p : Program Engine.interface α) : α × RehearsedSite × List Log.Line :=
  let (a, store, log) :=
    p.run (I := Engine.interface) (ScriptedStore.engineAnswer files) (s.store, [])
  (a, { s with store }, log)

/-- Answers a request to the database. -/
def answerDatabase (files : FileTree) (s : RehearsedSite) (q : Database.Request) :
    Except DatabaseError q.Value × RehearsedSite × List Log.Line :=
  match s.driver with
  | .scripted _ present _ _ =>
      let (result, store) := ScriptedStore.answer present q s.store
      (result, { s with store }, [])
  | .embedded _ => s.runEngine files (Embedded.answer q)

/-- The outcome of a script under a scripted runner. -/
def outcome (outcomes : List (String × ScriptOutcome)) (path : Path) : Except DatabaseError Int :=
  match outcomes.lookup (outcomeName path) with
  | some (.status code) => .ok code
  | some (.failure text kind) => .error (kind.error text)
  | none => .ok 0

/-- Answers a request to the script runner.  A scripted runner notes the script
    and leaves the store alone. -/
def answerRunner (files : FileTree) (s : RehearsedSite) :
    (q : Runner.Request) → Except DatabaseError q.Value × RehearsedSite × List Log.Line
  | .file connection path =>
      match s.driver with
      | .scripted _ _ _ outcomes =>
          let content := ((files.read path).toOption).map Utf8.decodeLossy
          let note : RanScript := ⟨connection.render, path.text, content⟩
          (outcome outcomes path, { s with ran := s.ran ++ [note] }, [])
      | .embedded _ => s.runEngine files (Embedded.answerRunner (.file connection path))
  | .query connection sql =>
      match s.driver with
      | .scripted _ _ _ _ =>
          let (result, store) := s.store.statement sql
          (result.map fun rows => if rows.isEmpty then none else some rows, { s with store }, [])
      | .embedded _ => s.runEngine files (Embedded.answerRunner (.query connection sql))

end RehearsedSite

namespace World

/-- The site of a kind. -/
def site? (w : World) (kind : Kind) : Option RehearsedSite := w.sites.lookup kind

/-- The world with the site of a kind changed. -/
def setSite (w : World) (kind : Kind) (s : RehearsedSite) : World :=
  { w with sites := w.sites.map fun (k, old) => if k = kind then (k, s) else (k, old) }

/-- The world with lines added to its log. -/
def addLog (w : World) (lines : List Log.Line) : World :=
  { w with log := w.log ++ lines }

/-- Answers the operator's questions from the prepared answers; a provider with
    nobody to ask declines. -/
def answerOperator (w : World) : (q : Operator.Request) → q.Answer × World
  | .confirm question =>
      match w.provider with
      | .nobody =>
          let (a, t) := (Prompt.decline (.confirm question)).run (I := Prompt.interface)
            Prompt.Transcript.answer ⟨[], "", []⟩
          (a, w.addLog t.log)
      | .terminal =>
          (w.answers.headD false,
            { w with answers := w.answers.tail, asked := w.asked ++ [question] })
  | .askPath question =>
      match w.provider with
      | .nobody =>
          let (a, t) := (Prompt.decline (.askPath question)).run (I := Prompt.interface)
            Prompt.Transcript.answer ⟨[], "", []⟩
          (a, w.addLog t.log)
      | .terminal =>
          (w.paths.headD none,
            { w with paths := w.paths.tail, asked := w.asked ++ [question] })

/-- Answers a request about the database of a kind. -/
def answer (kind : Kind) : (q : Site.Request) → World → q.Reply × World
  | .database q, w =>
      match w.site? kind with
      | none => (.error (.connection "no such site"), w)
      | some s =>
          let (result, s, log) := s.answerDatabase w.files q
          (result, (w.setSite kind s).addLog log)
  | .runner q, w =>
      match w.site? kind with
      | none => (.error (.connection "no such site"), w)
      | some s =>
          let (result, s, log) := s.answerRunner w.files q
          (result, (w.setSite kind s).addLog log)
  | .operator q, w => w.answerOperator q
  | .download url destination, w =>
      let w := { w with downloads := w.downloads ++ [(url, destination.text)] }
      match w.payload with
      | some bytes => (.ok (), { w with files := w.files.write destination bytes })
      | none => (.error (.download url "503 Service Unavailable"), w)
  | .machine q, w =>
      let (reply, files, log) := answerMachine w.files q
      (reply, { w with files }.addLog log)

/-- The kind whose site has a number. -/
def kindOfSite (n : Nat) : Kind := (Kind.all[n]?).getD .auth

/-- Answers a request about one of several databases. -/
def answerFleet : (q : Fleet.Request) → World → q.question.Reply × World :=
  fun q w => answer (kindOfSite q.site) q.question w

/-- Runs a program about the database of a kind. -/
def perform {α : Type} (w : World) (kind : Kind) (p : Program Site.interface α) : α × World :=
  p.run (I := Site.interface) (answer kind) w

/-- Runs a program about several databases. -/
def performFleet {α : Type} (w : World) (p : Program Fleet.interface α) : α × World :=
  p.run (I := Fleet.interface) answerFleet w

/-- The database of a kind as a member of a fleet. -/
def member? (w : World) (kind : Kind) : Option Fleet.Member :=
  (w.site? kind).map fun s => ⟨kind.rank, s.target kind⟩

end World

end SchemaMigration.Rehearsal
