import SchemaMigration.Preparation
import SchemaMigration.Proofs.Ledger.Operations
import SchemaMigration.Proofs.Update.Capacity

/-! # Healthy sites — databases that run the statements of the ledger

    The ledger is kept through SQL text, so what a run may rely on is what a database
    makes of some statements.  `HealthySite` says it statement by statement: the
    ledger table holds records with different names, each statement has its meaning
    there or is refused for a reason, and nothing else alters the table.

    An update run on a healthy site is a run in `Surroundings`
    (`HealthySite.surroundings`), and what is shown for these holds of the site. -/

namespace SchemaMigration

open Ledger Program Update

/-! ## Statements and their effects -/

namespace Ledger

/-- The requests that read the ledger table or ask whether it is there. -/
inductive Consults : Database.Request → Prop where
  | tables : Consults .tables
  | list : Consults (.query listStatement)
  | count (path : String) : Consults (.query (countStatement path))

/-- What becomes of records when the statement of a change is run, with the answer. -/
inductive Changes (records : List Record) (c : Change) :
    Except DatabaseError Unit → List Record → Prop where
  | made {after : List Record} (time : Timestamp)
      (h : viewOf after = c.onto time (viewOf records)) : Changes records c (.ok ()) after
  | refused (error : DatabaseError)
      (h : Collides (viewOf records) c ∨ ¬Fits (viewOf records) c) :
      Changes records c (.error error) records

namespace Changes

variable {records after : List Record} {c : Change} {reply : Except DatabaseError Unit}
variable {context : String}

/-- A change that was not refused is made. -/
theorem of_ok (h : Changes records c reply after) (hok : failed context reply = .ok ()) :
    ∃ time, viewOf after = c.onto time (viewOf records) := by
  cases h with
  | made time hview => exact ⟨time, hview⟩
  | refused error hwhy => exact nomatch hok

/-- A change that was refused has no effect, and collides or does not fit. -/
theorem of_error (h : Changes records c reply after) {e : UpdateError}
    (herror : failed context reply = .error e) :
    after = records ∧ (Collides (viewOf records) c ∨ ¬Fits (viewOf records) c) := by
  cases h with
  | made time hview => exact nomatch herror
  | refused error hwhy => exact ⟨rfl, hwhy⟩

end Changes

end Ledger

/-! ## Healthy sites -/

/-- Answers to everything that is asked while one database is prepared, where the
    database runs the statements of the ledger with their meaning. -/
structure HealthySite (dialect : Dialect) (σ δ : Type) where
  answer : (q : Site.Request) → σ → q.Reply × σ
  files : σ → FileTree
  /-- What the database holds. -/
  database : σ → δ
  /-- The names of the tables. -/
  tables : δ → List String
  /-- The records of the ledger table, if it is there and well formed. -/
  ledger : δ → Option (List Record)
  present : ∀ d records, ledger d = some records → tableName ∈ tables d
  unique : ∀ d records, ledger d = some records → (records.map Record.path).Nodup
  /-- Nothing that is asked of the machine alters the database. -/
  machine : ∀ q s, database (answer (.machine q) s).2 = database s
  /-- Looking at files, clocks and the log alters no file. -/
  looking : ∀ q s, (∀ text, q ≠ .makeTemporary text) → (∀ path, q ≠ .dropTemporary path) →
    files (answer (.machine q) s).2 = files s
  isDirectory : ∀ path s,
    (answer (.machine (.isDirectory path)) s).1 = (files s).isDirectory path
  scan : ∀ source s, (answer (.machine (.scan source)) s).1 = source.scan (files s)
  /-- The stopwatch stays within the column of speeds. -/
  stopwatch : ∀ s, (answer (.machine .stopwatch) s).1 < 2 ^ 63
  /-- No statement alters a file. -/
  statement : ∀ q s, files (answer (.database q) s).2 = files s
  /-- Reading the ledger table alters nothing. -/
  consult : ∀ q s, Consults q → database (answer (.database q) s).2 = database s
  names : ∀ s, (answer (.database .tables) s).1 = .ok (tables (database s))
  /-- The table is made if it is not there. -/
  create : ∀ s, (answer (.database (.execute createStatement)) s).1 = .ok ()
    ∧ ledger (database (answer (.database (.execute createStatement)) s).2)
      = if tableName ∈ tables (database s) then ledger (database s) else some []
  list : ∀ s records, ledger (database s) = some records →
    ∃ rows, (answer (.database (.query listStatement)) s).1 = .ok rows
      ∧ readRows rows = records.map Record.asRead
  count : ∀ path s records, ledger (database s) = some records →
    ∃ rows, (answer (.database (.query (countStatement path))) s).1 = .ok rows
      ∧ counterOfRows rows = counterAt (viewOf records) path
  change : ∀ c time s records, ledger (database s) = some records →
    ∃ after, ledger (database (answer (.database (.execute (c.statement dialect time))) s).2)
        = some after
      ∧ Changes records c (answer (.database (.execute (c.statement dialect time))) s).1 after
  /-- Scripts leave the ledger table alone. -/
  script : ∀ q s, ledger (database (answer (.runner q) s).2) = ledger (database s)

namespace HealthySite

variable {dialect : Dialect} {σ δ : Type} (w : HealthySite dialect σ δ)

/-- The records that the ledger table holds in a state. -/
def held (s : σ) : Option (List Record) := w.ledger (w.database s)

variable {w} {s : σ} {records : List Record}

theorem held_eq_of_database_eq {t : σ} (h : w.database t = w.database s) : w.held t = w.held s :=
  congrArg w.ledger h

/-- Where the table is not there, no records are held. -/
theorem held_eq_none (h : tableName ∉ w.tables (w.database s)) : w.held s = none := by
  cases hheld : w.held s with
  | none => rfl
  | some records => exact absurd (w.present _ _ hheld) h

/-! ## Operations of the ledger -/

/-- Listing answers the records as they are read, and alters nothing. -/
theorem run_list (h : w.held s = some records) :
    ∃ t, (Ledger.list).run w.answer s = (.ok (records.map Record.asRead), t)
      ∧ w.held t = some records := by
  obtain ⟨rows, hrows, hread⟩ := w.list s records h
  rw [list_eq, run_ask, hrows]
  set u := (w.answer (.database (.query listStatement)) s).2
  refine ⟨((ofRows rows).run w.answer u).2, ?_, ?_⟩
  · rw [run_bind, ofRows_answers, hread]
    rfl
  · exact (held_eq_of_database_eq (ofRows_unaltered w.machine rows u)).trans
      ((held_eq_of_database_eq (w.consult _ s .list)).trans h)

/-- A change is made or refused, as its statement is. -/
theorem run_change (c : Change) (h : w.held s = some records) :
    ∃ reply after t, (Ledger.change dialect c).run w.answer s = (failed c.describe reply, t)
      ∧ w.held t = some after ∧ Changes records c reply after := by
  rw [change_eq, run_bind, run_ask, run_ask]
  have hheld : w.held (w.answer (.machine (.log (.debug .ledger s!"ledger: {c.describe}")))
      ((timeOf c).run w.answer s).2).2 = some records :=
    (held_eq_of_database_eq ((w.machine _ _).trans (timeOf_unaltered w.machine c s))).trans h
  obtain ⟨after, hafter, hchanges⟩ := w.change c _ _ records hheld
  exact ⟨_, after, _, rfl, hafter, hchanges⟩

/-- A counter grows and is read back, or is not counted for want of room. -/
theorem run_countMissing (path : String) (h : w.held s = some records) :
    ∃ reply after t, (Ledger.countMissing dialect path).run w.answer s = (reply, t)
      ∧ w.held t = some after
      ∧ (reply = .ok (counterAt (viewOf after) path)
          ∧ (∃ time, viewOf after = (Change.markMissing path).onto time (viewOf records))
        ∨ (∃ error, reply = .error error) ∧ after = records
          ∧ ¬Fits (viewOf records) (.markMissing path)) := by
  obtain ⟨reply, after, u, hrun, hafter, hchanges⟩ := run_change (.markMissing path) h
  rw [countMissing_eq, run_bind, hrun]
  -- Counting is a change and a look: the look is taken only if the change was made.
  cases hchanges with
  | made time hview =>
      obtain ⟨rows, hrows, hcount⟩ := w.count path u after hafter
      refine ⟨.ok (counterAt (viewOf after) path), after,
        (w.answer (.database (.query (countStatement path))) u).2, ?_,
        (held_eq_of_database_eq (w.consult _ u (.count path))).trans hafter,
        Or.inl ⟨rfl, time, hview⟩⟩
      show (readCount path).run w.answer u = _
      rw [readCount, run_ask, hrows, ← hcount]
      rfl
  | refused error hwhy =>
      exact ⟨_, records, u, rfl, hafter, Or.inr ⟨⟨_, rfl⟩, rfl, hwhy.resolve_left id⟩⟩

/-! ## Update runs -/

/-- A state in which the database has a well-formed ledger table. -/
structure Stocked (w : HealthySite dialect σ δ) where
  state : σ
  isSome : (w.held state).isSome

/-- The records of the ledger table. -/
def Stocked.stored (s : w.Stocked) : List Record := (w.held s.state).get s.isSome

theorem Stocked.held (s : w.Stocked) : w.held s.state = some s.stored :=
  (Option.some_get s.isSome).symm

theorem Stocked.stored_of_held {s : w.Stocked} (h : w.held s.state = some records) :
    s.stored = records := Option.some.inj (s.held.symm.trans h)

end HealthySite

namespace HealthySite

open Preparation

variable {target : Target} {σ δ : Type} {w : HealthySite target.dialect σ δ} {s : σ}
variable {records : List Record}

/-- What is no change of the ledger leaves its table alone. -/
theorem held_of_quiet {q : Update.Request} (hq : q.change? = none) (h : w.held s = some records) :
    w.held ((answerRun target q).run w.answer s).2 = some records := by
  cases q with
  | scan source => exact (held_eq_of_database_eq (w.machine _ s)).trans h
  | ledger op =>
      cases op with
      | list =>
          obtain ⟨t, hrun, ht⟩ := run_list h
          show w.held ((Ledger.list).run w.answer s).2 = _
          rw [hrun]
          exact ht
      | change c => cases hq
      | countMissing path => cases hq
  | runScript location => exact (w.script _ s).trans h
  | stopwatch => exact (held_eq_of_database_eq (w.machine _ s)).trans h
  | log line => exact (held_eq_of_database_eq (w.machine _ s)).trans h

/-- The ledger table stays well formed. -/
theorem stocked_answerRun (q : Update.Request) (h : (w.held s).isSome) :
    (w.held ((answerRun target q).run w.answer s).2).isSome := by
  obtain ⟨records, hrecords⟩ := Option.isSome_iff_exists.mp h
  cases hq : q.change? with
  | none => exact Option.isSome_iff_exists.mpr ⟨records, held_of_quiet hq hrecords⟩
  | some c =>
      cases q with
      | ledger op =>
          cases op with
          | list => exact nomatch hq
          | change c =>
              obtain ⟨reply, after, t, hrun, ht, -⟩ := run_change c hrecords
              show (w.held ((Ledger.change target.dialect c).run w.answer s).2).isSome = true
              rw [hrun]
              exact Option.isSome_iff_exists.mpr ⟨after, ht⟩
          | countMissing path =>
              obtain ⟨reply, after, t, hrun, ht, -⟩ := run_countMissing path hrecords
              show (w.held ((Ledger.countMissing target.dialect path).run w.answer s).2).isSome
                = true
              rw [hrun]
              exact Option.isSome_iff_exists.mpr ⟨after, ht⟩
      | _ => exact nomatch hq

/-- Answers the requests of an update run from a state with a well-formed ledger table. -/
def answerStocked (w : HealthySite target.dialect σ δ) (q : Update.Request) (s : w.Stocked) :
    q.Reply × w.Stocked :=
  (((answerRun target q).run w.answer s.state).1,
    ⟨((answerRun target q).run w.answer s.state).2, stocked_answerRun q s.isSome⟩)

/-- What a request is answered, and the records after it, where it is known how it runs. -/
theorem answerStocked_of_run {q : Update.Request} {s : w.Stocked} {reply : q.Reply} {t : σ}
    (hrun : (answerRun target q).run w.answer s.state = (reply, t))
    (ht : w.held t = some records) :
    (w.answerStocked q s).1 = reply ∧ (w.answerStocked q s).2.stored = records := by
  refine ⟨congrArg Prod.fst hrun, Stocked.stored_of_held ?_⟩
  show w.held ((answerRun target q).run w.answer s.state).2 = _
  rw [hrun]
  exact ht

/-- A change on a healthy site is made or refused. -/
theorem answerStocked_change (c : Change) (s : w.Stocked) :
    ∃ reply, (w.answerStocked (.ledger (.change c)) s).1 = failed c.describe reply
      ∧ Changes s.stored c reply (w.answerStocked (.ledger (.change c)) s).2.stored := by
  obtain ⟨reply, after, t, hrun, ht, hchanges⟩ := run_change c s.held
  obtain ⟨hreply, hafter⟩ := answerStocked_of_run (q := .ledger (.change c)) hrun ht
  exact ⟨reply, hreply, hafter ▸ hchanges⟩

/-- A counter on a healthy site grows and is read back, or does not fit. -/
theorem answerStocked_countMissing (path : String) (s : w.Stocked) :
    ((w.answerStocked (.ledger (.countMissing path)) s).1
          = .ok (counterAt (viewOf (w.answerStocked (.ledger (.countMissing path)) s).2.stored)
              path)
        ∧ ∃ time, viewOf (w.answerStocked (.ledger (.countMissing path)) s).2.stored
            = (Change.markMissing path).onto time (viewOf s.stored))
      ∨ (∃ error, (w.answerStocked (.ledger (.countMissing path)) s).1 = .error error)
        ∧ (w.answerStocked (.ledger (.countMissing path)) s).2.stored = s.stored
        ∧ ¬Fits (viewOf s.stored) (.markMissing path) := by
  obtain ⟨reply, after, t, hrun, ht, hcases⟩ := run_countMissing path s.held
  obtain ⟨hreply, hafter⟩ := answerStocked_of_run (q := .ledger (.countMissing path)) hrun ht
  rw [hafter, hreply]
  exact hcases

/-- A healthy site surrounds an update run. -/
def surroundings (w : HealthySite target.dialect σ δ) : Surroundings w.Stocked where
  answer := w.answerStocked
  records := Stocked.stored
  unique := fun s => w.unique _ _ s.held
  quiet := fun q s hq => Stocked.stored_of_held (held_of_quiet hq s.held)
  listed := by
    intro s found h
    obtain ⟨t, hrun, -⟩ := run_list s.held
    change ((Ledger.list).run w.answer s.state).1 = .ok found at h
    rw [hrun] at h
    exact (Except.ok.inj h).symm
  changed := by
    intro c s h
    obtain ⟨reply, hreply, hchanges⟩ := answerStocked_change c s
    exact hchanges.of_ok (hreply.symm.trans h)
  unchanged := by
    intro c s e h
    obtain ⟨reply, hreply, hchanges⟩ := answerStocked_change c s
    exact (hchanges.of_error (hreply.symm.trans h)).1
  counted := by
    intro path s n h
    rcases answerStocked_countMissing path s with ⟨hreply, hview⟩ | ⟨⟨error, hreply⟩, -⟩
    · exact ⟨hview, Except.ok.inj (h.symm.trans hreply)⟩
    · exact nomatch hreply.symm.trans h
  uncounted := by
    intro path s e h
    rcases answerStocked_countMissing path s with ⟨hreply, -⟩ | ⟨-, hsame, -⟩
    · exact nomatch hreply.symm.trans h
    · exact Or.inl hsame

/-- The ledger of a healthy site refuses only what collides or does not fit. -/
theorem roomy (w : HealthySite target.dialect σ δ) : Roomy w.surroundings where
  listed := by
    intro s error h
    obtain ⟨t, hrun, -⟩ := run_list s.held
    change ((Ledger.list).run w.answer s.state).1 = .error error at h
    rw [hrun] at h
    exact nomatch h
  changed := by
    intro c s error h
    obtain ⟨reply, hreply, hchanges⟩ := answerStocked_change c s
    exact (hchanges.of_error (hreply.symm.trans h)).2
  counted := by
    intro path s error h
    rcases answerStocked_countMissing path s with ⟨hreply, -⟩ | ⟨-, -, hunfit⟩
    · exact nomatch hreply.symm.trans h
    · exact hunfit
  stopwatch := fun s => w.stopwatch s.state

end HealthySite

end SchemaMigration
