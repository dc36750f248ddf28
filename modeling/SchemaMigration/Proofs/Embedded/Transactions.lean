import SchemaMigration.Embedded.Database
import SchemaMigration.Proofs.Program.Trail
import SchemaMigration.Rehearsal.Store

/-! # Transactions — a script takes effect as a whole or not at all

    A script file is applied between the beginning of a transaction and its end, and
    four calls can fail on the way: beginning, a statement of the script, committing,
    and reading the file before all of them.

    * `Transactional` is an engine with transactions: which statements begin or end
      one, and what becomes of the tables when a statement succeeds or fails;
    * `inOrder_plain`: statements of other kinds leave the transaction open, and have
      their effects one after another if none of them fails;
    * `applyInTransaction_settles`: whichever call fails, the transaction is over and
      the tables are as they were;
    * `runFile_atomic` puts this together for a script file. -/

namespace SchemaMigration.Embedded

open Program

/-! ## Engines with transactions -/

/-- The statements that begin and end transactions. -/
inductive Control where
  | start
  | commit
  | rollback
  deriving DecidableEq, Repr

/-- The statement as text. -/
def Control.text : Control → String
  | .start => "BEGIN TRANSACTION"
  | .commit => "COMMIT"
  | .rollback => "ROLLBACK"

/-- Runs statements one after another, up to the first that fails. -/
def inOrder {σ : Type} (perform : String → σ → Except String Unit × σ) :
    List String → σ → Except String Unit × σ
  | [], s => (.ok (), s)
  | statement :: rest, s =>
      match perform statement s with
      | (.ok (), t) => inOrder perform rest t
      | (.error reason, t) => (.error reason, t)

/-- An engine that runs scripts statement by statement, with transactions. -/
structure Transactional (σ τ : Type) where
  answer : (q : Engine.Request) → σ → q.Reply × σ
  /-- All tables, with what they hold. -/
  tables : σ → τ
  /-- The tables as they were when the transaction began, while one is open. -/
  saved : σ → Option τ
  /-- The statements of a script. -/
  statements : String → List String
  /-- What a statement does to transactions, if anything. -/
  control? : String → Option Control
  perform : String → σ → Except String Unit × σ
  /-- What a statement does to the tables if it succeeds. -/
  effect : String → τ → τ
  script : ∀ sql s, answer (.script sql) s = inOrder perform (statements sql) s
  alone : ∀ c : Control, statements c.text = [c.text] ∧ control? c.text = some c
  /-- Other statements leave the transaction as it is; one that fails may leave anything in
      the tables. -/
  plain : ∀ sql s, control? sql = none → saved (perform sql s).2 = saved s
    ∧ ((perform sql s).1 = .ok () → tables (perform sql s).2 = effect sql (tables s))
  /-- A transaction begins with the tables as they are, or does not begin. -/
  begins : ∀ sql s, control? sql = some .start → saved s = none →
    tables (perform sql s).2 = tables s ∧ saved (perform sql s).2
      = match (perform sql s).1 with
        | .ok () => some (tables s)
        | .error _ => none
  commits : ∀ sql s, control? sql = some .commit → (perform sql s).1 = .ok () →
    saved (perform sql s).2 = none ∧ tables (perform sql s).2 = tables s
  /-- Where committing fails, the transaction is still open or was undone. -/
  refuses : ∀ sql s before reason, control? sql = some .commit → saved s = some before →
    (perform sql s).1 = .error reason →
    saved (perform sql s).2 = some before
      ∨ saved (perform sql s).2 = none ∧ tables (perform sql s).2 = before
  /-- Undoing restores the tables, and does nothing where no transaction is open. -/
  restores : ∀ sql s, control? sql = some .rollback →
    saved (perform sql s).2 = none ∧ tables (perform sql s).2 = (saved s).getD (tables s)
  /-- Reading files and reporting is no matter of the database. -/
  reads : ∀ path s, tables (answer (.readScript path) s).2 = tables s
    ∧ saved (answer (.readScript path) s).2 = saved s
  logs : ∀ line s, tables (answer (.log line) s).2 = tables s
    ∧ saved (answer (.log line) s).2 = saved s

namespace Transactional

variable {σ τ : Type} (e : Transactional σ τ)

/-- The tables after all statements of a script, in order. -/
def after (sql : String) (before : τ) : τ :=
  (e.statements sql).foldl (fun tables statement => e.effect statement tables) before

/-- No statement of the script begins or ends a transaction. -/
def Plain (sql : String) : Prop := ∀ statement ∈ e.statements sql, e.control? statement = none

/-- The tables can be brought back: the transaction is open, or they are back already. -/
def Undoable (before : τ) (s : σ) : Prop :=
  e.saved s = some before ∨ e.saved s = none ∧ e.tables s = before

variable {e} {s : σ} {sql : String} {before : τ}

/-- Statements of other kinds leave the transaction as it is, and have their effects in order. -/
theorem inOrder_plain {statements : List String}
    (h : ∀ statement ∈ statements, e.control? statement = none) (s : σ) :
    e.saved (inOrder e.perform statements s).2 = e.saved s
      ∧ ((inOrder e.perform statements s).1 = .ok () →
        e.tables (inOrder e.perform statements s).2
          = statements.foldl (fun tables statement => e.effect statement tables) (e.tables s)) := by
  -- By induction on the statements: each leaves the transaction as it is, so the rest starts
  -- inside it.
  induction statements generalizing s with
  | nil => exact ⟨rfl, fun _ => rfl⟩
  | cons statement rest ih =>
      obtain ⟨hfirst, hrest⟩ := List.forall_mem_cons.mp h
      obtain ⟨hsaved, heffect⟩ := e.plain statement s hfirst
      rw [inOrder]
      cases hperform : e.perform statement s with
      | mk reply t =>
          rw [hperform] at hsaved heffect
          cases reply with
          | error reason => exact ⟨hsaved, nofun⟩
          | ok done =>
              obtain ⟨hrestSaved, hrestEffect⟩ := ih hrest t
              refine ⟨hrestSaved.trans hsaved, fun hok => ?_⟩
              rw [hrestEffect hok, heffect rfl]
              rfl

/-- A script that begins or ends a transaction is the one statement. -/
theorem script_control (c : Control) (s : σ) :
    e.answer (.script c.text) s = e.perform c.text s := by
  rw [e.script, (e.alone c).1, inOrder]
  cases e.perform c.text s with
  | mk reply t =>
      cases reply with
      | ok done => rfl
      | error reason => rfl

/-- A plain script leaves what is saved alone and, if it succeeds, has its whole effect. -/
theorem script_plain (h : e.Plain sql) (s : σ) :
    e.saved (e.answer (.script sql) s).2 = e.saved s
      ∧ ((e.answer (.script sql) s).1 = .ok () →
        e.tables (e.answer (.script sql) s).2 = e.after sql (e.tables s)) := by
  rw [e.script]
  exact inOrder_plain h s

/-- Beginning a transaction changes no table, and saves the tables if it succeeds. -/
theorem script_start (h : e.saved s = none) :
    e.tables (e.answer (.script "BEGIN TRANSACTION") s).2 = e.tables s
      ∧ e.saved (e.answer (.script "BEGIN TRANSACTION") s).2
        = match (e.answer (.script "BEGIN TRANSACTION") s).1 with
          | .ok () => some (e.tables s)
          | .error _ => none := by
  have hperform : e.answer (.script "BEGIN TRANSACTION") s = _ := script_control .start s
  rw [hperform]
  exact e.begins _ s (e.alone .start).2 h

/-- A commit that succeeds closes the transaction and keeps the tables; one that fails can still
be undone. -/
theorem script_commit (h : e.saved s = some before) :
    match (e.answer (.script "COMMIT") s).1 with
    | .ok () => e.saved (e.answer (.script "COMMIT") s).2 = none
        ∧ e.tables (e.answer (.script "COMMIT") s).2 = e.tables s
    | .error _ => e.Undoable before (e.answer (.script "COMMIT") s).2 := by
  have hperform : e.answer (.script "COMMIT") s = _ := script_control .commit s
  rw [hperform]
  cases hreply : (e.perform Control.commit.text s).1 with
  | ok done => exact e.commits _ s (e.alone .commit).2 hreply
  | error reason => exact e.refuses _ s before reason (e.alone .commit).2 h hreply

/-- Rolling back restores the tables from before the transaction, also behind a failed commit. -/
theorem script_rollback (h : e.Undoable before s) :
    e.saved (e.answer (.script "ROLLBACK") s).2 = none
      ∧ e.tables (e.answer (.script "ROLLBACK") s).2 = before := by
  have hperform : e.answer (.script "ROLLBACK") s = _ := script_control .rollback s
  obtain ⟨hsaved, htables⟩ := e.restores _ s (e.alone .rollback).2
  rw [hperform]
  refine ⟨hsaved, htables.trans ?_⟩
  -- Either the transaction is still open, or the engine has undone it already.
  rcases h with hopen | ⟨hclosed, hback⟩
  · rw [hopen]
    rfl
  · rw [hclosed]
    exact hback

end Transactional

/-! ## One script -/

/-- The exchange is no call of the engine or of the files that failed. -/
def Succeeds : Exchange Engine.interface → Prop
  | ⟨.execute _, reply⟩ => reply = .ok ()
  | ⟨.script _, reply⟩ => reply = .ok ()
  | ⟨.query _, reply⟩ => ∃ rows, reply = .ok rows
  | ⟨.readScript _, reply⟩ => ∃ sql, reply = .ok sql
  | ⟨.log _, _⟩ => True

theorem script_fails {sql reason : String} :
    ¬Succeeds ⟨.script sql, .error reason⟩ := fun h => nomatch (h : Except.error reason = .ok ())

theorem read_fails {path : Path} {cause : FileError} :
    ¬Succeeds ⟨.readScript path, .error cause⟩ := fun ⟨_, h⟩ => nomatch h

/-- No call has failed. -/
def Clean (past : List (Exchange Engine.interface)) : Prop := ∀ m ∈ past, Succeeds m

section

variable {past : List (Exchange Engine.interface)} {m : Exchange Engine.interface}

theorem Clean.append (h : Clean past) (hm : Succeeds m) : Clean (past ++ [m]) :=
  List.forall_mem_append.mpr ⟨h, List.forall_mem_singleton.mpr hm⟩

theorem not_clean_append (h : ¬Clean past) : ¬Clean (past ++ [m]) :=
  fun hclean => h fun x hx => hclean x (List.mem_append_left _ hx)

theorem not_clean_of_fails (hm : ¬Succeeds m) : ¬Clean (past ++ [m]) :=
  fun hclean => hm (hclean m (List.mem_append_right _ List.mem_cons_self))

end

section

variable {σ τ : Type} {e : Transactional σ τ} {s : σ} {sql : String}
variable {past : List (Exchange Engine.interface)}

/-- Applying a script ends the transaction: the script took effect and no call failed, or one
    did, and the tables are as they were. -/
structure Settled (e : Transactional σ τ) (sql : String) (before : τ) (ok : Prop)
    (past : List (Exchange Engine.interface)) (t : σ) : Prop where
  closed : e.saved t = none
  effect : ok ∧ Clean past ∧ e.tables t = e.after sql before
    ∨ ¬ok ∧ ¬Clean past ∧ e.tables t = before

/-- Undoing what a script did settles it. -/
theorem rollback_settles {before : τ} (h : e.Undoable before s) (hfailed : ¬Clean past)
    {error : DatabaseError} :
    ((Engine.script "ROLLBACK").bind fun _ =>
      (.done (.error error) : Program Engine.interface (Except DatabaseError Unit))).Keeps e.answer
      (fun _ _ => True)
      (fun result past t => Settled e sql before (result = .ok ()) past t) past s := by
  obtain ⟨hclosed, hback⟩ := Transactional.script_rollback h
  exact ⟨trivial, hclosed, Or.inr ⟨nofun, not_clean_append hfailed, hback⟩⟩

/-- Whichever call fails, the transaction is over and the tables are as they were. -/
theorem applyInTransaction_settles (hclosed : e.saved s = none) (hplain : e.Plain sql)
    (hpast : Clean past) :
    (applyInTransaction sql).Keeps e.answer (fun _ _ => True)
      (fun result past t => Settled e sql (e.tables s) (result = .ok ()) past t) past s := by
  refine ⟨trivial, ?_⟩
  obtain ⟨hsame, hbegun⟩ := Transactional.script_start hclosed
  generalize e.answer (.script "BEGIN TRANSACTION") s = begun at hsame hbegun ⊢
  obtain ⟨reply, t⟩ := begun
  cases reply with
  -- Nothing was begun, so nothing has to be undone.
  | error reason => exact ⟨hbegun, Or.inr ⟨nofun, not_clean_of_fails script_fails, hsame⟩⟩
  | ok done =>
      have hstarted := hpast.append (m := ⟨.script "BEGIN TRANSACTION", .ok ()⟩) rfl
      refine ⟨trivial, ?_⟩
      obtain ⟨hopen, heffect⟩ := Transactional.script_plain hplain t
      generalize e.answer (.script sql) t = ran at hopen heffect ⊢
      obtain ⟨reply, u⟩ := ran
      replace hopen : e.saved u = some (e.tables s) := hopen.trans hbegun
      cases reply with
      -- A statement failed inside the transaction, which is open still.
      | error reason => exact rollback_settles (Or.inl hopen) (not_clean_of_fails script_fails)
      | ok done =>
          have hran := hstarted.append (m := ⟨.script sql, .ok ()⟩) rfl
          refine ⟨trivial, ?_⟩
          have hcommit := Transactional.script_commit hopen
          generalize e.answer (.script "COMMIT") u = committed at hcommit ⊢
          obtain ⟨reply, v⟩ := committed
          cases reply with
          -- The commit failed, which leaves the transaction open or undone.
          | error reason => exact rollback_settles hcommit (not_clean_of_fails script_fails)
          | ok done =>
              refine ⟨hcommit.1, Or.inl ⟨rfl, hran.append rfl, ?_⟩⟩
              rw [hcommit.2, heffect rfl, hsame]

/-- The status of a file is zero, no call failed and every statement had its effect, or it is
    another one, a call failed and nothing had an effect. -/
def AllOrNothing (e : Transactional σ τ) (path : Path) (s : σ) (status : Int)
    (past : List (Exchange Engine.interface)) (t : σ) : Prop :=
  (status = 0 ∧ Clean past ∧ ∃ sql, (e.answer (.readScript path) s).1 = .ok sql
    ∧ e.tables t = e.after sql (e.tables s))
  ∨ (status ≠ 0 ∧ ¬Clean past ∧ e.tables t = e.tables s)

/-- Applying a file answers a status, and a file that cannot be read changes nothing. -/
theorem runFile_settles (path : Path) (hclosed : e.saved s = none)
    (hplain : ∀ sql, (e.answer (.readScript path) s).1 = .ok sql → e.Plain sql) :
    (runFile path).Keeps e.answer (fun _ _ => True)
      (fun result past t => ∃ status, result = .ok status ∧ e.saved t = none
        ∧ AllOrNothing e path s status past t) [] s := by
  refine ⟨trivial, ?_⟩
  obtain ⟨htables, hsaved⟩ := e.reads path s
  have hclosed := hsaved.trans hclosed
  cases hread : (e.answer (.readScript path) s).1 with
  | error cause =>
      obtain ⟨hlogTables, hlogSaved⟩ := e.logs
        (.error .engine s!"Failed to read script '{path.text}': {cause.message}") _
      exact ⟨trivial, 1, rfl, hlogSaved.trans hclosed, Or.inr ⟨Int.one_ne_zero,
        not_clean_append (not_clean_of_fails read_fails), hlogTables.trans htables⟩⟩
  | ok sql =>
      show (Program.bind (applyInTransaction sql) _).Keeps _ _ _ _ _
      rw [keeps_bind]
      have hclean : Clean [⟨.readScript path, .ok sql⟩] :=
        List.forall_mem_singleton.mpr ⟨sql, rfl⟩
      refine (applyInTransaction_settles hclosed (hplain sql hread) hclean).mono
        fun result past u hsettled => ?_
      obtain ⟨hover, heffect⟩ := hsettled
      rw [htables] at heffect
      cases result with
      | ok done =>
          -- The status is zero on this way only, and non-zero on all others.
          obtain ⟨-, hclean, hafter⟩ := heffect.resolve_right fun h => h.1 rfl
          exact ⟨0, rfl, hover, Or.inl ⟨rfl, hclean, sql, hread, hafter⟩⟩
      | error error =>
          obtain ⟨-, hfailed, hsame⟩ := heffect.resolve_left fun h => nomatch h.1
          obtain ⟨hlogTables, hlogSaved⟩ := e.logs
            (.error .engine s!"Applying '{path.text}' failed: {error.message}") u
          exact ⟨trivial, 1, rfl, hlogSaved.trans hover, Or.inr ⟨Int.one_ne_zero,
            not_clean_append hfailed, hlogTables.trans hsame⟩⟩

/-- A script file takes effect as a whole or not at all.  Take an engine with transactions, a
    state in which none is open, and a file that, if it can be read, holds no statement that
    begins or ends one.  Whatever fails, applying the file answers a status and leaves no
    transaction open; the status is zero if no call failed, and then every statement of the
    script has had its effect, in order; otherwise it is another one, and all tables are as
    they were. -/
theorem runFile_atomic (e : Transactional σ τ) (path : Path) (hclosed : e.saved s = none)
    (hplain : ∀ sql, (e.answer (.readScript path) s).1 = .ok sql → e.Plain sql) :
    ∃ status t, (runFile path).run e.answer s = (.ok status, t) ∧ e.saved t = none
      ∧ AllOrNothing e path s status (((runFile path).trail e.answer s).map Prod.fst) t := by
  obtain ⟨status, hstatus, hover, heffect⟩ := (runFile_settles path hclosed hplain).outcome
  exact ⟨status, _, Prod.ext hstatus rfl, hover, heffect⟩

end

/-! ## A store that refuses statements -/

section

open Rehearsal

/-- What a statement does to transactions of the rehearsal store. -/
def controlOf : Statement → Option Control
  | .beginTransaction => some .start
  | .commit => some .commit
  | .rollback => some .rollback
  | _ => none

/-- What a text does to transactions of the rehearsal store. -/
def controlOfText (sql : String) : Option Control :=
  (tokens sql.toList).bind fun ts => controlOf (readStatement ts)

/-- A text that controls transactions is read as the statement that does. -/
theorem run_of_control {sql : String} {c : Control} (h : controlOfText sql = some c) (s : Store) :
    ∃ statement, controlOf statement = some c ∧ s.run sql = s.perform statement := by
  obtain ⟨ts, hts, hc⟩ := Option.bind_eq_some_iff.mp h
  exact ⟨readStatement ts, hc, by rw [Store.run, hts]⟩

/-- Other statements leave what is saved as it is, and do the same without it. -/
theorem perform_plain {statement : Statement} (h : controlOf statement = none) (s : Store) :
    (s.perform statement).2.saved = s.saved
      ∧ (s.perform statement).2.tables = ((⟨s.tables, none⟩ : Store).perform statement).2.tables := by
  cases statement with
  | beginTransaction => exact nomatch h
  | rollback => exact nomatch h
  | commit => exact nomatch h
  | createTable name onlyIfAbsent =>
      by_cases hthere : s.tables.contains name = true
      · cases onlyIfAbsent <;> simp [Store.perform, hthere]
      · simp [Store.perform, hthere]
  | dropTable name =>
      by_cases hthere : s.tables.contains name = true <;> simp [Store.perform, hthere]
  | ledger statement =>
      cases hledger : s.tables.ledger with
      | none => simp [Store.perform, hledger]
      | some rows => cases hrun : statement.run rows <;> simp [Store.perform, hledger, hrun]
  | _ => exact ⟨rfl, rfl⟩

/-- A text that does not control transactions leaves what is saved alone and changes the tables
as it would outside of any transaction. -/
theorem run_plain {sql : String} (h : controlOfText sql = none) (s : Store) :
    (s.run sql).2.saved = s.saved
      ∧ (s.run sql).2.tables = ((⟨s.tables, none⟩ : Store).run sql).2.tables := by
  cases hts : tokens sql.toList with
  | none =>
      rw [Store.run, Store.run, hts]
      exact ⟨rfl, rfl⟩
  | some ts =>
      rw [controlOfText, hts] at h
      rw [Store.run, Store.run, hts]
      exact perform_plain h s

/-- Runs a statement in the store unless it is refused; undoing is never refused. -/
def performUnless (refused : List String) (sql : String) (s : Store) : Except String Unit × Store :=
  if sql ∈ refused ∧ controlOfText sql ≠ some .rollback then (.error "refused", s)
  else ((s.run sql).1.map fun _ => (), (s.run sql).2)

/-- The texts that the engine sends to control a transaction are single statements and mean what
they say. -/
theorem controlOfText_text (c : Control) :
    Text.split ';' c.text = [c.text] ∧ controlOfText c.text = some c := by
  cases c <;> decide +kernel

section

variable {refused : List String} {sql : String} {s : Store}

/-- A store that refuses some texts is plain where it obeys, and untouched where it refuses. -/
theorem performUnless_plain (h : controlOfText sql = none) :
    (performUnless refused sql s).2.saved = s.saved
      ∧ ((performUnless refused sql s).1 = .ok () →
          (performUnless refused sql s).2.tables
            = ((⟨s.tables, none⟩ : Store).run sql).2.tables) := by
  rw [performUnless]
  by_cases hrefused : sql ∈ refused ∧ controlOfText sql ≠ some .rollback
  · rw [if_pos hrefused]
    refine ⟨rfl, fun hok => ?_⟩
    cases hok
  · rw [if_neg hrefused]
    exact ⟨(run_plain h s).1, fun _ => (run_plain h s).2⟩

/-- A statement that begins or ends a transaction is run, or it is refused and does nothing. -/
theorem performUnless_of_control {c : Control} (h : controlOfText sql = some c) (s : Store) :
    performUnless refused sql s = (.error "refused", s) ∧ c ≠ .rollback
      ∨ ∃ statement, controlOf statement = some c
          ∧ performUnless refused sql s
            = ((s.perform statement).1.map fun _ => (), (s.perform statement).2) := by
  rw [performUnless]
  by_cases hrefused : sql ∈ refused ∧ controlOfText sql ≠ some .rollback
  · rw [if_pos hrefused]
    exact Or.inl ⟨rfl, fun hc => hrefused.2 (hc ▸ h)⟩
  · obtain ⟨statement, hstatement, hrun⟩ := run_of_control h s
    rw [if_neg hrefused, hrun]
    exact Or.inr ⟨statement, hstatement, rfl⟩

/-- Beginning is refused and changes nothing, or saves the tables. -/
theorem performUnless_begins (h : controlOfText sql = some .start) (hclosed : s.saved = none) :
    (performUnless refused sql s).2.tables = s.tables
      ∧ (performUnless refused sql s).2.saved
        = match (performUnless refused sql s).1 with
          | .ok () => some s.tables
          | .error _ => none := by
  rcases performUnless_of_control h s with ⟨hdoes, -⟩ | ⟨statement, hstatement, hdoes⟩
  · rw [hdoes]
    exact ⟨rfl, hclosed⟩
  · rw [hdoes]
    cases statement with
    | beginTransaction => exact ⟨rfl, rfl⟩
    | _ => cases hstatement

/-- A commit that succeeds was not refused, so it keeps the tables and saves none. -/
theorem performUnless_commits (h : controlOfText sql = some .commit)
    (hok : (performUnless refused sql s).1 = .ok ()) :
    (performUnless refused sql s).2.saved = none
      ∧ (performUnless refused sql s).2.tables = s.tables := by
  rcases performUnless_of_control h s with ⟨hdoes, -⟩ | ⟨statement, hstatement, hdoes⟩
  · rw [hdoes] at hok
    cases hok
  · rw [hdoes]
    cases statement with
    | commit => exact ⟨rfl, rfl⟩
    | _ => cases hstatement

/-- A commit that fails was refused, so the transaction is open still. -/
theorem performUnless_refuses {before : Tables} {reason : String}
    (h : controlOfText sql = some .commit) (hopen : s.saved = some before)
    (hreason : (performUnless refused sql s).1 = .error reason) :
    (performUnless refused sql s).2.saved = some before
      ∨ (performUnless refused sql s).2.saved = none
        ∧ (performUnless refused sql s).2.tables = before := by
  rcases performUnless_of_control h s with ⟨hdoes, -⟩ | ⟨statement, hstatement, hdoes⟩
  · rw [hdoes]
    exact Or.inl hopen
  · rw [hdoes] at hreason
    cases statement with
    | commit => cases hreason
    | _ => cases hstatement

/-- Rolling back is never refused. -/
theorem performUnless_restores (h : controlOfText sql = some .rollback) :
    (performUnless refused sql s).2.saved = none
      ∧ (performUnless refused sql s).2.tables = s.saved.getD s.tables := by
  rcases performUnless_of_control h s with ⟨-, hother⟩ | ⟨statement, hstatement, hdoes⟩
  · exact absurd rfl hother
  · rw [hdoes]
    cases statement with
    | rollback => cases hsaved : s.saved <;> simp [Store.perform, hsaved]
    | _ => cases hstatement

end

/-- The rehearsal store as an engine, with statements that it refuses and scripts to read. -/
def refusing (refused : List String) (files : Path → Except FileError String) :
    Transactional Store Tables where
  answer
    | .execute sql, s => performUnless refused sql s
    | .script sql, s => inOrder (performUnless refused) (Text.split ';' sql) s
    | .query sql, s =>
        match s.run sql with
        | (.ok rows, t) => (.ok (rows.map fun row => row.map Engine.Cell.text), t)
        | (.error reason, t) => (.error (.refused reason), t)
    | .readScript path, s => (files path, s)
    | .log _, s => ((), s)
  tables := Store.tables
  saved := Store.saved
  statements := Text.split ';'
  control? := controlOfText
  perform := performUnless refused
  effect sql tables := ((⟨tables, none⟩ : Store).run sql).2.tables
  script := fun _ _ => rfl
  alone := controlOfText_text
  plain _ _ := performUnless_plain
  begins _ _ := performUnless_begins
  commits _ _ := performUnless_commits
  refuses _ _ _ _ := performUnless_refuses
  restores _ _ := performUnless_restores
  reads := fun _ _ => ⟨rfl, rfl⟩
  logs := fun _ _ => ⟨rfl, rfl⟩

/-- A script that makes one table and drops another. -/
def movingScript : String := "CREATE TABLE account;DROP TABLE characters"

/-- A store with a ledger table and one other. -/
def smallStore : Store := ⟨⟨some [], ["characters"]⟩, none⟩

/-- Both statements have run when the transaction cannot be committed, and both are undone. -/
theorem runFile_atomic_uncommitted :
    (refusing ["COMMIT"] fun _ => .ok movingScript).Plain movingScript
      ∧ ∃ status t, (runFile ⟨"moving.sql"⟩).run
            (refusing ["COMMIT"] fun _ => .ok movingScript).answer smallStore = (.ok status, t)
          ∧ status ≠ 0 ∧ t = smallStore := by
  have hplain : (refusing ["COMMIT"] fun _ => .ok movingScript).Plain movingScript := by
    show ∀ statement ∈ Text.split ';' movingScript, controlOfText statement = none
    decide +kernel
  obtain ⟨status, t, hrun, hclosed, heffect⟩ := runFile_atomic
    (refusing ["COMMIT"] fun _ => .ok movingScript) ⟨"moving.sql"⟩ (s := smallStore) rfl
    fun sql h => Except.ok.inj h ▸ hplain
  have hone : ((runFile ⟨"moving.sql"⟩).run
      (refusing ["COMMIT"] fun _ => .ok movingScript).answer smallStore).1.toOption
        = some 1 := by decide +kernel
  rw [hrun] at hone
  obtain rfl : status = 1 := Option.some.inj hone
  obtain ⟨hstatus, -, hsame⟩ := heffect.resolve_left fun h => absurd h.1 Int.one_ne_zero
  refine ⟨hplain, 1, t, hrun, hstatus, ?_⟩
  obtain ⟨tables, saved⟩ := t
  cases hclosed
  cases hsame
  rfl

end

end SchemaMigration.Embedded
