import SchemaMigration.Proofs.Rehearsal.Registers
import SchemaMigration.Proofs.Rehearsal.StrictSite

/-! # Refinement — the SQL ledger is a register

    Every operation of a ledger travels through the text of a statement, the store's
    reading of it, the store's rows and the reading of rows as records.  On a site whose
    database is the rehearsal store, whatever else the site does, this comes to the same
    as entering the operation in a register, as long as no counter outgrows its column:

    * `StoreSite` is such a site;
    * `StoreSite.Performs`: an operation runs as a register says;
    * `StoreSite.performs`: every operation does, where the rows are those of the register;
    * `StoreSite.ledger_refines_register`: so do any number of operations on an empty table. -/

namespace SchemaMigration.Rehearsal

open Ledger Program

variable {held : Register}

/-! ## Sites on a store -/

/-- A site whose database is the store.  The kinds of its errors and everything that is not a
    statement are its own; what is asked of the machine does not alter the store. -/
structure StoreSite (σ : Type) where
  answer : (q : Site.Request) → σ → q.Reply × σ
  store : σ → Store
  execute : ∀ sql s, ∃ error : String → DatabaseError,
    (answer (.database (.execute sql)) s).1 = (((store s).run sql).1.mapError error).map fun _ => ()
  executed : ∀ sql s, store (answer (.database (.execute sql)) s).2 = ((store s).run sql).2
  query : ∀ sql s, ∃ error : String → DatabaseError,
    (answer (.database (.query sql)) s).1 = ((store s).run sql).1.mapError error
  queried : ∀ sql s, store (answer (.database (.query sql)) s).2 = ((store s).run sql).2
  machine : ∀ q s, store (answer (.machine q) s).2 = store s

/-- What an operation answers, by the register that it is about. -/
def Answers (held : Register) : (op : Operation) → Except UpdateError op.Value → Prop
  | .list, reply => ∃ found, reply = .ok found ∧ Lists found held
  | .change c, reply =>
      if Clashes held c then ∃ cause, reply = .error (.ledger c.describe cause) else reply = .ok ()
  | .countMissing path, reply => reply = .ok (((Change.markMissing path).enter held).counter path)

namespace StoreSite

variable {σ : Type} (w : StoreSite σ) (dialect : Dialect)

/-- The rows of the ledger table. -/
def rows (s : σ) : List StoredRecord := (w.store s).tables.ledger.getD []

/-- The ledger table is there, and its rows are those of a register. -/
def Holds (s : σ) (held : Register) : Prop :=
  (w.store s).tables.ledger = some (w.rows s) ∧ Stores (w.rows s) held

/-- The state after an operation. -/
def next (op : Operation) (s : σ) : σ := ((Ledger.perform dialect op).run w.answer s).2

/-- The state after operations, one after another. -/
def stateAfter (ops : List Operation) (s : σ) : σ := ops.foldl (fun s op => w.next dialect op s) s

/-- An operation runs as a register says: its answer is right, only the rows of its own paths
    change, and nothing does if it has nothing to change or is refused. -/
structure Performs (op : Operation) (held : Register) (s : σ) : Prop where
  answers : Answers held op ((Ledger.perform dialect op).run w.answer s).1
  others : ∀ path, path ∉ op.paths →
    rowAt (w.rows (w.next dialect op s)) path = rowAt (w.rows s) path
  idle : (∀ c, op.made? = some c → Misses held c ∨ Clashes held c) →
    w.store (w.next dialect op s) = w.store s

variable {w dialect} {s : σ} {sql : String} {found : List Row} {reason : String} {d : Store}

theorem rows_of_store_eq {t : σ} (h : w.store t = w.store s) : w.rows t = w.rows s :=
  congrArg (fun d : Store => d.tables.ledger.getD []) h

theorem Holds.of_store_eq {t : σ} (hs : w.Holds s held) (h : w.store t = w.store s) :
    w.Holds t held := by
  rw [Holds, rows_of_store_eq h, h]
  exact hs

theorem execute_of_ok (h : (w.store s).run sql = (.ok found, d)) :
    (w.answer (.database (.execute sql)) s).1 = .ok ()
      ∧ w.store (w.answer (.database (.execute sql)) s).2 = d := by
  obtain ⟨error, hreply⟩ := w.execute sql s
  rw [h] at hreply
  rw [w.executed, h]
  exact ⟨hreply, rfl⟩

theorem execute_of_error (h : (w.store s).run sql = (.error reason, d)) :
    (∃ cause, (w.answer (.database (.execute sql)) s).1 = .error cause)
      ∧ w.store (w.answer (.database (.execute sql)) s).2 = d := by
  obtain ⟨error, hreply⟩ := w.execute sql s
  rw [h] at hreply
  rw [w.executed, h]
  exact ⟨⟨_, hreply⟩, rfl⟩

theorem query_of_ok (h : (w.store s).run sql = (.ok found, d)) :
    (w.answer (.database (.query sql)) s).1 = .ok found
      ∧ w.store (w.answer (.database (.query sql)) s).2 = d := by
  obtain ⟨error, hreply⟩ := w.query sql s
  rw [h] at hreply
  rw [w.queried, h]
  exact ⟨hreply, rfl⟩

/-! ## Operations -/

/-- A query that alters no row answers what it selects. -/
theorem query_of_reads (h : w.Holds s held) {statement : LedgerStatement}
    (hmeans : Means sql (.ledger statement))
    (hrun : statement.run (w.rows s) = .ok (w.rows s, found)) :
    (w.answer (.database (.query sql)) s).1 = .ok found
      ∧ w.store (w.answer (.database (.query sql)) s).2 = w.store s := by
  refine query_of_ok ?_
  rw [hmeans.run, Store.perform_ledger_of_ok h.1 hrun, Store.holding_self h.1]

/-- Listing answers the register and alters nothing. -/
theorem run_list (h : w.Holds s held) :
    ∃ found t, (Ledger.list).run w.answer s = (.ok found, t) ∧ w.store t = w.store s
      ∧ Lists found held := by
  obtain ⟨hreply, hstore⟩ := query_of_reads h means_list rfl
  rw [list_eq, run_ask, hreply]
  set u := (w.answer (.database (.query listStatement)) s).2
  refine ⟨(w.rows s).map StoredRecord.record,
    ((ofRows ((w.rows s).map StoredRecord.columns)).run w.answer u).2, ?_, ?_, h.2.lists⟩
  · rw [run_bind, ofRows_answers, readRows_columns]
    rfl
  · exact (ofRows_unaltered w.machine _ u).trans hstore

/-- A change is refused if it clashes, and is made otherwise. -/
theorem run_change (dialect : Dialect) (h : w.Holds s held) (c : Change) :
    (Clashes held c ∧ ∃ cause t, (Ledger.change dialect c).run w.answer s
          = (.error (.ledger c.describe cause), t) ∧ w.store t = w.store s)
      ∨ ¬Clashes held c ∧ ∃ after t, (Ledger.change dialect c).run w.answer s = (.ok (), t)
        ∧ w.store t = (w.store s).holding after ∧ Enters c held (w.rows s) after := by
  rw [change_eq, run_bind, run_ask, run_ask]
  set time := ((timeOf c).run w.answer s).1
  set u := (w.answer (.machine (.log (.debug .ledger s!"ledger: {c.describe}")))
    ((timeOf c).run w.answer s).2).2
  -- The time and the report are taken from the machine, so the statement finds the store as it
  -- was.
  have hu : w.store u = w.store s := (w.machine _ _).trans (timeOf_unaltered w.machine c s)
  have hmeans := means_change dialect time c
  -- Whether the change clashes is decided by the rows, and the store says so.
  rcases run_enters h.2 time c with ⟨hclash, reason, hrun⟩ | ⟨hfree, after, hrun, henters⟩
  · have hrefused : (w.store u).run (c.statement dialect time) = (.error reason, w.store s) := by
      rw [hu, hmeans.run, Store.perform_ledger_of_error h.1 hrun]
    obtain ⟨⟨cause, hreply⟩, hstore⟩ := execute_of_error hrefused
    refine Or.inl ⟨hclash, cause, _, ?_, hstore⟩
    rw [hreply]
    rfl
  · have hmade : (w.store u).run (c.statement dialect time)
        = (.ok [], (w.store s).holding after) := by
      rw [hu, hmeans.run, Store.perform_ledger_of_ok h.1 hrun]
    obtain ⟨hreply, hstore⟩ := execute_of_ok hmade
    refine Or.inr ⟨hfree, after, _, ?_, hstore, henters⟩
    rw [hreply]
    rfl

/-- The rows after a change that was made. -/
theorem Holds.of_holding {t : σ} {after : List StoredRecord} (h : Stores after held)
    (ht : w.store t = (w.store s).holding after) :
    w.rows t = after ∧ w.Holds t held := by
  have hrows : w.rows t = after := by
    rw [rows, ht]
    rfl
  rw [Holds, hrows, ht]
  exact ⟨rfl, rfl, h⟩

/-- A missing run is counted, and the new counter is answered. -/
theorem run_countMissing (dialect : Dialect) (h : w.Holds s held) {path : String}
    (hsmall : Below (2 ^ 32) ((Change.markMissing path).enter held)) :
    ∃ after t, (Ledger.countMissing dialect path).run w.answer s
        = (.ok (((Change.markMissing path).enter held).counter path), t)
      ∧ w.store t = (w.store s).holding after
      ∧ Enters (.markMissing path) held (w.rows s) after := by
  obtain ⟨hclash, -⟩ | ⟨-, after, u, hrun, hu, henters⟩ :=
    run_change dialect h (.markMissing path)
  · exact hclash.elim
  · obtain ⟨hrows, hheld⟩ := Holds.of_holding (henters.stores hsmall) hu
    obtain ⟨hreply, hstore⟩ := query_of_reads hheld (means_count path) rfl
    refine ⟨after, _, ?_, hstore.trans hu, henters⟩
    rw [countMissing_eq, run_bind, hrun]
    show (readCount path).run w.answer u = _
    rw [readCount, run_ask, hreply, ← hheld.2.counterOfRows_selected]
    rfl

/-- An operation that makes a change answers what it should.  The change is entered in the
    rows, or it clashes and the store stays as it is. -/
theorem run_made (dialect : Dialect) (h : w.Holds s held) {op : Operation} {c : Change}
    (hmade : op.made? = some c) (hsmall : Below (2 ^ 32) (c.enter held)) :
    Answers held op ((Ledger.perform dialect op).run w.answer s).1
      ∧ (Clashes held c ∧ w.store (w.next dialect op s) = w.store s
        ∨ ¬Clashes held c ∧ ∃ after, w.store (w.next dialect op s) = (w.store s).holding after
          ∧ Enters c held (w.rows s) after) := by
  cases op with
  | list => exact nomatch hmade
  | change c =>
      obtain rfl := Option.some.inj hmade
      rcases run_change dialect h c with
        ⟨hclash, cause, t, hrun, ht⟩ | ⟨hfree, after, t, hrun, ht, henters⟩
      · change (Ledger.perform dialect (.change c)).run w.answer s = _ at hrun
        rw [next, hrun, Answers, if_pos hclash]
        exact ⟨⟨cause, rfl⟩, Or.inl ⟨hclash, ht⟩⟩
      · change (Ledger.perform dialect (.change c)).run w.answer s = _ at hrun
        rw [next, hrun, Answers, if_neg hfree]
        exact ⟨rfl, Or.inr ⟨hfree, after, ht, henters⟩⟩
  | countMissing path =>
      obtain rfl := Option.some.inj hmade
      obtain ⟨after, t, hrun, ht, henters⟩ := run_countMissing dialect h hsmall
      change (Ledger.perform dialect (.countMissing path)).run w.answer s = _ at hrun
      rw [next, hrun]
      exact ⟨rfl, Or.inr ⟨id, after, ht, henters⟩⟩

theorem Performs.of_unaltered {op : Operation}
    (hanswers : Answers held op ((Ledger.perform dialect op).run w.answer s).1)
    (h : w.store (w.next dialect op s) = w.store s) : w.Performs dialect op held s where
  answers := hanswers
  others := fun path _ => congrArg (rowAt · path) (rows_of_store_eq h)
  idle := fun _ => h

/-- An operation runs as a register says, and leaves the rows of the register in which it
    is entered. -/
theorem performs (h : w.Holds s held) (op : Operation) (hsmall : Below (2 ^ 32) (op.enter held)) :
    w.Performs dialect op held s ∧ w.Holds (w.next dialect op s) (op.enter held) := by
  cases hmade : op.made? with
  | none =>
      cases op with
      | list =>
          obtain ⟨found, t, hrun, ht, hlists⟩ := run_list h
          have hnext : w.store (w.next dialect .list s) = w.store s :=
            (congrArg (fun p => w.store p.2) hrun).trans ht
          exact ⟨.of_unaltered ⟨found, congrArg Prod.fst hrun, hlists⟩ hnext, h.of_store_eq hnext⟩
      | _ => exact nomatch hmade
  | some c =>
      have henter : op.enter held = c.enter held := by rw [Operation.enter, hmade, Option.elim_some]
      have hpaths : op.paths = c.paths := by rw [Operation.paths, hmade, Option.elim_some]
      rw [henter] at hsmall ⊢
      -- A change that clashes leaves store and register alone, any other enters both.
      obtain ⟨hanswers, ⟨hclash, hnext⟩ | ⟨hfree, after, hnext, henters⟩⟩ :=
        run_made dialect h hmade hsmall
      · refine ⟨.of_unaltered hanswers hnext, ?_⟩
        rw [Change.enter_of_clashes hclash]
        exact h.of_store_eq hnext
      · obtain ⟨hrows, hholds⟩ := Holds.of_holding (henters.stores hsmall) hnext
        refine ⟨⟨hanswers, ?_, ?_⟩, hholds⟩
        · intro path hpath
          rw [hrows]
          exact henters.others path (hpaths ▸ hpath)
        · intro hidle
          have hmisses : Misses held c := (hidle c hmade).resolve_right hfree
          rw [hnext, henters.misses hmisses, Store.holding_self h.1]

/-- Operations leave the rows of the register in which they are entered. -/
theorem holds_stateAfter {ops : List Operation} (h : w.Holds s held)
    (hsmall : ∀ before, before <+: ops → Below (2 ^ 32) (enterAll before held)) :
    w.Holds (w.stateAfter dialect ops s) (enterAll ops held) := by
  induction ops generalizing s held with
  | nil => exact h
  | cons op rest ih =>
      have hop : Below (2 ^ 32) (op.enter held) := hsmall [op] (List.prefix_append [op] rest)
      refine ih (performs h op hop).2 fun before hbefore => ?_
      exact hsmall (op :: before) (List.cons_prefix_cons.mpr ⟨rfl, hbefore⟩)

/-- From an empty table on, every operation runs as the register of the operations before it
    says, and listing answers that register, as long as no counter outgrows its column. -/
theorem ledger_refines_register (w : StoreSite σ) (dialect : Dialect) {s : σ}
    (hempty : (w.store s).tables.ledger = some []) {ops : List Operation}
    (hsmall : ∀ before, before <+: ops → Below (2 ^ 32) (enterAll before Register.empty)) :
    (∀ before, before <+: ops → ∃ found,
      ((Ledger.list).run w.answer (w.stateAfter dialect before s)).1 = .ok found
        ∧ Lists found (enterAll before Register.empty))
      ∧ ∀ before op, before ++ [op] <+: ops →
        w.Performs dialect op (enterAll before Register.empty) (w.stateAfter dialect before s) := by
  have hrows : w.rows s = [] := by rw [rows, hempty, Option.getD_some]
  have hstart : w.Holds s Register.empty := by
    rw [Holds, hrows]
    exact ⟨hempty, Stores.empty⟩
  -- The invariant of the run: after every beginning of it, the store holds the register.
  have hholds : ∀ before, before <+: ops →
      w.Holds (w.stateAfter dialect before s) (enterAll before Register.empty) :=
    fun before hbefore => holds_stateAfter hstart fun earlier hearlier =>
      hsmall earlier (hearlier.trans hbefore)
  constructor
  · intro before hbefore
    obtain ⟨found, t, hrun, -, hlists⟩ := run_list (hholds before hbefore)
    exact ⟨found, congrArg Prod.fst hrun, hlists⟩
  · intro before op hop
    have hbefore : before <+: ops := (List.prefix_append before [op]).trans hop
    have hfits := hsmall (before ++ [op]) hop
    rw [enterAll, List.foldl_append] at hfits
    exact (performs (hholds before hbefore) op hfits).1

/-! ## A ledger of quotes -/

/-- Answers what is asked of a file tree and a store without any bounds. -/
def answerLoose : (q : Site.Request) → StrictSite → q.Reply × StrictSite
  | .database (.execute sql), s =>
      (((s.store.run sql).1.mapError .execution).map fun _ => (),
        { s with store := (s.store.run sql).2 })
  | .database (.query sql), s =>
      ((s.store.run sql).1.mapError .execution, { s with store := (s.store.run sql).2 })
  | q, s => StrictSite.answer q s

/-- A file tree and a store as a site on that store. -/
def loose : StoreSite StrictSite where
  answer := answerLoose
  store := StrictSite.store
  execute := fun _ _ => ⟨.execution, rfl⟩
  executed := fun _ _ => rfl
  query := fun _ _ => ⟨.execution, rfl⟩
  queried := fun _ _ => rfl
  machine := fun _ _ => rfl

/-- An empty ledger table and no files. -/
def blank : StrictSite := ⟨⟨.empty, []⟩, ⟨⟨some [], []⟩, none⟩⟩

/-- Operations with quotes and statements in their paths and hashes. -/
def quotedOperations : List Operation :=
  [.change (.record "it's.sql" "'); DROP TABLE applied_updates; --" 7),
    .change (.record "b' OR ''='" "h'" 0),
    .countMissing "it's.sql",
    .change (.rename "b' OR ''='" "it's.sql"),
    .change (.archive "' OR 1 = 1"),
    .change (.rename "it's.sql" "a.sql', missing_runs = 5 --"),
    .countMissing "b' OR ''='"]

/-- All of them keep to their own records; the first renaming is refused. -/
theorem ledger_refines_register_quoted :
    (∃ found, ((Ledger.list).run loose.answer
          (loose.stateAfter .replaceInto quotedOperations blank)).1 = .ok found
        ∧ Lists found (enterAll quotedOperations Register.empty))
      ∧ (∃ cause, ((Ledger.change .replaceInto (.rename "b' OR ''='" "it's.sql")).run loose.answer
          (loose.stateAfter .replaceInto (quotedOperations.take 3) blank)).1 = .error cause)
      ∧ enterAll quotedOperations Register.empty "it's.sql" = none
      ∧ enterAll quotedOperations Register.empty "a.sql', missing_runs = 5 --"
        = some ⟨"'); DROP TABLE applied_updates; --", .active, 0⟩
      ∧ enterAll quotedOperations Register.empty "b' OR ''='" = some ⟨"h'", .active, 1⟩ := by
  have hsmall : ∀ before, before <+: quotedOperations →
      Below (2 ^ 32) (enterAll before Register.empty) := by
    intro before hbefore
    have hlength : before.length ≤ 7 := hbefore.length_le
    exact (enterAll_below before below_empty).mono (by omega)
  have hrun := ledger_refines_register loose .replaceInto (s := blank) rfl hsmall
  have hrefused := (hrun.2 (quotedOperations.take 3)
    (.change (.rename "b' OR ''='" "it's.sql")) ⟨quotedOperations.drop 4, rfl⟩).answers
  rw [Answers, if_pos (by decide)] at hrefused
  obtain ⟨cause, hcause⟩ := hrefused
  exact ⟨hrun.1 quotedOperations List.prefix_rfl, ⟨_, hcause⟩, by decide, by decide, by decide⟩

end StoreSite

end SchemaMigration.Rehearsal
