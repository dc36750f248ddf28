import SchemaMigration.Proofs.Plan.Claims
import SchemaMigration.Proofs.Update.Surroundings

/-! # Requests — what carrying out a plan asks for

    However the surroundings answer, a run that carries out a plan touches the
    ledger only in ways that the plan names, and runs only its pending scripts
    (`apply_asks`).  A statement that has to survive failures and early stops
    needs no more than this list. -/

namespace SchemaMigration.Update

open Ledger Program

/-! ## Single requests -/

/-- Recording a script that took a time; a failure is reported before it ends the run. -/
def recording (x : Script) (speed : Nat) : Program interface (Except UpdateError Unit) :=
  .ask (.ledger (.change (.record x.path x.hash speed))) fun reply =>
    match reply with
    | .ok () => .done (.ok ())
    | .error e =>
        .ask (.log (.error .update (s!"Update \"{x.path}\" was applied but could not be recorded; "
          ++ "it will be applied again on the next run"))) fun _ => .done (.error e)

/-- What applying a script does once the script has ended. -/
def ended (x : Script) (started : Nat) :
    Except DatabaseError Int → Program interface (Except UpdateError Unit)
  | .error cause => .done (.error (.scriptFailed x.path cause.message))
  | .ok status =>
      if status ≠ 0 then
        .done (.error (.scriptFailed x.path s!"SQL client exited with status {status}"))
      else .ask .stopwatch fun stopped => recording x (stopped - started)

/-- After status zero the watch is read and the script recorded. -/
theorem ended_zero (x : Script) (started : Nat) :
    ended x started (.ok 0) = .ask .stopwatch fun stopped => recording x (stopped - started) := rfl

/-- After any other status the script has failed, and the watch is not read. -/
theorem ended_of_ne_zero (x : Script) (started : Nat) {status : Int} (h : status ≠ 0) :
    ended x started (.ok status)
      = .done (.error (.scriptFailed x.path s!"SQL client exited with status {status}")) := if_pos h

/-- Applying a script runs it once, and records it only after a status of zero. -/
theorem applyScript_run (x : Script) :
    (applyScript x).run =
      .ask (.log (.info .update s!"Applying update \"{x.path}\" '{Text.shortened x.hash}'..."))
        fun _ => .ask .stopwatch fun started => .ask (.runScript x.location) (ended x started) := by
  refine congrArg (Program.ask _) (funext fun _ => ?_)
  refine congrArg (Program.ask _) (funext fun started => ?_)
  refine congrArg (Program.ask _) (funext fun outcome => ?_)
  cases outcome with
  | error cause => rfl
  | ok status =>
      by_cases hs : status = 0
      · subst hs
        refine congrArg (Program.ask _) (funext fun stopped => ?_)
        refine congrArg (Program.ask _) (funext fun reply => ?_)
        cases reply with
        | ok done => rfl
        | error e => rfl
      · rw [ended_of_ne_zero x started hs]
        show ExceptT.run (if status ≠ 0 then _ else _) = _
        rw [if_pos hs]
        rfl

/-- Settling an entry reports it, and then makes its change. -/
theorem settle_eq (e : PlannedFile) :
    settle e = (do
      (announcement e).elim (pure ()) log
      (ledgerChange e).elim (pure ()) change) := by
  rw [settle]
  cases announcement e with
  | none => cases ledgerChange e <;> rfl
  | some line => cases ledgerChange e <;> rfl

/-! ## What a plan allows -/

section

variable {e : PlannedFile}

theorem ledgerChange_of_renamed {old : String} (h : e.verdict = .renamed old) :
    ledgerChange e = some (.rename old e.script.path) := by rw [ledgerChange, h]

theorem ledgerChange_of_rehash (h : e.verdict = .rehash) :
    ledgerChange e = some (.rehash e.script.path e.script.hash) := by rw [ledgerChange, h]

theorem ledgerChange_of_archivedRedundant {record : String}
    (h : e.verdict = .archivedRedundant record) : ledgerChange e = some (.archive record) := by
  rw [ledgerChange, h]

/-- An entry changes the ledger alone by renaming, rehashing or archiving a record. -/
theorem ledgerChange_cases {c : Change} (h : ledgerChange e = some c) :
    (∃ old, e.verdict = .renamed old ∧ c = .rename old e.script.path)
      ∨ (e.verdict = .rehash ∧ c = .rehash e.script.path e.script.hash)
      ∨ ∃ record, e.verdict = .archivedRedundant record ∧ c = .archive record := by
  rw [ledgerChange] at h
  cases hv : e.verdict with
  | renamed old => rw [hv] at h; exact Or.inl ⟨old, rfl, (Option.some.inj h).symm⟩
  | rehash => rw [hv] at h; exact Or.inr (Or.inl ⟨rfl, (Option.some.inj h).symm⟩)
  | archivedRedundant record =>
      rw [hv] at h
      exact Or.inr (Or.inr ⟨record, rfl, (Option.some.inj h).symm⟩)
  | _ => rw [hv] at h; exact nomatch h

/-- A quiet entry changes nothing in the ledger. -/
theorem ledgerChange_of_isQuiet (h : e.verdict.isQuiet = true) : ledgerChange e = none := by
  by_contra hne
  obtain ⟨c, hc⟩ := Option.ne_none_iff_exists'.mp hne
  rcases ledgerChange_cases hc with ⟨old, hv, -⟩ | ⟨hv, -⟩ | ⟨record, hv, -⟩
  · rw [hv] at h; exact nomatch h
  · rw [hv] at h; exact nomatch h
  · rw [hv] at h; exact nomatch h

/-- A ledger change of an entry is about the paths that the entry touches. -/
theorem paths_of_ledgerChange {c : Change} (h : ledgerChange e = some c) :
    c.paths = Plan.touched e := by
  rcases ledgerChange_cases h with ⟨old, hv, rfl⟩ | ⟨hv, rfl⟩ | ⟨record, hv, rfl⟩
  · exact (Plan.touched_of_renamed hv).symm
  · exact (Plan.touched_of_rehash hv).symm
  · exact (Plan.touched_of_archivedRedundant hv).symm

end

/-- The ledger changes of entries leave the records of all other paths alone. -/
theorem untouched_of_made {es : List PlannedFile} {v v' : View}
    (h : Made (es.filterMap ledgerChange) v v') {path : String}
    (hp : path ∉ es.flatMap Plan.touched) : v' path = v path := by
  refine h.untouched fun c hc hpath => hp ?_
  obtain ⟨e, he, hchange⟩ := List.mem_filterMap.mp hc
  rw [paths_of_ledgerChange hchange] at hpath
  exact List.mem_flatMap.mpr ⟨e, he, hpath⟩

/-- The requests by which a plan looks after the ledger, apart from its pending scripts. -/
inductive Tends (p : Plan) : Request → Prop where
  | log (line : Log.Line) : Tends p (.log line)
  | settle {e : PlannedFile} {c : Change} (he : e ∈ p.entries) (hc : ledgerChange e = some c) :
      Tends p (.ledger (.change c))
  | clear {path : String} (hp : path ∈ p.recovered) :
      Tends p (.ledger (.change (.clearMissing path)))
  | count {d : DeadReference} (hd : d ∈ p.dead) : Tends p (.ledger (.countMissing d.path))
  | remove {d : DeadReference} (hd : d ∈ p.dead) : Tends p (.ledger (.change (.remove d.path)))

/-- The requests that carrying out a plan may make. -/
inductive Allowed (p : Plan) : Request → Prop where
  | tend {q : Request} (h : Tends p q) : Allowed p q
  | stopwatch : Allowed p .stopwatch
  | run {e : PlannedFile} (he : e ∈ p.pending) : Allowed p (.runScript e.script.location)
  | record {e : PlannedFile} (he : e ∈ p.pending) (speed : Nat) :
      Allowed p (.ledger (.change (.record e.script.path e.script.hash speed)))

variable {p : Plan}

/-- Settling an entry reports it and asks for the change that the entry calls for. -/
theorem settle_asks {e : PlannedFile} (he : e ∈ p.entries) : (settle e).run.Asks (Tends p) := by
  rw [settle_eq]
  refine Asks.attempt ?_ fun _ => ?_
  · cases announcement e with
    | none => trivial
    | some line => exact ⟨.log line, fun _ => trivial⟩
  · cases hc : ledgerChange e with
    | none => trivial
    | some c => exact ⟨.settle he hc, fun _ => trivial⟩

/-- Settling asks for changes of the plan's entries only. -/
theorem settleAll_asks :
    ∀ es : List PlannedFile, (∀ e ∈ es, e ∈ p.entries) → (settleAll es).run.Asks (Tends p) := by
  intro es
  induction es with
  | nil => intro _; trivial
  | cons e rest ih =>
      intro hes
      refine (settle_asks (hes e List.mem_cons_self)).attempt fun _ => ?_
      exact ih fun e' he' => hes e' (List.mem_cons_of_mem _ he')

/-- Applying a pending script runs it and records it, and asks for no other change. -/
theorem applyScript_asks {e : PlannedFile} (he : e ∈ p.pending) :
    (applyScript e.script).run.Asks (Allowed p) := by
  rw [applyScript_run]
  refine ⟨.tend (.log _), fun _ => ⟨.stopwatch, fun started => ⟨.run he, fun outcome => ?_⟩⟩⟩
  cases outcome with
  | error cause => trivial
  | ok status =>
      by_cases hs : status = 0
      · subst hs
        refine ⟨.stopwatch, fun stopped => ⟨.record he _, fun reply => ?_⟩⟩
        cases reply with
        | ok _ => trivial
        | error e => exact ⟨.tend (.log _), fun _ => trivial⟩
      · rw [ended_of_ne_zero _ _ hs]
        trivial

/-- Applying asks for runs and recordings of pending scripts only. -/
theorem applyAll_asks :
    ∀ es : List PlannedFile, (∀ e ∈ es, e ∈ p.pending) → (applyAll es).run.Asks (Allowed p) := by
  intro es
  induction es with
  | nil => intro _; trivial
  | cons e rest ih =>
      intro hes
      refine (applyScript_asks (hes e List.mem_cons_self)).attempt fun _ => ?_
      exact ih fun e' he' => hes e' (List.mem_cons_of_mem _ he')

/-- Clearing asks only for counters of recovered records. -/
theorem clearAll_asks :
    ∀ paths : List String, (∀ q ∈ paths, q ∈ p.recovered) →
      (clearAll paths).run.Asks (Tends p) := by
  intro paths
  induction paths with
  | nil => intro _; trivial
  | cons q rest ih =>
      intro hq
      refine Asks.attempt (p := change (.clearMissing q)) ?_ fun _ => ?_
      · exact ⟨.clear (hq q List.mem_cons_self), fun _ => trivial⟩
      · exact ih fun q' hq' => hq q' (List.mem_cons_of_mem _ hq')

/-- Burying counts and perhaps removes a dead reference of the plan. -/
theorem bury_asks (limit : Nat) {d : DeadReference} (hd : d ∈ p.dead) :
    (bury limit d.path).run.Asks (Tends p) := by
  refine Asks.attempt (p := countMissing d.path) ⟨.count hd, fun _ => trivial⟩ fun missing => ?_
  by_cases hm : missing > limit
  · rw [if_pos hm]
    exact ⟨.log _, fun _ => ⟨.remove hd, fun reply => by cases reply <;> trivial⟩⟩
  · rw [if_neg hm]
    exact ⟨.log _, fun _ => trivial⟩

/-- Burying asks for dead references of the plan only. -/
theorem buryAll_asks (limit : Nat) :
    ∀ ds : List DeadReference, (∀ d ∈ ds, d ∈ p.dead) →
      (buryAll limit ds).run.Asks (Tends p) := by
  intro ds
  induction ds with
  | nil => intro _; trivial
  | cons d rest ih =>
      intro hds
      refine (bury_asks limit (hds d List.mem_cons_self)).attempt fun one => ?_
      refine (ih fun d' hd' => hds d' (List.mem_cons_of_mem _ hd')).attempt fun others => ?_
      trivial

/-- Cleaning up asks for recovered records and dead references of the plan, with a limit or
without. -/
theorem cleanUp_asks (p : Plan) (options : Options) :
    (cleanUp p options).run.Asks (Tends p) := by
  rw [cleanUp]
  cases options.limit? with
  | none => trivial
  | some limit =>
      refine (clearAll_asks p.recovered fun _ h => h).attempt fun _ => ?_
      exact buryAll_asks limit p.dead fun _ h => h

/-- Carrying out a plan asks only what the plan allows, whatever is answered. -/
theorem apply_asks (p : Plan) (options : Options) : (apply p options).run.Asks (Allowed p) := by
  refine ((settleAll_asks p.entries fun _ h => h).mono fun _ => .tend).attempt fun _ => ?_
  refine (applyAll_asks p.pending fun _ h => h).attempt fun _ => ?_
  refine ((cleanUp_asks p options).mono fun _ => .tend).attempt fun cleaned => ?_
  trivial

/-! ## Whole runs -/

/-- What a run reports before it carries out its plan. -/
def surveyed (live archived : List Script) (known : List Record) : Log.Line :=
  .debug .update (s!"Scanned {live.length} update(s) and {archived.length} archived update(s) "
    ++ s!"against {known.length} ledger record(s)")

/-- Planning scans, lists the records and reports both, and what follows has the plan. -/
theorem plan_bind {α : Type} (source : ScriptSource) (options : Options) (next : Plan → Run α) :
    (plan source options >>= next).run = .ask (.scan source) fun
      | .error e => .done (.error e)
      | .ok (live, archived) => .ask (.ledger .list) fun
        | .error e => .done (.error e)
        | .ok known => .ask (.log (surveyed live archived known)) fun _ =>
          (next (Plan.build ⟨live, archived, known, options⟩)).run := by
  refine congrArg (Program.ask _) (funext fun found => ?_)
  cases found with
  | error e => rfl
  | ok found =>
      refine congrArg (Program.ask _) (funext fun known => ?_)
      cases known with
      | error e => rfl
      | ok known => rfl

/-- Planning alone ends with the plan. -/
theorem plan_run (source : ScriptSource) (options : Options) :
    (plan source options).run = .ask (.scan source) fun
      | .error e => .done (.error e)
      | .ok (live, archived) => .ask (.ledger .list) fun
        | .error e => .done (.error e)
        | .ok known => .ask (.log (surveyed live archived known)) fun _ =>
          .done (.ok (Plan.build ⟨live, archived, known, options⟩)) :=
  (attempt_pure _).symm.trans (plan_bind source options pure)

/-- Planning asks for no change. -/
theorem plan_asks (source : ScriptSource) (options : Options) :
    (plan source options).run.Asks fun q : Request => q.change? = none := by
  rw [plan_run]
  refine ⟨rfl, fun found => ?_⟩
  cases found with
  | error e => trivial
  | ok found =>
      refine ⟨rfl, fun known => ?_⟩
      cases known with
      | error e => trivial
      | ok known => exact ⟨rfl, fun _ => trivial⟩

/-- A run scans, lists the records, reports both, and carries out the plan. -/
theorem update_run (source : ScriptSource) (options : Options) :
    (update source options).run = .ask (.scan source) fun
      | .error e => .done (.error e)
      | .ok (live, archived) => .ask (.ledger .list) fun
        | .error e => .done (.error e)
        | .ok known => .ask (.log (surveyed live archived known)) fun _ =>
          (apply (Plan.build ⟨live, archived, known, options⟩) options).run :=
  plan_bind source options fun p => apply p options

variable {σ : Type} {w : Surroundings σ}

/-- Every request of a run reads, reports, or is allowed by the plan for what the
    run has found. -/
theorem mem_trail_update {source : ScriptSource} {options : Options} {s : σ}
    {m : Exchange interface × σ} (hm : m ∈ (update source options).run.trail w.answer s) :
    m.1.1 = .scan source ∨ m.1.1 = .ledger .list ∨ (∃ line, m.1.1 = .log line)
      ∨ ∃ live archived, (w.answer (.scan source) s).1 = .ok (live, archived)
        ∧ Allowed (w.planFor live archived options s) m.1.1 := by
  rw [update_run] at hm
  rcases List.mem_cons.mp hm with rfl | hm
  · exact Or.inl rfl
  set s₁ := (w.answer (.scan source) s).2 with hs₁
  have hrecords : w.records s₁ = w.records s := w.quiet _ s rfl
  cases hscan : (w.answer (.scan source) s).1 with
  | error e => rw [hscan] at hm; exact nomatch hm
  | ok found =>
      obtain ⟨live, archived⟩ := found
      rw [hscan] at hm
      rcases List.mem_cons.mp hm with rfl | hm
      · exact Or.inr (Or.inl rfl)
      cases hlist : (w.answer (.ledger .list) s₁).1 with
      | error e => rw [hlist] at hm; exact nomatch hm
      | ok known =>
          rw [hlist] at hm
          -- The records are listed as they were before the scan.
          have hknown : known = w.listing s := by
            rw [w.listed s₁ known hlist, hrecords]
            rfl
          rcases List.mem_cons.mp hm with rfl | hm
          · exact Or.inr (Or.inr (Or.inl ⟨_, rfl⟩))
          · subst hknown
            exact Or.inr (Or.inr (Or.inr
              ⟨live, archived, rfl, (apply_asks _ options).trail _ m hm⟩))

/-- A plan without pending scripts runs none, wherever the run stops. -/
theorem runs_nothing_of_pending_eq_nil {source : ScriptSource} {options : Options} {s : σ}
    {live archived : List Script}
    (hscan : (w.answer (.scan source) s).1 = .ok (live, archived))
    (hp : (w.planFor live archived options s).pending = []) :
    ∀ m ∈ (update source options).run.trail w.answer s, ∀ location,
      m.1.1 ≠ .runScript location := by
  intro m hm location heq
  rcases mem_trail_update hm with h | h | ⟨line, h⟩ | ⟨live', archived', hscan', h⟩
  · exact nomatch heq.symm.trans h
  · exact nomatch heq.symm.trans h
  · exact nomatch heq.symm.trans h
  · obtain ⟨rfl, rfl⟩ := Prod.mk.inj (Except.ok.inj (hscan.symm.trans hscan'))
    rw [heq] at h
    cases h with
    | tend h => exact nomatch h
    | run he => rw [hp] at he; exact nomatch he

end SchemaMigration.Update
