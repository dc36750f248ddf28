import SchemaMigration.Proofs.Rehearsal.StrictSite
import SchemaMigration.Proofs.Scripts.Scan

/-! # Dry runs — what planning tells of the run that follows

    Planning and updating reach the ledger in different ways: one looks for its table
    and takes a missing one for an empty ledger, the other makes the table first and
    then reads it.  They come to the same plan all the same:

    * `plan_looks`: planning asks only to look, however it is answered;
    * `plan_answers`: the plan is that of the scripts and the records that are there;
    * `plan_predicts_update`: an update that follows runs the scripts of the plan in
      order, reports the numbers of its forecast, and fails if planning does. -/

namespace SchemaMigration.Preparation

open Ledger Program Update

/-! ## Planning only looks -/

/-- The requests that look at files and at the ledger, or report. -/
inductive Looks : Site.Request → Prop where
  | isDirectory (path : Path) : Looks (.machine (.isDirectory path))
  | scan (source : ScriptSource) : Looks (.machine (.scan source))
  | log (line : Log.Line) : Looks (.machine (.log line))
  | consult {q : Database.Request} (h : Consults q) : Looks (.database q)

/-- The directories of the scripts. -/
def directories (p : Preparation) : ScriptSource :=
  ⟨p.policy.updatesDirectory p.settings.source, p.policy.archivedDirectory p.settings.source⟩

variable (p : Preparation)

/-- Finding the scripts asks one question about the directory. -/
theorem source_eq : p.source = .ask (.machine (.isDirectory p.settings.source)) fun there =>
    .done (if there then .ok p.directories else .error (.directoryNotFound p.settings.source)) := by
  refine congrArg (Program.ask _) (funext fun there => ?_)
  cases there <;> rfl

/-- Looking for the ledger table lists the tables once. -/
theorem tableExists_eq : tableExists = .ask (.database .tables) fun
    | .ok names => .done (.ok (names.any fun name => Text.equalIgnoringCase name tableName))
    | .error cause => .done (.error (.ledger "list tables" cause)) := by
  refine congrArg (Program.ask _) (funext fun reply => ?_)
  cases reply with
  | ok names => rfl
  | error cause => rfl

theorem ensureTable_eq : ensureTable = .ask (.database (.execute createStatement)) fun reply =>
    .done (failed "create ledger table" reply) := rfl

/-- Without a ledger table the plan is made from the files alone. -/
theorem planUnrecorded_eq (source : ScriptSource) :
    p.planUnrecorded source = .ask (.machine (.scan source)) fun
      | .error e => .done (.error e)
      | .ok (live, archived) => .done (.ok (Plan.build ⟨live, archived, [], p.settings.options⟩)) := by
  refine congrArg (Program.ask _) (funext fun found => ?_)
  cases found with
  | error e => rfl
  | ok found => rfl

/-- The steps of a dry run: the directory, the table, and a plan with or without records. -/
theorem plan_eq : p.plan = p.source.bind fun
    | .error e => .done (.error e)
    | .ok source => tableExists.bind fun
      | .error e => .done (.error e)
      | .ok true => carryOut p.target (Update.plan source p.settings.options)
      | .ok false => p.planUnrecorded source := rfl

/-- The steps of an update: the directory, the table, which is made if it is missing, and the
run. -/
theorem runUpdate_eq : p.runUpdate = p.source.bind fun
    | .error e => .done (.error e)
    | .ok source => ensureTable.bind fun
      | .error e => .done (.error e)
      | .ok () => carryOut p.target (Update.update source p.settings.options) := rfl

/-- The requests of an update run that read files and records, or report. -/
inductive Surveys : Update.Request → Prop where
  | scan (source : ScriptSource) : Surveys (.scan source)
  | list : Surveys (.ledger .list)
  | log (line : Log.Line) : Surveys (.log line)

/-- Making a plan only surveys: it scans, lists the records and reports. -/
theorem updatePlan_surveys (source : ScriptSource) (options : Options) :
    (Update.plan source options).run.Asks Surveys := by
  rw [plan_run]
  refine ⟨.scan source, fun found => ?_⟩
  cases found with
  | error e => trivial
  | ok found =>
      refine ⟨.list, fun known => ?_⟩
      cases known with
      | error e => trivial
      | ok known => exact ⟨.log _, fun _ => trivial⟩

/-- Listing the records looks at the table, and reports what rows cannot tell. -/
theorem list_looks : (Ledger.list).Asks Looks := by
  rw [list_eq]
  refine ⟨.consult .list, fun reply => ?_⟩
  cases reply with
  | ok rows =>
      refine Asks.bind ((ofRows_asks rows).mono ?_) fun _ => trivial
      rintro q ⟨line, rfl⟩
      exact .log line
  | error cause => trivial

/-- Carrying out a survey only looks at the database. -/
theorem answerRun_looks (target : Target) {q : Update.Request} (h : Surveys q) :
    (answerRun target q).Asks Looks := by
  cases h with
  | scan source => exact ⟨.scan source, fun _ => trivial⟩
  | log line => exact ⟨.log line, fun _ => trivial⟩
  | list => exact list_looks

theorem source_looks : p.source.Asks Looks := by
  rw [source_eq]
  exact ⟨.isDirectory _, fun _ => trivial⟩

/-- Planning asks only to look, however it is answered. -/
theorem plan_looks : p.plan.Asks Looks := by
  have htable : tableExists.Asks Looks := by
    rw [tableExists_eq]
    refine ⟨.consult .tables, fun reply => ?_⟩
    cases reply <;> trivial
  rw [plan_eq]
  refine p.source_looks.bind fun found => ?_
  cases found with
  | error e => trivial
  | ok source =>
      refine htable.bind fun there => ?_
      cases there with
      | error e => trivial
      | ok there =>
          cases there with
          | true => exact (updatePlan_surveys source _).via fun _ => answerRun_looks p.target
          | false =>
              show (p.planUnrecorded source).Asks Looks
              rw [planUnrecorded_eq]
              refine ⟨.scan source, fun found => ?_⟩
              cases found with
              | error e => trivial
              | ok found => trivial

/-! ## The plan of a dry run -/

variable {p} {σ δ : Type} {w : HealthySite p.target.dialect σ δ} {s t u : σ}

/-- What planning and updating start from: a proper file tree, and a database whose ledger
    table is well formed, with counters that can grow, or not there under any case. -/
structure Ready (w : HealthySite p.target.dialect σ δ) (s : σ) : Prop where
  proper : (w.files s).root.Proper
  wellFormed : tableName ∈ w.tables (w.database s) →
    ∃ records, w.held s = some records ∧ ∀ r ∈ records, r.missingRuns < 2 ^ 32 - 1
  alone : ∀ name ∈ w.tables (w.database s),
    Text.equalIgnoringCase name tableName = true → name = tableName

/-- The records that the ledger holds; without a table there are none. -/
def known (w : HealthySite p.target.dialect σ δ) (s : σ) : List Record := (w.held s).getD []

/-- The plan for the scripts and the records that are there, if there are directories. -/
def expected (w : HealthySite p.target.dialect σ δ) (s : σ) : Except UpdateError Plan :=
  if (w.files s).isDirectory p.settings.source then
    (p.directories.scan (w.files s)).map fun found =>
      Plan.build ⟨found.1, found.2, (known w s).map Record.asRead, p.settings.options⟩
  else .error (.directoryNotFound p.settings.source)

/-- Looking does not change the database. -/
theorem database_of_looks {q : Site.Request} (h : Looks q) (s : σ) :
    w.database (w.answer q s).2 = w.database s := by
  cases h with
  | isDirectory path => exact w.machine _ s
  | scan source => exact w.machine _ s
  | log line => exact w.machine _ s
  | consult h => exact w.consult _ s h

/-- Looking does not change the files. -/
theorem files_of_looks {q : Site.Request} (h : Looks q) (s : σ) :
    w.files (w.answer q s).2 = w.files s := by
  cases h with
  | isDirectory path => exact w.looking _ s nofun nofun
  | scan source => exact w.looking _ s nofun nofun
  | log line => exact w.looking _ s nofun nofun
  | consult h => exact w.statement _ s

/-- The table is found if it is there. -/
theorem any_tables_eq (hs : Ready w s) :
    ((w.tables (w.database s)).any fun name => Text.equalIgnoringCase name tableName)
      = decide (tableName ∈ w.tables (w.database s)) := by
  rw [Bool.eq_iff_iff, List.any_eq_true, decide_eq_true_iff]
  constructor
  · rintro ⟨name, hname, hequal⟩
    exact hs.alone name hname hequal ▸ hname
  · intro hmem
    exact ⟨tableName, hmem, by rw [Text.equalIgnoringCase]; exact beq_self_eq_true _⟩

/-- Where listing does not fail, planning answers the plan for the files that it finds. -/
theorem perform_plan {τ : Type} {v : Surroundings τ} (hlist : ∀ t error,
      (v.answer (.ledger .list) t).1 ≠ .error error) (source : ScriptSource) (options : Options)
    (t : τ) :
    (v.perform (Update.plan source options) t).1
      = (v.answer (.scan source) t).1.map fun found => v.planFor found.1 found.2 options t := by
  rw [Surroundings.perform, plan_run, run_ask]
  cases (v.answer (.scan source) t).1 with
  | error e => rfl
  | ok found =>
      set t₁ := (v.answer (.scan source) t).2
      have hsame : v.records t₁ = v.records t := v.quiet _ t rfl
      show (Program.run (I := Update.interface) v.answer (.ask (.ledger .list) _) t₁).1 = _
      rw [run_ask]
      cases hknown : (v.answer (.ledger .list) t₁).1 with
      | error e => exact absurd hknown (hlist t₁ e)
      | ok known =>
          rw [v.listed t₁ known hknown, hsame]
          rfl

/-- A run on a healthy site is a run in its surroundings. -/
theorem run_carryOut {α : Type} (part : Update.Run α) (s : w.Stocked) :
    (carryOut p.target part).run w.answer s.state
      = ((w.surroundings.perform part s).1, (w.surroundings.perform part s).2.state) := by
  rw [carryOut, run_via]
  exact run_map (fun _ _ => rfl) _ s

/-- The plan for the records of a stocked site. -/
theorem planFor_eq {records : List Record} (s : w.Stocked) (h : w.held s.state = some records)
    (live archived : List Script) (options : Options) :
    w.surroundings.planFor live archived options s
      = Plan.build ⟨live, archived, records.map Record.asRead, options⟩ := by
  rw [Surroundings.planFor, Surroundings.inputFor, Surroundings.listing,
    ← HealthySite.Stocked.stored_of_held h]
  rfl

/-- The plan is that of the scripts and the records that are there. -/
theorem plan_answers (hs : Ready w s) : (p.plan.run w.answer s).1 = expected w s := by
  rw [plan_eq, run_bind, source_eq, run_ask, run_done, w.isDirectory, expected]
  set s₁ := (w.answer (.machine (.isDirectory p.settings.source)) s).2
  have hfiles₁ : w.files s₁ = w.files s := files_of_looks (.isDirectory _) s
  have hdatabase₁ : w.database s₁ = w.database s := database_of_looks (.isDirectory _) s
  cases (w.files s).isDirectory p.settings.source with
  | false => rfl
  | true =>
      show ((tableExists.bind _).run w.answer s₁).1 = _
      rw [run_bind, tableExists_eq, run_ask, w.names, run_done, hdatabase₁, any_tables_eq hs]
      set s₂ := (w.answer (.database .tables) s₁).2
      have hfiles₂ : w.files s₂ = w.files s :=
        (files_of_looks (.consult .tables) s₁).trans hfiles₁
      have hdatabase₂ : w.database s₂ = w.database s :=
        (database_of_looks (.consult .tables) s₁).trans hdatabase₁
      -- With the table the plan is made from its records, without it from none; the expected plan
      -- covers both, since an absent table is known to hold nothing.
      by_cases hthere : tableName ∈ w.tables (w.database s)
      · obtain ⟨records, hheld, -⟩ := hs.wellFormed hthere
        have hheld₂ : w.held s₂ = some records :=
          (HealthySite.held_eq_of_database_eq hdatabase₂).trans hheld
        rw [decide_eq_true hthere, known, hheld]
        show ((carryOut p.target _).run w.answer s₂).1 = _
        have hrun := run_carryOut (p := p) (Update.plan p.directories p.settings.options)
          (⟨s₂, by rw [hheld₂]; rfl⟩ : w.Stocked)
        rw [hrun, perform_plan w.roomy.listed]
        show (w.answer (.machine (.scan p.directories)) s₂).1.map _ = _
        rw [w.scan, hfiles₂]
        refine congrArg (fun f => Except.map f _) (funext fun found => ?_)
        exact planFor_eq _ hheld₂ _ _ _
      · rw [decide_eq_false hthere, known, HealthySite.held_eq_none hthere]
        show ((p.planUnrecorded p.directories).run w.answer s₂).1 = _
        rw [planUnrecorded_eq, run_ask, w.scan, hfiles₂]
        cases p.directories.scan (w.files s) with
        | error e => rfl
        | ok found => rfl

/-! ## The run that follows -/

/-- The script file that an exchange runs, with the connection and the outcome. -/
def ranFile? : Exchange Site.interface → Option ((Connection × Path) × Except DatabaseError Int)
  | ⟨.runner (.file connection path), outcome⟩ => some ((connection, path), outcome)
  | _ => none

/-- The script files of a run, in order, with the connections they are run over. -/
def filesRun (trail : List (Exchange Site.interface × σ)) : List (Connection × Path) :=
  (trail.filterMap fun m => ranFile? m.1).map Prod.fst

/-- A script file that an exchange runs ends with status zero. -/
def ExitsZero (m : Exchange Site.interface) : Prop :=
  ∀ file outcome, ranFile? m = some (file, outcome) → outcome = .ok 0

/-- The request is about no script file. -/
def RunsNothing (q : Site.Request) : Prop := ∀ reply, ranFile? ⟨q, reply⟩ = none

theorem runsNothing_of_looks {q : Site.Request} (h : Looks q) : RunsNothing q := by
  cases h <;> exact fun _ => rfl

/-- A program whose requests run nothing runs no file. -/
theorem filterMap_ranFile?_of_asks {α : Type} {part : Program Site.interface α}
    {answer : (q : Site.Request) → σ → q.Reply × σ} (h : part.Asks RunsNothing) (s : σ) :
    (part.trail answer s).filterMap (fun m => ranFile? m.1) = [] :=
  h.filterMap_trail (fun m hm => hm m.2) s

/-- A change of the ledger runs no file: it is a statement of its own. -/
theorem change_runsNothing (dialect : Dialect) (c : Change) :
    (Ledger.change dialect c).Asks RunsNothing := by
  rw [change_eq]
  refine Asks.bind ?_ fun time => ⟨fun _ => rfl, fun _ => ⟨fun _ => rfl, fun _ => trivial⟩⟩
  cases c with
  | record path hash speed => exact ⟨fun _ => rfl, fun _ => trivial⟩
  | _ => trivial

/-- The ledger runs no script file. -/
theorem perform_runsNothing (dialect : Dialect) (op : Operation) :
    (Ledger.perform dialect op).Asks RunsNothing := by
  cases op with
  | list => exact list_looks.mono fun _ => runsNothing_of_looks
  | change c => exact change_runsNothing dialect c
  | countMissing path =>
      show (Ledger.countMissing dialect path).Asks RunsNothing
      rw [countMissing_eq]
      refine (change_runsNothing dialect _).bind fun reply => ?_
      cases reply with
      | error e => trivial
      | ok done =>
          refine ⟨fun _ => rfl, fun rows => ?_⟩
          cases rows <;> trivial

/-- What an exchange of an update run shows of files on a target. -/
def ranOn? (target : Target) (m : Exchange Update.interface) :
    Option ((Connection × Path) × Except DatabaseError Int) :=
  (ran? m).map fun (location, outcome) => ((target.connection, location), outcome)

/-- Only running a script runs a file, which is that of the script. -/
theorem filterMap_ranFile?_answerRun (target : Target) (q : Update.Request)
    {answer : (q : Site.Request) → σ → q.Reply × σ} (s : σ) :
    ((answerRun target q).trail answer s).filterMap (fun m => ranFile? m.1)
      = (ranOn? target ⟨q, ((answerRun target q).run answer s).1⟩).toList := by
  cases q with
  | ledger op => exact filterMap_ranFile?_of_asks (perform_runsNothing target.dialect op) s
  | _ => rfl

/-- The update starts with a well-formed ledger table and the same files. -/
theorem runUpdate_starts (hs : Ready w s)
    (hdirectory : (w.files s).isDirectory p.settings.source = true) :
    ∃ v : w.Stocked, v.stored = known w s ∧ w.files v.state = w.files s
      ∧ p.runUpdate.run w.answer s = (carryOut p.target
          (Update.update p.directories p.settings.options)).run w.answer v.state
      ∧ (p.runUpdate.trail w.answer s).filterMap (fun m => ranFile? m.1)
        = ((carryOut p.target (Update.update p.directories p.settings.options)).trail w.answer
            v.state).filterMap fun m => ranFile? m.1 := by
  set s₁ := (w.answer (.machine (.isDirectory p.settings.source)) s).2 with hs₁
  have hfiles₁ : w.files s₁ = w.files s := files_of_looks (.isDirectory _) s
  have hdatabase₁ : w.database s₁ = w.database s := database_of_looks (.isDirectory _) s
  obtain ⟨hok, hcreate⟩ := w.create s₁
  set s₂ := (w.answer (.database (.execute createStatement)) s₁).2 with hs₂
  -- The table that was there keeps its records, and a fresh one has none.
  have hheld : w.held s₂ = some (known w s) := by
    show w.ledger (w.database s₂) = _
    rw [hcreate, hdatabase₁, known]
    by_cases hthere : tableName ∈ w.tables (w.database s)
    · obtain ⟨records, hrecords, -⟩ := hs.wellFormed hthere
      rw [if_pos hthere, hrecords]
      exact hrecords
    · rw [if_neg hthere, HealthySite.held_eq_none hthere]
      rfl
  refine ⟨⟨s₂, by rw [hheld]; rfl⟩, HealthySite.Stocked.stored_of_held hheld,
    (w.statement _ s₁).trans hfiles₁, ?_, ?_⟩
  · rw [runUpdate_eq, run_bind, source_eq, run_ask, run_done, w.isDirectory, hdirectory]
    show (ensureTable.bind _).run w.answer s₁ = _
    rw [run_bind, ensureTable_eq, run_ask, run_done, hok]
    rfl
  · -- Neither looking for the directory nor making the table runs a file.
    have hlook : p.source.Asks RunsNothing := p.source_looks.mono fun _ => runsNothing_of_looks
    have hmake : ensureTable.Asks RunsNothing := ⟨fun _ => rfl, fun _ => trivial⟩
    rw [runUpdate_eq, trail_bind, List.filterMap_append, filterMap_ranFile?_of_asks hlook,
      List.nil_append, source_eq, run_ask, run_done, w.isDirectory, hdirectory]
    show ((ensureTable.bind _).trail w.answer s₁).filterMap _ = _
    rw [trail_bind, List.filterMap_append, filterMap_ranFile?_of_asks hmake, List.nil_append,
      ensureTable_eq, run_ask, run_done, hok]
    rfl

/-- Counters of listed records can grow. -/
theorem Ready.counters (hs : Ready w s) : ∀ r ∈ known w s, r.missingRuns < 2 ^ 32 - 1 := by
  rw [known]
  cases hheld : w.held s with
  | none => exact List.forall_mem_nil _
  | some records =>
      obtain ⟨records', hheld', hcounters⟩ := hs.wellFormed (w.present _ _ hheld)
      obtain rfl := Option.some.inj (hheld.symm.trans hheld')
      exact hcounters

/-- The script files that carrying out a plan runs, if there is a plan. -/
def scheduled (p : Preparation) : Except UpdateError Plan → List (Connection × Path)
  | .ok q => q.pending.map fun e => (p.target.connection, e.script.location)
  | .error _ => []

/-- What a run on a target shows of files is what the update run in it shows. -/
theorem filterMap_ranFile?_carryOut {α : Type} (part : Update.Run α) (v : w.Stocked) :
    ((carryOut p.target part).trail w.answer v.state).filterMap (fun m => ranFile? m.1)
      = (part.run.trail w.surroundings.answer v).filterMap fun m => ranOn? p.target m.1 := by
  have hview : part.run.trail (fun q t => (answerRun p.target q).run w.answer t) v.state
      = (part.run.trail w.surroundings.answer v).map fun m => (m.1, m.2.state) :=
    trail_map (fun _ _ => rfl) part.run v
  rw [carryOut, filterMap_trail_via fun q t => filterMap_ranFile?_answerRun p.target q t, hview,
    List.filterMap_map]
  rfl

/-- A run that starts from a site where every script ends with status zero goes as its plan
    has told, and fails only where planning does. -/
theorem runUpdate_answers (hs : Ready w s)
    (hscripts : ∀ m ∈ p.runUpdate.trail w.answer s, ExitsZero m.1) :
    (p.runUpdate.run w.answer s).1
        = (expected w s).map (fun q => q.forecast (known w s) p.settings.options)
      ∧ filesRun (p.runUpdate.trail w.answer s) = p.scheduled (expected w s) := by
  rw [expected]
  cases hdirectory : (w.files s).isDirectory p.settings.source with
  | false =>
      rw [runUpdate_eq, run_bind, source_eq, run_ask, run_done, w.isDirectory, hdirectory,
        trail_bind, trail_ask, run_ask, w.isDirectory, hdirectory]
      exact ⟨rfl, rfl⟩
  | true =>
      obtain ⟨v, hstored, hfiles, hrun, hran⟩ := runUpdate_starts hs hdirectory
      rw [filterMap_ranFile?_carryOut] at hran
      rw [filesRun, hran, hrun, run_carryOut]
      -- A script that succeeds for the site succeeds for the update run in it.
      have hsucceeds : ∀ m ∈ (Update.update p.directories p.settings.options).run.trail
          w.surroundings.answer v, Succeeds m.1 := by
        intro m hm location outcome hlocation
        have hmem : ((p.target.connection, location), outcome)
            ∈ (p.runUpdate.trail w.answer s).filterMap fun m => ranFile? m.1 := by
          rw [hran]
          refine List.mem_filterMap.mpr ⟨m, hm, ?_⟩
          rw [ranOn?, hlocation]
          rfl
        obtain ⟨m', hm', hfile⟩ := List.mem_filterMap.mp hmem
        exact hscripts m' hm' _ _ hfile
      have hanswer : (w.surroundings.answer (.scan p.directories) v).1
          = p.directories.scan (w.files s) :=
        (w.scan p.directories v.state).trans (congrArg p.directories.scan hfiles)
      rw [if_pos rfl]
      cases hscan : p.directories.scan (w.files s) with
      | error e =>
          rw [hscan] at hanswer
          rw [Surroundings.perform, update_run, run_ask, hanswer, trail_ask, hanswer]
          exact ⟨rfl, rfl⟩
      | ok found =>
          rw [hscan] at hanswer
          have hcounters : ∀ r ∈ w.surroundings.records v, r.missingRuns < 2 ^ 32 - 1 :=
            (show w.surroundings.records v = known w s from hstored) ▸ hs.counters
          have hplan : w.surroundings.planFor found.1 found.2 p.settings.options v
              = Plan.build ⟨found.1, found.2, (known w s).map Record.asRead,
                  p.settings.options⟩ :=
            planFor_eq v (hstored ▸ v.held) _ _ _
          obtain ⟨hsummary, hlocations⟩ := w.roomy.update_succeeds
            (ScriptSource.nodup_scan hs.proper hscan).1 hcounters hanswer hsucceeds
          rw [hplan] at hsummary hlocations
          refine ⟨hsummary.trans ?_, ?_⟩
          · show Except.ok (Plan.forecast _ v.stored _) = _
            rw [hstored]
            rfl
          · simp only [ranOn?]
            rw [← List.map_filterMap, hlocations, List.map_map, List.map_map]
            rfl

/-! ## Planning predicts the run -/

/-- What a site is made ready for depends on its files and its database only. -/
theorem Ready.of_eq (hs : Ready w s) (hdatabase : w.database u = w.database s)
    (hfiles : w.files u = w.files s) : Ready w u where
  proper := hfiles ▸ hs.proper
  wellFormed := by
    rw [HealthySite.held, hdatabase]
    exact hs.wellFormed
  alone := hdatabase ▸ hs.alone

section

open Rehearsal

/-- Every script that is run on a strict site ends with status zero. -/
theorem exitsZero_of_strict {α : Type} (part : Program Site.interface α) (s : StrictSite) :
    ∀ m ∈ part.trail StrictSite.answer s, ExitsZero m.1 := by
  induction part generalizing s with
  | done a => exact List.forall_mem_nil _
  | ask q next ih =>
      intro m hm
      rcases List.mem_cons.mp hm with rfl | hrest
      · intro file outcome hran
        cases q with
        | runner q =>
            cases q with
            | file connection path => exact (Prod.mk.inj (Option.some.inj hran)).2.symm
            | query connection sql => exact nomatch hran
        | _ => exact nomatch hran
      · exact ih _ _ m hrest

/-- The auth database of a small project; records go after one run without their files. -/
def smallProject : Preparation :=
  ⟨⟨.auth, ⟨"localhost", "3306", "dbup", "", "auth", .disabled⟩, .replaceInto⟩,
    ⟨⟨"/project"⟩, ⟨true, true, true, 1⟩, true, none⟩⟩

/-- A script without a record, and the record of a file that was missing already. -/
def smallSite : StrictSite where
  files := ⟨.folder "project" (.folder "sql" (.folder "updates" (.folder "auth"
    (.file "new.sql" "SELECT 1".toUTF8 .empty) .empty) .empty) .empty) .empty, []⟩
  store := ⟨⟨some [⟨"it's gone.sql", "gone", "RELEASED", "2024-05-01T00:00:00Z", "12", "1"⟩],
    ["characters"]⟩, none⟩

/-- The surroundings of the small project. -/
abbrev smallSurroundings : HealthySite smallProject.target.dialect StrictSite Store :=
  StrictSite.healthy .replaceInto

/-- The small site is ready: its files are proper and its table holds well-formed records. -/
theorem ready_smallSite : Ready smallSurroundings smallSite where
  proper := by decide +kernel
  wellFormed := fun _ => ⟨_, rfl, by decide +kernel⟩
  alone := by decide +kernel

end

end SchemaMigration.Preparation
