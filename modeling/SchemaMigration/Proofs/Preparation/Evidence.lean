import SchemaMigration.Proofs.Baseline.Consent
import SchemaMigration.Proofs.Preparation.Steps
import SchemaMigration.Proofs.Update.Inventory

/-! # Evidence — what a step that succeeded has behind it

    A preparation goes from step to step on truth values, and a value that is true for
    no reason would take the next step on a database that is not ready for it.  Behind
    each of them stands what the step has asked and heard:

    * `Populates`: the second step has found tables, applied a baseline with status zero,
      or was told by the operator to apply none, and it has done nothing without consent;
    * `Updated`: the third step has found its scripts, read the ledger, and run every
      script that was pending, each with status zero. -/

namespace SchemaMigration.Preparation

open Baseline Ledger Program

variable {p : Preparation} {past now : List (Exchange Site.interface)}
variable {m : Exchange Site.interface} {ok : Bool}

/-! ## Populating the database -/

/-- The database is to be initialised: it is at every load, or it was found without tables. -/
def Empty (p : Preparation) (past : List (Exchange Site.interface)) : Prop :=
  p.policy.alwaysRefresh = true
    ∨ (⟨.database .tables, .ok []⟩ : Exchange Site.interface) ∈ past

/-- Why the second step succeeds. -/
inductive Populated (p : Preparation) (past : List (Exchange Site.interface)) : Prop where
  /-- There were tables, so that nothing was run or downloaded. -/
  | filled {names : List String} (hkept : p.policy.alwaysRefresh = false) (hne : names ≠ [])
      (htables : (⟨.database .tables, .ok names⟩ : Exchange Site.interface) ∈ past)
      (hidle : Unrun 0 past)
  /-- A baseline was applied, and ended with status zero. -/
  | applied (file : Path) (hran : runs past = [⟨.file p.target.connection file, .ok 0⟩])
  /-- The operator was asked, and had nothing to apply. -/
  | declined (hauto : p.settings.automatic = false) (hasked : questions past ≠ [])
      (hidle : Unrun 0 past)

/-- What the second step has done: it succeeds only with evidence, runs one file at most, over
    the connection of the database and only where that is to be initialised, and makes no
    exchange that the resolution of a baseline does not permit. -/
structure Populates (p : Preparation) (ok : Bool) (past : List (Exchange Site.interface)) :
    Prop where
  evidence : ok = true → Populated p past
  initialises : runs past = [] ∨ p.Empty past
    ∧ ∃ file outcome, runs past = [⟨.file p.target.connection file, outcome⟩]
  consented : Along p.resolver.Permitted past

theorem Empty.mono (h : p.Empty past) (hmore : past <+: now) : p.Empty now :=
  h.imp_right fun hnone => hmore.subset hnone

/-- A last report changes nothing of this. -/
theorem Populates.report (h : Populates p ok past) (line : Log.Line) :
    Populates p ok (past ++ [⟨.machine (.log line), ()⟩]) := by
  have hruns : runs (past ++ [⟨.machine (.log line), ()⟩]) = runs past :=
    runs_append_of_eq_none rfl
  constructor
  case evidence =>
    intro hok
    cases h.evidence hok with
    | filled hkept hne htables hidle =>
        exact .filled hkept hne (List.mem_append_left _ htables) (hidle.append rfl rfl)
    | applied file hran => exact .applied file (hruns.trans hran)
    | declined hauto hasked hidle =>
        exact .declined hauto (questions_append_ne_nil hasked) (hidle.append rfl rfl)
  case initialises =>
    rw [hruns]
    exact h.initialises.imp_right
      (And.imp_left fun hempty => hempty.mono (List.prefix_append _ _))
  case consented => exact h.consented.append trivial

variable {σ : Type} {answer : (q : Site.Request) → σ → q.Reply × σ} {s : σ}

/-- What is known at the end of a resolution. -/
structure Resolved (r : Resolver) (past : List (Exchange Site.interface)) (stage : Stage)
    (now : List (Exchange Site.interface)) : Prop where
  later : past <+: now
  final : stage.isFinal = true
  reached : r.Reached stage now
  warranted : r.Warranted stage now
  permitted : Along r.Permitted now

/-- A resolution may begin wherever nothing was run, downloaded or asked before. -/
theorem resolve_resolved {r : Resolver} (hidle : Unrun 0 past) (hquiet : questions past = [])
    (h : Along r.Permitted past) :
    r.resolve.Keeps answer (fun _ _ => True) (fun stage now _ => Resolved r past stage now)
      past s := by
  obtain ⟨-, hfinal, hreached⟩ :=
    Resolver.resolveFrom_turns answer (r := r) .needed hidle s
  obtain ⟨hpermitted, hwarranted⟩ :=
    Keeps.outcome (Resolver.resolveFrom_warrants answer .needed h hquiet s)
  exact keeps_end_iff.mpr
    ⟨List.prefix_append _ _, hfinal, hreached, hwarranted, hpermitted⟩

/-- The last stage of the resolution tells whether the step has succeeded. -/
theorem Resolved.populates {stage : Stage} (h : Resolved p.resolver past stage now)
    (hempty : p.Empty past) :
    Populates p (match stage with | .done _ => true | _ => false) now := by
  have hreached := h.reached
  have hempty := hempty.mono h.later
  cases stage with
  | done applied =>
      cases applied with
      | none =>
          -- A dump is always expected, so that the operator was asked.
          obtain ⟨hauto, hasked⟩ := h.warranted.resolve_left (Option.some_ne_none _)
          exact ⟨fun _ => .declined hauto hasked hreached, Or.inl hreached.idle, h.permitted⟩
      | some file =>
          exact ⟨fun _ => .applied file hreached.1, Or.inr ⟨hempty, file, _, hreached.1⟩,
            h.permitted⟩
  | failed reason =>
      refine ⟨nofun, hreached.1.imp_right fun hran => ⟨hempty, ?_⟩, h.permitted⟩
      obtain ⟨file, outcome, -, hruns⟩ := hran
      exact ⟨file, outcome, hruns⟩
  | _ => exact nomatch h.final

/-- A baseline is resolved where the database is to be initialised. -/
theorem applyBaseline_populates (hidle : Unrun 0 past) (hquiet : questions past = [])
    (h : Along p.resolver.Permitted past) (hempty : p.Empty past) :
    p.applyBaseline.Keeps answer (fun _ _ => True) (fun ok now _ => Populates p ok now)
      past s := by
  refine Keeps.answered fun reported t _ => ⟨trivial, ?_⟩
  have hpermitted : Along p.resolver.Permitted (past
      ++ [⟨.machine (.log (.info .preparation
        s!"Populating the {p.displayName} database...")), reported⟩]) := h.append trivial
  show (Program.bind p.resolver.resolve _).Keeps _ _ _ _ _
  rw [keeps_bind]
  refine (resolve_resolved (hidle.append rfl rfl) ?_ hpermitted).mono
    fun stage now u hresolved => ?_
  · rw [questions_append_of_eq_none rfl, hquiet]
  · have hpopulates := hresolved.populates (hempty.mono (List.prefix_append _ _))
    cases stage with
    | done applied =>
        cases applied with
        | none => exact hpopulates
        | some file => exact ⟨trivial, hpopulates.report _⟩
    | _ => exact ⟨trivial, hpopulates.report _⟩

/-- The second step applies a baseline only to a database that needs one. -/
theorem populate_populates :
    p.populate.Keeps answer (fun _ _ => True) (fun ok now _ => Populates p ok now) [] s := by
  have hstart : Unrun 0 [] := ⟨rfl, Nat.le_refl 0⟩
  rw [populate]
  by_cases hrefresh : p.policy.alwaysRefresh = true
  · rw [if_pos hrefresh]
    exact applyBaseline_populates hstart rfl along_nil (Or.inl hrefresh)
  · rw [if_neg hrefresh]
    refine Keeps.answered fun listed t _ => ⟨trivial, ?_⟩
    have hidle : Unrun 0 [⟨.database .tables, listed⟩] := ⟨rfl, Nat.le_refl 0⟩
    have hpermitted : Along p.resolver.Permitted [⟨.database .tables, listed⟩] :=
      along_nil.append trivial
    cases listed with
    | error cause =>
        have hfailed : Populates p false [⟨.database .tables, .error cause⟩] :=
          ⟨nofun, Or.inl rfl, hpermitted⟩
        exact ⟨trivial, hfailed.report _⟩
    | ok names =>
        cases names with
        | nil =>
            exact applyBaseline_populates hidle rfl hpermitted (Or.inr (List.mem_singleton_self _))
        | cons name names =>
            have hkept := Bool.eq_false_of_not_eq_true hrefresh
            exact ⟨fun _ => .filled hkept (List.cons_ne_nil name names)
              (List.mem_singleton_self _) hidle, Or.inl rfl, hpermitted⟩

/-! ## Bringing the database up to date -/

/-- A script that was run over the connection of the database, and ended with status zero. -/
def appliedBy (p : Preparation) (e : PlannedFile) :
    (Connection × Path) × Except DatabaseError Int :=
  ((p.target.connection, e.script.location), .ok 0)

/-- What an update that succeeds has carried out: a plan for the scripts that its scan has
    found and the records that its query has read, of which every pending script was run, in
    order, and ended with status zero. -/
def CarriedOut (p : Preparation) (source : ScriptSource)
    (past : List (Exchange Site.interface)) : Prop :=
  ∃ live archived rows,
    (⟨.machine (.scan source), .ok (live, archived)⟩ : Exchange Site.interface) ∈ past
    ∧ (⟨.database (.query listStatement), .ok rows⟩ : Exchange Site.interface) ∈ past
    ∧ past.filterMap ranFile?
      = (Plan.build ⟨live, archived, readRows rows, p.settings.options⟩).pending.map p.appliedBy

/-- Why the third step succeeds. -/
structure Updated (p : Preparation) (past : List (Exchange Site.interface)) : Prop where
  there : (⟨.machine (.isDirectory p.settings.source), true⟩ : Exchange Site.interface) ∈ past
  recording : (⟨.database (.execute createStatement), .ok ()⟩ : Exchange Site.interface) ∈ past
  complete : CarriedOut p p.directories past

/-- A program that runs no file adds no file to those that were run. -/
theorem keeps_of_runsNothing {α : Type} {part : Program Site.interface α}
    (h : part.Asks RunsNothing) :
    part.Keeps answer (fun _ _ => True) (fun a now _ => a = (part.run answer s).1
      ∧ past <+: now ∧ now.filterMap ranFile? = past.filterMap ranFile?) past s := by
  refine keeps_end_iff.mpr ⟨rfl, List.prefix_append _ _, ?_⟩
  rw [List.filterMap_append, List.filterMap_map]
  exact (congrArg _ (filterMap_ranFile?_of_asks h s)).trans (List.append_nil _)

/-- Where the plan is carried out with success, its pending scripts are the files that are run. -/
theorem carryOut_apply (q : Plan) (options : Options) {summary : Update.Summary} {t : σ}
    (h : (carryOut p.target (Update.apply q options)).run answer s = (.ok summary, t)) :
    ((carryOut p.target (Update.apply q options)).trail answer s).filterMap
      (fun m => ranFile? m.1) = q.pending.map p.appliedBy := by
  rw [carryOut, run_via] at h
  rw [carryOut, filterMap_trail_via fun q t => filterMap_ranFile?_answerRun p.target q t]
  simp only [ranOn?]
  rw [← List.map_filterMap, Update.ran_apply_of_ok h, List.map_map]
  rfl

/-- Once scripts and records are known, success is that of carrying out the plan for them. -/
theorem carryOut_known {source : ScriptSource} {live archived : List Script} {rows : List Row}
    (hscan : (⟨.machine (.scan source), .ok (live, archived)⟩ : Exchange Site.interface) ∈ past)
    (hread : (⟨.database (.query listStatement), .ok rows⟩ : Exchange Site.interface) ∈ past)
    (hidle : past.filterMap ranFile? = []) :
    ((Site.log (Update.surveyed live archived (readRows rows))).bind fun _ =>
      carryOut p.target (Update.apply
        (Plan.build ⟨live, archived, readRows rows, p.settings.options⟩) p.settings.options)).Keeps
      answer (fun _ _ => True) (fun result now _ => past <+: now
        ∧ ∀ summary, result = .ok summary → CarriedOut p source now) past s := by
  set q := Plan.build ⟨live, archived, readRows rows, p.settings.options⟩
  refine keeps_end_iff.mpr ⟨List.prefix_append _ _, fun summary hok => ?_⟩
  refine ⟨live, archived, rows, List.mem_append_left _ hscan, List.mem_append_left _ hread, ?_⟩
  rw [List.filterMap_append, hidle, List.filterMap_map]
  exact carryOut_apply q p.settings.options (Prod.ext hok rfl)

/-- An update that succeeds has carried out its plan, however it is answered. -/
theorem carryOut_update {source : ScriptSource} (hidle : past.filterMap ranFile? = []) :
    (carryOut p.target (Update.update source p.settings.options)).Keeps answer
      (fun _ _ => True) (fun result now _ => past <+: now
        ∧ ∀ summary, result = .ok summary → CarriedOut p source now) past s := by
  show (Program.via (I := Update.interface) (answerRun p.target)
    (Update.update source p.settings.options).run).Keeps _ _ _ _ _
  rw [Update.update_run]
  refine Keeps.answered fun found t _ => ⟨trivial, ?_⟩
  have hscanned := List.prefix_append past [⟨.machine (.scan source), found⟩]
  cases found with
  | error e => exact ⟨hscanned, nofun⟩
  | ok found =>
      obtain ⟨live, archived⟩ := found
      show (Program.bind Ledger.list _).Keeps _ _ _ _ _
      rw [keeps_bind, list_eq]
      refine Keeps.answered fun queried u _ => ⟨trivial, ?_⟩
      cases queried with
      | error cause => exact ⟨hscanned.trans (List.prefix_append _ _), nofun⟩
      | ok rows =>
          -- Reading the rows reports at most, and what is read goes into the plan.
          have hreports : (ofRows rows).Asks RunsNothing := by
            refine (ofRows_asks rows).mono ?_
            rintro q ⟨line, rfl⟩
            exact fun _ => rfl
          rw [keeps_bind]
          refine (keeps_of_runsNothing hreports).mono fun known now v hread => ?_
          obtain ⟨hknown, hlater, hnone⟩ := hread
          rw [ofRows_answers] at hknown
          subst hknown
          have hscan : (⟨.machine (.scan source), .ok (live, archived)⟩
              : Exchange Site.interface) ∈ now :=
            hlater.subset (List.mem_append_left _ (List.mem_append_right _ List.mem_cons_self))
          have hquery : (⟨.database (.query listStatement), .ok rows⟩
              : Exchange Site.interface) ∈ now :=
            hlater.subset (List.mem_append_right _ List.mem_cons_self)
          have hquiet : now.filterMap ranFile? = [] := by
            rw [hnone, List.filterMap_append, List.filterMap_append, hidle]
            rfl
          refine (carryOut_known hscan hquery hquiet).mono fun result last w hend => ⟨?_, hend.2⟩
          exact hscanned.trans ((List.prefix_append _ _).trans (hlater.trans hend.1))

/-- An update run that succeeds has found everything it needs. -/
theorem runUpdate_updates (hidle : past.filterMap ranFile? = []) :
    p.runUpdate.Keeps answer (fun _ _ => True)
      (fun result now _ => ∀ summary, result = .ok summary → Updated p now) past s := by
  rw [runUpdate_eq, source_eq]
  refine Keeps.answered fun there t _ => ⟨trivial, ?_⟩
  cases there with
  | false => exact nofun
  | true =>
      refine Keeps.answered fun made u _ => ⟨trivial, ?_⟩
      cases made with
      | error cause => exact nofun
      | ok done =>
          have hnone : (past
              ++ [(⟨.machine (.isDirectory p.settings.source), true⟩ : Exchange Site.interface)]
              ++ [(⟨.database (.execute createStatement), .ok done⟩ : Exchange Site.interface)]
              ).filterMap ranFile? = [] := by
            rw [List.filterMap_append, List.filterMap_append, hidle]
            rfl
          refine (carryOut_update hnone).mono fun result now v hcarried => ?_
          obtain ⟨hbefore, hcomplete⟩ := hcarried
          refine fun summary hok => ⟨hbefore.subset ?_, hbefore.subset ?_, hcomplete summary hok⟩
          · exact List.mem_append_left _ (List.mem_append_right _ List.mem_cons_self)
          · exact List.mem_append_right _ List.mem_cons_self

theorem Updated.report (h : Updated p past) (line : Log.Line) :
    Updated p (past ++ [⟨.machine (.log line), ()⟩]) := by
  obtain ⟨live, archived, rows, hscan, hread, hran⟩ := h.complete
  refine ⟨List.mem_append_left _ h.there, List.mem_append_left _ h.recording, live, archived,
    rows, List.mem_append_left _ hscan, List.mem_append_left _ hread, ?_⟩
  rw [List.filterMap_append, hran]
  exact List.append_nil _

/-- The third step succeeds only with an update that has carried out its plan. -/
theorem update_updates :
    p.update.Keeps answer (fun _ _ => True) (fun ok now _ => ok = true → Updated p now) [] s := by
  refine Keeps.answered fun reported t _ => ⟨trivial, ?_⟩
  show (p.runUpdate.bind _).Keeps _ _ _ _ _
  rw [keeps_bind]
  refine (runUpdate_updates rfl).mono fun result now u hupdated => ?_
  cases result with
  | ok summary => exact ⟨trivial, fun _ => (hupdated summary rfl).report _⟩
  | error e => exact ⟨trivial, trivial, nofun⟩

end SchemaMigration.Preparation
