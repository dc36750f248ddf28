import SchemaMigration.Proofs.Plan.PathOrder
import SchemaMigration.Proofs.Program.Layers
import SchemaMigration.Proofs.Text.ByteOrder
import SchemaMigration.Proofs.Update.FailFast

/-! # Inventory — every file has its place, and scripts are run in theirs

    A scan lists files in the order of a directory, folder by folder.  A plan goes by the
    bytes of their paths, where `a-b.sql` stands before `a/c.sql`.  No file is lost or
    listed twice on the way:

    * `lists_liveEntries`, `lists_archivedEntries`: the entries are the files, each once,
      in the order of the bytes of their paths;
    * `ranAt_apply`: whatever a run hears, it runs the first few of the pending scripts;
    * `files_in_order`: so a run runs live scripts only, each at most once, in order. -/

namespace SchemaMigration

open Program

/-! ## Plans -/

namespace Plan

/-- The entries are those of some files, each once, in the order of the bytes of their
    paths. -/
structure Lists (entries : List PlannedFile) (scripts : List Script) : Prop where
  each : (entries.map PlannedFile.script).Perm scripts
  ascending : entries.Pairwise fun a b =>
    Utf8.bytes a.script.path < Utf8.bytes b.script.path

/-- Entries for files in path order are in the order of the bytes of their paths. -/
theorem lists_of_byPath {entries : List PlannedFile} {scripts : List Script}
    (hn : (scripts.map Script.path).Nodup)
    (h : entries.map PlannedFile.script = byPath scripts) : Lists entries scripts := by
  have hasc := byPath_ascending hn
  rw [← h, List.pairwise_map] at hasc
  exact ⟨h ▸ byPath_perm scripts, hasc.imp Utf8.bytes_lt_iff.mpr⟩

theorem lists_liveEntries {input : Input} (hn : (input.live.map Script.path).Nodup) :
    Lists (liveEntries input) input.live :=
  lists_of_byPath hn (map_script_liveEntries input)

theorem lists_archivedEntries {input : Input} (hn : (input.archived.map Script.path).Nodup) :
    Lists (archivedEntries input) input.archived :=
  lists_of_byPath hn (map_script_planArchived _ _)

/-- Archived entries are not pending, so the pending ones are among the live ones. -/
theorem pending_sublist (input : Input) : (build input).pending.Sublist (liveEntries input) := by
  have hnone : (archivedEntries input).filter (fun e => e.verdict.isPending) = [] := by
    refine List.filter_eq_nil_iff.mpr fun e he => ?_
    rcases archivedEntry_cases he with hv | ⟨record, hv⟩ <;> rw [hv] <;> exact Bool.noConfusion
  rw [Plan.pending, entries_build, List.filter_append, hnone, List.append_nil]
  exact List.filter_sublist

end Plan

/-! ## Runs -/

namespace Update

variable {σ α β : Type} {answer : (q : Request) → σ → q.Reply × σ}

/-- The places of the scripts that are run, in order. -/
def ranAt (moments : List (Exchange interface × σ)) : List Path :=
  moments.filterMap fun m => (ran? m.1).map Prod.fst

/-- A request that runs no script. -/
def RunsNothing (q : Request) : Prop := ∀ location, q ≠ .runScript location

theorem ran?_of_runsNothing {m : Exchange interface} (h : RunsNothing m.1) : ran? m = none := by
  obtain ⟨q, reply⟩ := m
  cases q with
  | runScript location => exact absurd rfl (h location)
  | _ => rfl

/-- A part of a run that asks for no script runs none. -/
theorem ran_of_asks {p : Program interface α} (hp : p.Asks RunsNothing) (s : σ) :
    (p.trail answer s).filterMap (fun m => ran? m.1) = [] :=
  hp.filterMap_trail (fun _ => ran?_of_runsNothing) s

theorem ranAt_eq (moments : List (Exchange interface × σ)) :
    ranAt moments = (moments.filterMap fun m => ran? m.1).map Prod.fst := List.map_filterMap.symm

theorem ranAt_of_asks {p : Program interface α} (hp : p.Asks RunsNothing) (s : σ) :
    ranAt (p.trail answer s) = [] := by
  rw [ranAt_eq, ran_of_asks hp]
  rfl

/-- What a sequence runs is what its first part runs and, where that succeeds, its second. -/
theorem ranAt_attempt (p : Run α) (f : α → Run β) (s : σ) :
    ranAt ((p >>= f).run.trail answer s) = ranAt (p.run.trail answer s)
      ++ match p.run.run answer s with
        | (.ok a, t) => ranAt ((f a).run.trail answer t)
        | (.error _, _) => [] := by
  rw [attempt_bind, trail_bind, ranAt, List.filterMap_append]
  refine congrArg _ ?_
  cases hr : p.run.run answer s with
  | mk r t =>
      cases r with
      | ok a => rfl
      | error e => rfl

/-- What follows runs nothing. -/
theorem ranAt_attempt_of_asks (p : Run α) {f : α → Run β}
    (hf : ∀ a, (f a).run.Asks RunsNothing) (s : σ) :
    ranAt ((p >>= f).run.trail answer s) = ranAt (p.run.trail answer s) := by
  rw [ranAt_attempt]
  cases p.run.run answer s with
  | mk r t =>
      cases r with
      | ok a => exact (congrArg _ (ranAt_of_asks (hf a) t)).trans (List.append_nil _)
      | error e => exact List.append_nil _

theorem runsNothing_of_tends {p : Plan} {q : Request} (h : Tends p q) : RunsNothing q := by
  intro location heq
  rw [heq] at h
  exact nomatch h

/-- Once a script has ended, nothing more is run for it. -/
theorem ended_asks (x : Script) (started : Nat) (outcome : Except DatabaseError Int) :
    (ended x started outcome).Asks RunsNothing := by
  cases outcome with
  | error cause => trivial
  | ok status =>
      by_cases hs : status = 0
      · subst hs
        refine ⟨fun _ => Request.noConfusion, fun stopped => ⟨fun _ => Request.noConfusion,
          fun reply => ?_⟩⟩
        cases reply with
        | ok done => trivial
        | error e => exact ⟨fun _ => Request.noConfusion, fun _ => trivial⟩
      · rw [ended_of_ne_zero x started hs]
        trivial

theorem settleAll_runsNothing (es : List PlannedFile) : (settleAll es).run.Asks RunsNothing :=
  (settleAll_asks (p := ⟨es, [], []⟩) es fun _ h => h).mono fun _ => runsNothing_of_tends

theorem cleanUp_runsNothing (p : Plan) (options : Options) :
    (cleanUp p options).run.Asks RunsNothing :=
  (cleanUp_asks p options).mono fun _ => runsNothing_of_tends

/-- Applying a script runs it once, and ends as its outcome tells. -/
theorem applyScript_runs (x : Script) (s : σ) :
    ∃ started outcome u,
      (applyScript x).run.run answer s = (ended x started outcome).run answer u
        ∧ ((applyScript x).run.trail answer s).filterMap (fun m => ran? m.1)
          = [(x.location, outcome)] := by
  rw [applyScript_run]
  exact ⟨_, _, _, rfl, congrArg (List.cons _) (ran_of_asks (ended_asks x _ _) _)⟩

/-- Applying a script runs it once, whatever comes of it. -/
theorem ranAt_applyScript (x : Script) (s : σ) :
    ranAt ((applyScript x).run.trail answer s) = [x.location] := by
  obtain ⟨started, outcome, u, -, hran⟩ := @applyScript_runs σ answer x s
  rw [ranAt_eq, hran]
  rfl

/-- Of scripts that are to be applied the first few are run. -/
theorem ranAt_applyAll (es : List PlannedFile) (s : σ) :
    ∃ done, done <+: es ∧ ranAt ((applyAll es).run.trail answer s)
      = done.map fun e => e.script.location := by
  induction es generalizing s with
  | nil => exact ⟨[], List.nil_prefix, rfl⟩
  | cons e rest ih =>
      show ∃ done, done <+: e :: rest
        ∧ ranAt ((applyScript e.script >>= fun _ => applyAll rest).run.trail answer s) = _
      rw [ranAt_attempt, ranAt_applyScript]
      cases (applyScript e.script).run.run answer s with
      | mk r t =>
          cases r with
          -- The script that stops the run has been run itself.
          | error error => exact ⟨[e], List.prefix_append [e] rest, rfl⟩
          | ok _ =>
              obtain ⟨done, hprefix, hran⟩ := ih t
              refine ⟨e :: done, List.prefix_cons_inj e |>.mpr hprefix, ?_⟩
              show [e.script.location] ++ ranAt ((applyAll rest).run.trail answer t) = _
              rw [hran]
              rfl

/-- A run that carries out a plan runs the first few of its pending scripts. -/
theorem ranAt_apply (p : Plan) (options : Options) (s : σ) :
    ∃ done, done <+: p.pending ∧ ranAt ((apply p options).run.trail answer s)
      = done.map fun e => e.script.location := by
  rw [apply, ranAt_attempt, ranAt_of_asks (settleAll_runsNothing p.entries), List.nil_append]
  cases (settleAll p.entries).run.run answer s with
  | mk r t =>
      cases r with
      | error e => exact ⟨[], List.nil_prefix, rfl⟩
      | ok _ =>
          obtain ⟨done, hprefix, hran⟩ := ranAt_applyAll p.pending t
          refine ⟨done, hprefix, Eq.trans (ranAt_attempt_of_asks _ (fun _ => ?_) t) hran⟩
          exact (cleanUp_runsNothing p options).attempt fun cleaned => trivial

/-! ## What a run that succeeds has run -/

/-- A script that is applied ended with status zero. -/
theorem ran_applyScript_of_ok {x : Script} {s t : σ}
    (h : (applyScript x).run.run answer s = (.ok (), t)) :
    ((applyScript x).run.trail answer s).filterMap (fun m => ran? m.1)
      = [(x.location, .ok 0)] := by
  obtain ⟨started, outcome, u, hrun, hran⟩ := @applyScript_runs σ answer x s
  rw [hrun] at h
  rw [hran]
  -- Any other outcome would have ended the run with an error.
  cases outcome with
  | error cause => exact nomatch (Prod.mk.inj h).1
  | ok status =>
      by_cases hs : status = 0
      · rw [hs]
      · rw [ended_of_ne_zero x started hs] at h
        exact nomatch (Prod.mk.inj h).1

/-- Scripts that are all applied were run one after another. -/
theorem ran_applyAll_of_ok {es : List PlannedFile} {s t : σ}
    (h : (applyAll es).run.run answer s = (.ok (), t)) :
    ((applyAll es).run.trail answer s).filterMap (fun m => ran? m.1) = es.map clean := by
  induction es generalizing s with
  | nil => rfl
  | cons e rest ih =>
      change (applyScript e.script >>= fun _ => applyAll rest).run.run answer s = _ at h
      obtain ⟨⟨⟩, u, hfirst, hrest⟩ := run_attempt_eq_ok.mp h
      show ((applyScript e.script >>= fun _ => applyAll rest).run.trail answer s).filterMap _ = _
      rw [trail_attempt_of_ok _ hfirst, List.filterMap_append, ran_applyScript_of_ok hfirst,
        ih hrest]
      rfl

/-- A run that carries out a plan with success has run all pending scripts, in order, and each
    of them ended with status zero. -/
theorem ran_apply_of_ok {p : Plan} {options : Options} {summary : Summary} {s t : σ}
    (h : (apply p options).run.run answer s = (.ok summary, t)) :
    ((apply p options).run.trail answer s).filterMap (fun m => ran? m.1)
      = p.pending.map clean := by
  rw [apply] at h ⊢
  obtain ⟨⟨⟩, s₁, h₁, h⟩ := run_attempt_eq_ok.mp h
  obtain ⟨⟨⟩, s₂, h₂, h⟩ := run_attempt_eq_ok.mp h
  rw [trail_attempt_of_ok _ h₁, trail_attempt_of_ok _ h₂, List.filterMap_append,
    List.filterMap_append, ran_of_asks (settleAll_runsNothing p.entries), ran_applyAll_of_ok h₂,
    List.nil_append]
  refine (congrArg _ (ran_of_asks ?_ s₂)).trans (List.append_nil _)
  exact (cleanUp_runsNothing p options).attempt fun cleaned => trivial

/-! ## Files and runs -/

/-- No file is lost, listed twice or run from the archive: the entries of a plan are the live
    scripts and then the archived ones, each once and in the order of the bytes of their
    paths; and however a run goes that carries the plan out, the scripts that it runs are
    live ones, each run at most once and in that order. -/
theorem files_in_order {input : Plan.Input} (hl : (input.live.map Script.path).Nodup)
    (ha : (input.archived.map Script.path).Nodup) (options : Options)
    (answer : (q : Request) → σ → q.Reply × σ) (s : σ) :
    (∃ live archived, (Plan.build input).entries = live ++ archived
        ∧ Plan.Lists live input.live ∧ Plan.Lists archived input.archived
        ∧ ∀ e ∈ archived, e.verdict = .archived ∨ ∃ record, e.verdict = .archivedRedundant record)
      ∧ ∃ ran : List Script, ranAt ((apply (Plan.build input) options).run.trail answer s)
          = ran.map Script.location
        ∧ (∀ x ∈ ran, x ∈ input.live)
        ∧ ran.Pairwise fun x y => Utf8.bytes x.path < Utf8.bytes y.path := by
  refine ⟨⟨Plan.liveEntries input, Plan.archivedEntries input, Plan.entries_build input,
    Plan.lists_liveEntries hl, Plan.lists_archivedEntries ha,
    fun e he => Plan.archivedEntry_cases he⟩, ?_⟩
  obtain ⟨done, hprefix, hran⟩ : ∃ done, done <+: (Plan.build input).pending
      ∧ ranAt ((apply (Plan.build input) options).run.trail answer s)
        = done.map fun e => e.script.location := ranAt_apply _ options s
  -- What is run is a beginning of the pending entries, and so in the order of all.
  have hsub : done.Sublist (Plan.liveEntries input) :=
    hprefix.sublist.trans (Plan.pending_sublist input)
  refine ⟨done.map PlannedFile.script, by rw [hran, List.map_map]; rfl, fun x hx => ?_, ?_⟩
  · obtain ⟨e, he, rfl⟩ := List.mem_map.mp hx
    exact Plan.live_of_mem_liveEntries (hsub.subset he)
  · exact List.pairwise_map.mpr ((Plan.lists_liveEntries hl).ascending.sublist hsub)

/-- Two files as a scan finds them, that of a folder first, and a copy in the archive. -/
def hyphened : Plan.Input where
  live := [Bench.live "a/c.sql" "x", Bench.live "a-b.sql" "y"]
  archived := [⟨"a/c.sql", "x", ⟨"/archived/a/c.sql"⟩, .archived⟩]
  records := []
  options := .standard

/-- A ledger without records, in surroundings where every script succeeds. -/
def blankBench : Bench := ⟨[], [], [], List.nodup_nil⟩

/-- The file whose path has the smaller bytes comes first in the plan, and is run first when
    the plan is carried out; the copy in the archive comes last, and is not run. -/
theorem files_in_order_hyphened :
    (hyphened.live.map Script.path).Nodup ∧ (hyphened.archived.map Script.path).Nodup
      ∧ (Plan.build hyphened).entries.map (fun e => e.script.path)
        = ["a-b.sql", "a/c.sql", "a/c.sql"]
      ∧ ranAt ((apply (Plan.build hyphened) .standard).run.trail Bench.answer blankBench)
        = [⟨"/updates/a-b.sql"⟩, ⟨"/updates/a/c.sql"⟩]
      ∧ ∃ ran : List Script, ran.map Script.location
          = [⟨"/updates/a-b.sql"⟩, ⟨"/updates/a/c.sql"⟩]
        ∧ (∀ x ∈ ran, x ∈ hyphened.live)
        ∧ ran.Pairwise fun x y => Utf8.bytes x.path < Utf8.bytes y.path := by
  have hl : (hyphened.live.map Script.path).Nodup := by decide
  have ha : (hyphened.archived.map Script.path).Nodup := by decide
  obtain ⟨-, ran, hran, hrest⟩ := files_in_order hl ha .standard Bench.answer blankBench
  have horder : [Bench.live "a-b.sql" "y", Bench.live "a/c.sql" "x"] = Plan.byPath hyphened.live :=
    Plan.eq_byPath (by decide) (by decide)
  have hsingle : hyphened.archived = Plan.byPath hyphened.archived :=
    Plan.eq_byPath .rfl (by decide)
  have hentries : (Plan.build hyphened).entries
      = [⟨Bench.live "a-b.sql" "y", .pending .new⟩, ⟨Bench.live "a/c.sql" "x", .pending .new⟩,
          ⟨⟨"a/c.sql", "x", ⟨"/archived/a/c.sql"⟩, .archived⟩, .archived⟩] := by
    rw [Plan.entries_build, Plan.liveEntries, Plan.archivedEntries, ← horder, ← hsingle]
    rfl
  have hplaces : ranAt ((apply (Plan.build hyphened) .standard).run.trail Bench.answer blankBench)
      = [⟨"/updates/a-b.sql"⟩, ⟨"/updates/a/c.sql"⟩] := by
    rw [show Plan.build hyphened = ⟨(Plan.build hyphened).entries, [], []⟩ from rfl, hentries]
    rfl
  refine ⟨hl, ha, ?_, hplaces, ran, hran.symm.trans hplaces, hrest⟩
  rw [hentries]
  rfl

end Update

end SchemaMigration
