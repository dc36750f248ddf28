import Mathlib.Logic.Function.Iterate
import Mathlib.Tactic.Set
import SchemaMigration.Baseline.Resolve
import SchemaMigration.Proofs.Program.Layers

/-! # Turns — how the resolution of a baseline ends

    The table of allowed transitions and the steps are written separately, and a
    step hears whatever the operator, the downloader, the runner and the files
    answer.  The two agree: from every stage a step leads to an allowed one, and so the way
    from the first stage to a final one is short:

    * `Reached` says what has been run and downloaded when a stage is reached;
    * `step_leads` is the step lemma, with one lemma for each kind of stage;
    * `turn` takes a step and reports it, without a look at the table;
    * `resolve_ends`: the resolution is a few turns, all of them allowed, and its
      last stage tells what was run. -/

namespace SchemaMigration.Baseline

open Program

/-! ## Calls of the runner and of the downloader -/

/-- The call of the script runner that an exchange is, with its outcome. -/
def run? : Exchange Site.interface → Option (Exchange Runner.interface)
  | ⟨.runner q, outcome⟩ => some ⟨q, outcome⟩
  | _ => none

/-- The address that an exchange downloads from, with the place to write to. -/
def download? : Exchange Site.interface → Option (String × Path)
  | ⟨.download url destination, _⟩ => some (url, destination)
  | _ => none

/-- The calls of the script runner, in order. -/
def runs (past : List (Exchange Site.interface)) : List (Exchange Runner.interface) :=
  past.filterMap run?

/-- The downloads, in order. -/
def downloads (past : List (Exchange Site.interface)) : List (String × Path) :=
  past.filterMap download?

variable {past : List (Exchange Site.interface)} {m : Exchange Site.interface}

theorem runs_append (past more : List (Exchange Site.interface)) :
    runs (past ++ more) = runs past ++ runs more := List.filterMap_append

theorem downloads_append (past more : List (Exchange Site.interface)) :
    downloads (past ++ more) = downloads past ++ downloads more := List.filterMap_append

theorem runs_append_of_eq_none (h : run? m = none) : runs (past ++ [m]) = runs past := by
  have hone : runs [m] = [] := List.filterMap_cons_none h
  rw [runs_append, hone, List.append_nil]

theorem downloads_append_of_eq_none (h : download? m = none) :
    downloads (past ++ [m]) = downloads past := by
  have hone : downloads [m] = [] := List.filterMap_cons_none h
  rw [downloads_append, hone, List.append_nil]

/-- Nothing was run, and there were a few downloads at most. -/
structure Unrun (limit : Nat) (past : List (Exchange Site.interface)) : Prop where
  idle : runs past = []
  few : (downloads past).length ≤ limit

theorem Unrun.mono {limit more : Nat} (h : Unrun limit past) (hle : limit ≤ more) :
    Unrun more past := ⟨h.idle, Nat.le_trans h.few hle⟩

/-- An exchange that neither runs nor downloads leaves it at that. -/
theorem Unrun.append {limit : Nat} (h : Unrun limit past) (hrun : run? m = none)
    (hdownload : download? m = none) : Unrun limit (past ++ [m]) := by
  constructor
  · rw [runs_append_of_eq_none hrun]
    exact h.idle
  · rw [downloads_append_of_eq_none hdownload]
    exact h.few

/-- The first file that is run is the only call of the runner. -/
theorem Unrun.run {limit : Nat} (h : Unrun limit past) (connection : Connection) (file : Path)
    (outcome : Except DatabaseError Int) :
    runs (past ++ [⟨.runner (.file connection file), outcome⟩])
        = [⟨.file connection file, outcome⟩]
      ∧ (downloads (past ++ [⟨.runner (.file connection file), outcome⟩])).length ≤ limit := by
  constructor
  · rw [runs_append, h.idle]
    rfl
  · rw [downloads_append_of_eq_none rfl]
    exact h.few

/-! ## What has happened at a stage -/

/-- A file was applied, over some connection, and ended with status zero. -/
def Applied (file : Path) (past : List (Exchange Site.interface)) : Prop :=
  ∃ connection, (⟨.file connection file, .ok 0⟩ : Exchange Runner.interface) ∈ runs past

/-- No file is applied where nothing was run. -/
theorem not_applied_of_idle (h : runs past = []) (file : Path) : ¬Applied file past := by
  rintro ⟨connection, hmem⟩
  rw [h] at hmem
  exact nomatch hmem

/-- Where one file was run, it is applied if it ended with status zero, and no other is. -/
theorem applied_iff_of_runs {connection : Connection} {file other : Path}
    {outcome : Except DatabaseError Int} (h : runs past = [⟨.file connection file, outcome⟩]) :
    Applied other past ↔ other = file ∧ outcome = .ok 0 := by
  rw [Applied, h]
  constructor
  · rintro ⟨connection', hmem⟩
    injection List.mem_singleton.mp hmem with hcall houtcome
    injection hcall with hconnection hfile
    subst hconnection hfile
    exact ⟨rfl, houtcome.symm⟩
  · rintro ⟨rfl, rfl⟩
    exact ⟨connection, List.mem_singleton_self _⟩

namespace Resolver

variable (r : Resolver)

/-- What has been run and downloaded when a stage is reached. -/
def Reached : Stage → List (Exchange Site.interface) → Prop
  | .needed, past => Unrun 0 past
  | .downloading _, past => Unrun 0 past
  | .fallback, past => Unrun 0 past
  | .applying _, past => Unrun 1 past
  | .done none, past => Unrun 0 past
  | .done (some file), past =>
      runs past = [⟨.file r.connection file, .ok 0⟩] ∧ (downloads past).length ≤ 1
  | .failed _, past =>
      (runs past = [] ∨ ∃ file outcome, outcome ≠ .ok 0
        ∧ runs past = [⟨.file r.connection file, outcome⟩]) ∧ (downloads past).length ≤ 1

variable {r} {σ : Type} {answer : (q : Site.Request) → σ → q.Reply × σ} {s : σ}

/-- Where nothing was run, a failure is all that can be told. -/
theorem reached_failed {reason : String} (h : Unrun 1 past) : r.Reached (.failed reason) past :=
  ⟨Or.inl h.idle, h.few⟩

/-- A file that was run and did not end with status zero is not applied. -/
theorem reached_failed_of_run {reason : String} (h : Unrun 1 past) (file : Path)
    {outcome : Except DatabaseError Int} (hne : outcome ≠ .ok 0) :
    r.Reached (.failed reason) (past ++ [⟨.runner (.file r.connection file), outcome⟩]) := by
  obtain ⟨hruns, hfew⟩ := h.run r.connection file outcome
  exact ⟨Or.inr ⟨file, outcome, hne, hruns⟩, hfew⟩

/-- After a failure at most one file was run, and none is applied. -/
theorem Reached.unapplied {reason : String} (h : r.Reached (.failed reason) past) :
    (runs past).length ≤ 1 ∧ ∀ file, ¬Applied file past := by
  rcases h.1 with hidle | ⟨file, outcome, hne, hruns⟩
  · refine ⟨?_, not_applied_of_idle hidle⟩
    rw [hidle]
    exact Nat.zero_le 1
  · refine ⟨?_, fun other happlied => hne ((applied_iff_of_runs hruns).mp happlied).2⟩
    rw [hruns]
    exact Nat.le_refl 1

/-- An exchange that neither runs nor downloads changes nothing of this. -/
theorem Reached.append {stage : Stage} (h : r.Reached stage past) (hrun : run? m = none)
    (hdownload : download? m = none) : r.Reached stage (past ++ [m]) := by
  cases stage with
  | done applied =>
      cases applied with
      | none => exact Unrun.append h hrun hdownload
      | some file =>
          rwa [Reached, runs_append_of_eq_none hrun, downloads_append_of_eq_none hdownload]
  | failed reason =>
      rwa [Reached, runs_append_of_eq_none hrun, downloads_append_of_eq_none hdownload]
  | _ => exact Unrun.append h hrun hdownload

variable (answer r) in
/-- A part of the machine leads from a stage to an allowed one, and to what is true there. -/
def Leads (stage : Stage) (part : Program Site.interface Stage)
    (past : List (Exchange Site.interface)) (s : σ) : Prop :=
  part.Keeps answer (fun _ _ => True)
    (fun next past _ => stage.canBecome next = true ∧ r.Reached next past) past s

/-- A question may have any answer. -/
theorem leads_ask {stage : Stage} {q : Site.Request} {next : q.Reply → Program Site.interface Stage}
    (h : ∀ reply t, r.Leads answer stage (next reply) (past ++ [⟨q, reply⟩]) t) :
    r.Leads answer stage (.ask q next) past s := ⟨trivial, h _ _⟩

/-- The first turn runs and downloads nothing, whatever it decides. -/
theorem start_leads (h : Unrun 0 past) : r.Leads answer .needed r.start past s := by
  rw [start]
  cases r.baseFile with
  | none => exact leads_ask fun _ _ => ⟨rfl, h.append rfl rfl⟩
  | some base =>
      cases r.remoteUrl with
      | some url =>
          cases r.automatic with
          | true => exact leads_ask fun _ _ => ⟨rfl, h.append rfl rfl⟩
          | false =>
              refine leads_ask fun agreed t => ?_
              cases agreed with
              | true => exact ⟨rfl, h.append rfl rfl⟩
              | false => exact ⟨rfl, h.append rfl rfl⟩
      | none =>
          refine leads_ask fun there t => ?_
          have hasked : Unrun 0 (past ++ [⟨.machine (.isFile base), there⟩]) := h.append rfl rfl
          cases there with
          -- A bundled file goes straight to being applied, where one download would be allowed
          -- for.
          | true => exact ⟨rfl, hasked.mono (Nat.zero_le 1)⟩
          | false =>
              cases r.automatic with
              | true => exact ⟨rfl, reached_failed (hasked.mono (Nat.zero_le 1))⟩
              | false => exact ⟨rfl, hasked⟩

/-- Downloading is tried once, and runs nothing. -/
theorem fetch_leads (h : Unrun 0 past) (url : String) :
    r.Leads answer (.downloading url) (r.fetch url) past s := by
  rw [fetch]
  cases r.baseFile with
  | none => exact ⟨rfl, reached_failed (h.mono (Nat.zero_le 1))⟩
  | some base =>
      refine leads_ask fun outcome t => ?_
      have hloaded : Unrun 1 (past ++ [⟨.download url base, outcome⟩]) := by
        constructor
        · rw [runs_append, h.idle]
          rfl
        · rw [downloads_append, List.length_append]
          exact Nat.add_le_add_right h.few 1
      cases outcome with
      | ok done => exact leads_ask fun _ _ => ⟨rfl, hloaded.append rfl rfl⟩
      | error e =>
          exact leads_ask fun _ _ => ⟨rfl, reached_failed (hloaded.append rfl rfl)⟩

/-- Looking for a file of the operator's own runs and downloads nothing. -/
theorem localFile_leads (h : Unrun 0 past) : r.Leads answer .fallback localFile past s := by
  refine leads_ask fun given t => ?_
  have hasked := h.append (m := ⟨.operator (.askPath "Enter full path to local SQL file"), given⟩)
    rfl rfl
  cases given with
  | none => exact leads_ask fun _ _ => ⟨rfl, hasked.append rfl rfl⟩
  | some text =>
      refine leads_ask fun there t => ?_
      have hlooked := hasked.append (m := ⟨.machine (.isFile ⟨text⟩), there⟩) rfl rfl
      cases there with
      | true =>
          exact leads_ask fun _ _ => ⟨rfl, (hlooked.append rfl rfl).mono (Nat.zero_le 1)⟩
      | false => exact ⟨rfl, reached_failed (hlooked.mono (Nat.zero_le 1))⟩

theorem decline_leads (h : Unrun 0 past) : r.Leads answer .fallback decline past s :=
  leads_ask fun _ _ => ⟨rfl, h.append rfl rfl⟩

/-- Looking for the bundled file runs and downloads nothing. -/
theorem bundledFile_leads (h : Unrun 0 past) :
    r.Leads answer .fallback r.bundledFile past s := by
  rw [bundledFile]
  cases r.baseFile with
  | none => exact decline_leads h
  | some base =>
      refine leads_ask fun there t => ?_
      have hlooked := h.append (m := ⟨.machine (.isFile base), there⟩) rfl rfl
      cases there with
      | false => exact decline_leads hlooked
      | true =>
          refine leads_ask fun agreed t => ?_
          have hasked := hlooked.append (m := ⟨.operator (.confirm
            s!"Use the bundled base file '{base.text}' instead?"), agreed⟩) rfl rfl
          cases agreed with
          | false => exact decline_leads hasked
          | true =>
              exact leads_ask fun _ _ => ⟨rfl, (hasked.append rfl rfl).mono (Nat.zero_le 1)⟩

/-- Choosing a file to fall back on runs and downloads nothing. -/
theorem choose_leads (h : Unrun 0 past) : r.Leads answer .fallback r.choose past s := by
  refine leads_ask fun own t => ?_
  have hasked := h.append (m := ⟨.operator (.confirm
    "Do you want to use an existing local SQL file instead?"), own⟩) rfl rfl
  cases own with
  | true => exact localFile_leads hasked
  | false => exact bundledFile_leads hasked

/-- A dump that ends with status zero is applied, and any other outcome is a failure. -/
theorem applyFile_leads (h : Unrun 1 past) (file : Path) :
    r.Leads answer (.applying file) (r.applyFile file) past s := by
  refine leads_ask fun _ _ => leads_ask fun outcome _ => ?_
  have hreported := h.append (m := ⟨.machine (.log (.info .baseline
    s!">> Applying '{file.text}'...")), ()⟩) rfl rfl
  cases outcome with
  | error e => exact ⟨rfl, reached_failed_of_run hreported file nofun⟩
  | ok status =>
      cases status with
      | ofNat n =>
          cases n with
          | zero => exact ⟨rfl, hreported.run r.connection file (.ok 0)⟩
          | succ n => exact ⟨rfl, reached_failed_of_run hreported file nofun⟩
      | negSucc n => exact ⟨rfl, reached_failed_of_run hreported file nofun⟩

/-- From every stage that is not final, a step leads to an allowed one. -/
theorem step_leads {stage : Stage} (hstage : stage.isFinal = false)
    (h : r.Reached stage past) : r.Leads answer stage (r.step stage) past s := by
  cases stage with
  | needed => exact start_leads h
  | downloading url => exact fetch_leads h url
  | fallback => exact choose_leads h
  | applying file => exact applyFile_leads h file
  | done applied => exact nomatch hstage
  | failed reason => exact nomatch hstage

/-! ## Turns -/

variable (r) in
/-- What is reported of a transition. -/
def announced (stage next : Stage) : Log.Line :=
  .debug .baseline s!"{r.policy.displayName} baseline: {stage.describe} -> {next.describe}"

variable (answer r) in
/-- One turn: the step from a stage, and the report of where it led. -/
def turn (m : Stage × σ) : Stage × σ :=
  (((r.step m.1).run answer m.2).1,
    (answer (.machine (.log (r.announced m.1 ((r.step m.1).run answer m.2).1)))
      ((r.step m.1).run answer m.2).2).2)

/-- In a final stage there is nothing left to do. -/
theorem resolveFrom_of_final {stage : Stage} (h : stage.isFinal = true) :
    r.resolveFrom stage = .done stage := by
  rw [resolveFrom, if_pos h]
  rfl

/-- What follows a step: its report and the next one, where the table allows it. -/
theorem resolveFrom_eq {stage : Stage} (h : stage.isFinal = false) :
    r.resolveFrom stage = (r.step stage).bind fun next =>
      if stage.canBecome next = true then
        .ask (.machine (.log (r.announced stage next))) fun _ => r.resolveFrom next
      else .done (.failed
        s!"invalid baseline transition from {stage.describe} to {next.describe}") := by
  rw [resolveFrom, if_neg (by rw [h]; exact Bool.false_ne_true)]
  rfl

variable (answer) in
/-- Resolving from a stage turns a few times, each time in an allowed way, and ends. -/
theorem resolveFrom_turns (stage : Stage) (h : r.Reached stage past) (s : σ) :
    (∃ n ≤ stage.rank, (r.resolveFrom stage).run answer s = (r.turn answer)^[n] (stage, s)
      ∧ ∀ i < n, ((r.turn answer)^[i] (stage, s)).1.canBecome
          ((r.turn answer)^[i + 1] (stage, s)).1 = true)
    ∧ ((r.resolveFrom stage).run answer s).1.isFinal = true
    ∧ r.Reached ((r.resolveFrom stage).run answer s).1
        (past ++ ((r.resolveFrom stage).trail answer s).map Prod.fst) := by
  -- Induction on the rank, which every allowed transition lowers.
  induction hrank : stage.rank using Nat.strongRecOn generalizing stage past s with
  | ind rank ih =>
      subst hrank
      cases hfinal : stage.isFinal with
      | true =>
          rw [resolveFrom_of_final hfinal]
          refine ⟨⟨0, Nat.zero_le _, rfl, fun i hi => absurd hi (Nat.not_lt_zero i)⟩, hfinal, ?_⟩
          show r.Reached stage (past ++ [])
          rw [List.append_nil]
          exact h
      | false =>
          have hstep : r.Leads answer stage (r.step stage) past s := step_leads hfinal h
          obtain ⟨hallowed, hreached⟩ := Keeps.outcome hstep
          set m := r.turn answer (stage, s) with hm
          have hrun : (r.resolveFrom stage).run answer s
              = (r.resolveFrom m.1).run answer m.2 := by
            rw [resolveFrom_eq hfinal, run_bind, if_pos hallowed]
            rfl
          have htrail : (r.resolveFrom stage).trail answer s = (r.step stage).trail answer s
              ++ (⟨.machine (.log (r.announced stage m.1)), ()⟩, m.2)
                :: (r.resolveFrom m.1).trail answer m.2 := by
            rw [resolveFrom_eq hfinal, trail_bind, if_pos hallowed]
            rfl
          have hlower := Stage.rank_lt_of_canBecome hallowed
          obtain ⟨⟨n, hn, hturns, hlegal⟩, hend, hlast⟩ := ih m.1.rank hlower m.1
            (hreached.append (m := ⟨.machine (.log (r.announced stage m.1)), ()⟩) rfl rfl) m.2 rfl
          rw [hrun, htrail]
          refine ⟨⟨n + 1, Nat.lt_of_le_of_lt hn hlower, hturns, fun i hi => ?_⟩, hend, ?_⟩
          · cases i with
            | zero => exact hallowed
            | succ i => exact hlegal i (Nat.lt_of_succ_lt_succ hi)
          · simpa using hlast

variable (answer r) in
/-- The resolution of a baseline ends legally, whatever it is answered.  It is at most three
    turns of the machine, each of them a transition that is allowed, so that it never stops
    because of one that is not; it ends in a final stage; the runner and the downloader are
    called at most once; a file is reported as applied exactly if the runner applied it with
    status zero; and nothing is reported as done only if neither of them was called. -/
theorem resolve_ends (s : σ) :
    (∃ n ≤ 3, r.resolve.run answer s = (r.turn answer)^[n] (.needed, s)
      ∧ ∀ i < n, ((r.turn answer)^[i] (.needed, s)).1.canBecome
          ((r.turn answer)^[i + 1] (.needed, s)).1 = true)
    ∧ (r.resolve.run answer s).1.isFinal = true
    ∧ (runs ((r.resolve.trail answer s).map Prod.fst)).length ≤ 1
    ∧ (downloads ((r.resolve.trail answer s).map Prod.fst)).length ≤ 1
    ∧ (∀ file, (r.resolve.run answer s).1 = .done (some file)
        ↔ Applied file ((r.resolve.trail answer s).map Prod.fst))
    ∧ ((r.resolve.run answer s).1 = .done none →
        runs ((r.resolve.trail answer s).map Prod.fst) = []
          ∧ downloads ((r.resolve.trail answer s).map Prod.fst) = []) := by
  have hstart : r.Reached .needed [] := ⟨rfl, Nat.le_refl 0⟩
  obtain ⟨hturns, hfinal, hreached⟩ := resolveFrom_turns answer .needed hstart s
  rw [List.nil_append] at hreached
  refine ⟨hturns, hfinal, ?_⟩
  change r.Reached (r.resolve.run answer s).1 ((r.resolve.trail answer s).map Prod.fst)
    at hreached
  change (r.resolve.run answer s).1.isFinal = true at hfinal
  -- What is left to show depends on the stage in the end and on what was reached in it.
  generalize (r.resolve.trail answer s).map Prod.fst = past at hreached ⊢
  cases hlast : (r.resolve.run answer s).1 with
  | done applied =>
      rw [hlast] at hreached
      cases applied with
      | none =>
          refine ⟨?_, Nat.le_trans hreached.few (Nat.zero_le 1), fun file => ?_, fun _ => ?_⟩
          · rw [hreached.idle]
            exact Nat.zero_le 1
          · exact iff_of_false nofun (not_applied_of_idle hreached.idle file)
          · exact ⟨hreached.idle, List.eq_nil_of_length_eq_zero (Nat.le_zero.mp hreached.few)⟩
      | some file =>
          obtain ⟨hruns, hfew⟩ := hreached
          refine ⟨?_, hfew, fun other => ?_, nofun⟩
          · rw [hruns]
            exact Nat.le_refl 1
          · rw [applied_iff_of_runs hruns, and_iff_left rfl]
            constructor
            · intro heq
              injection heq with hsome
              exact (Option.some.inj hsome).symm
            · rintro rfl
              rfl
  | failed reason =>
      rw [hlast] at hreached
      obtain ⟨hfew, hnot⟩ := hreached.unapplied
      exact ⟨hfew, hreached.2, fun file => iff_of_false nofun (hnot file), nofun⟩
  | _ => rw [hlast] at hfinal; exact nomatch hfinal

end Resolver

end SchemaMigration.Baseline
