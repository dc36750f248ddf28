import SchemaMigration.Proofs.Update.Bench
import SchemaMigration.Proofs.Update.Progress

/-! # Fixed points — repeated runs come to rest

    Runs over the same files and with the same options soon have nothing to do.
    Each kind of work can happen in the first few runs only, as it needs the same
    kind of work in every run before and uses something up:

    * work on live scripts needs unmatched scripts (`LiveWork.lt`);
    * archiving needs loose records (`ArchiveWork.lt`);
    * dead records need room below the limit (`dead_le`).

    A plan without work leaves the ledger alone, so the next plan has none either
    (`noop_update`); `repeated_runs_rest` puts the bounds together. -/

namespace SchemaMigration.Update

open Ledger Plan Program

variable {σ : Type} {w : Surroundings σ} {s : σ}
variable {live archived : List Script} {options : Options} {source : ScriptSource}

/-! ## No-ops -/

/-- A plan is a no-op if there is no work of any kind. -/
theorem isNoop_iff : (w.planFor live archived options s).isNoop = true
    ↔ ¬LiveWork w live archived options s ∧ ¬ArchiveWork w live archived options s
      ∧ deadPaths w live archived options s = []
      ∧ (w.planFor live archived options s).recovered = [] := by
  have hentries : ((w.planFor live archived options s).entries.all fun e => e.verdict.isQuiet)
      = true ↔ ¬LiveWork w live archived options s ∧ ¬ArchiveWork w live archived options s := by
    rw [Surroundings.planFor, entries_build, List.all_append, Bool.and_eq_true]
    simp only [LiveWork, ArchiveWork, List.all_eq_true, not_exists, not_and, Bool.not_eq_false]
  rw [Plan.isNoop, Bool.and_eq_true, Bool.and_eq_true, hentries, List.isEmpty_iff, List.isEmpty_iff,
    deadPaths, List.map_eq_nil_iff, and_assoc, and_assoc]

/-- A no-op neither changes the ledger nor runs a script. -/
theorem Allowed.of_noop {p : Plan} {q : Request} (h : Allowed p q) (hp : p.isNoop = true) :
    q.change? = none ∧ ∀ location, q ≠ .runScript location := by
  rw [Plan.isNoop, Bool.and_eq_true, Bool.and_eq_true, List.isEmpty_iff, List.isEmpty_iff] at hp
  obtain ⟨⟨hquiet, hdead⟩, hrecovered⟩ := hp
  have hpending : ∀ e, e ∉ p.pending := by
    intro e he
    obtain ⟨hmem, hrun⟩ := List.mem_filter.mp he
    exact nomatch (List.all_eq_true.mp hquiet e hmem).symm.trans (isQuiet_of_isPending hrun)
  cases h with
  | tend h =>
      cases h with
      | log line => exact ⟨rfl, nofun⟩
      | @settle e c he hc =>
          rw [ledgerChange_of_isQuiet (List.all_eq_true.mp hquiet e he)] at hc
          exact nomatch hc
      | clear hp => rw [hrecovered] at hp; exact nomatch hp
      | count hd => rw [hdead] at hd; exact nomatch hd
      | remove hd => rw [hdead] at hd; exact nomatch hd
  | stopwatch => exact ⟨rfl, nofun⟩
  | run he => exact absurd he (hpending _)
  | record he => exact absurd he (hpending _)

/-- A program that changes nothing on its trail leaves the records as they are. -/
theorem records_of_quiet_trail {α : Type} (p : Program interface α) :
    ∀ s, (∀ m ∈ p.trail w.answer s, m.1.1.change? = none) →
      w.records (p.run w.answer s).2 = w.records s := by
  induction p with
  | done a => exact fun s _ => rfl
  | ask q next ih =>
      intro s h
      have hq : q.change? = none := h _ List.mem_cons_self
      rw [run_ask, ih _ _ fun m hm => h m (List.mem_cons_of_mem _ hm)]
      exact w.quiet q s hq

/-- A run whose plan is a no-op neither runs a script nor changes the ledger. -/
theorem noop_update (hscan : (w.answer (.scan source) s).1 = .ok (live, archived))
    (hnoop : (w.planFor live archived options s).isNoop = true) :
    (∀ m ∈ (update source options).run.trail w.answer s,
        m.1.1.change? = none ∧ ∀ location, m.1.1 ≠ .runScript location)
      ∧ w.records ((update source options).run.run w.answer s).2 = w.records s := by
  have hquiet : ∀ m ∈ (update source options).run.trail w.answer s,
      m.1.1.change? = none ∧ ∀ location, m.1.1 ≠ .runScript location := by
    intro m hm
    rcases mem_trail_update hm with h | h | ⟨line, h⟩ | ⟨live', archived', hscan', h⟩
    · rw [h]; exact ⟨rfl, nofun⟩
    · rw [h]; exact ⟨rfl, nofun⟩
    · rw [h]; exact ⟨rfl, nofun⟩
    · obtain ⟨rfl, rfl⟩ := Prod.mk.inj (Except.ok.inj (hscan.symm.trans hscan'))
      exact h.of_noop hnoop
  exact ⟨hquiet, records_of_quiet_trail _ s fun m hm => (hquiet m hm).1⟩

/-! ## Repeated runs -/

/-- Successful runs one after another that find the same files: run `t` leads from
    `moment t` to `moment (t + 1)`. -/
structure Repeated (w : Surroundings σ) (source : ScriptSource) (options : Options)
    (live archived : List Script) (n : Nat) (moment : Nat → σ) : Prop where
  found : ∀ t < n, (w.answer (.scan source) (moment t)).1 = .ok (live, archived)
  success : ∀ t < n, ∃ summary,
    w.perform (update source options) (moment t) = (.ok summary, moment (t + 1))

variable {n : Nat} {moment : Nat → σ}

theorem Repeated.outcome (h : Repeated w source options live archived n moment)
    (hn : (live.map Script.path).Nodup) {t : Nat} (ht : t < n) :
    Outcome w live archived options (moment t) (moment (t + 1)) := by
  obtain ⟨summary, hok⟩ := h.success t ht
  exact update_outcome hn (h.found t ht) hok

/-- What never starts again, and lowers a measure whenever it happens, happens in the
    first steps only. -/
theorem lt_of_wearing {busy : Nat → Prop} (measure : Nat → Nat)
    (before : ∀ t < n, busy (t + 1) → busy t)
    (lower : ∀ t < n, busy t → measure (t + 1) < measure t) {t : Nat} (ht : t < n)
    (hbusy : busy t) : t < measure 0 := by
  -- Busy after `t` steps means busy in all of them, each of which lowered the measure.
  have hspent : ∀ t ≤ n, busy t → measure t + t ≤ measure 0 := by
    intro t
    induction t with
    | zero => exact fun _ _ => Nat.le_refl _
    | succ t ih =>
        intro ht hbusy
        have hbefore := before t ht hbusy
        have hlower := lower t ht hbefore
        have := ih (Nat.le_of_succ_le ht) hbefore
        omega
  have hleft := lower t ht hbusy
  have := hspent t (Nat.le_of_lt ht) hbusy
  omega

/-- Work on live scripts ends after as many runs as there are live scripts. -/
theorem LiveWork.lt (h : Repeated w source options live archived n moment)
    (hn : (live.map Script.path).Nodup) {t : Nat} (ht : t < n)
    (hwork : LiveWork w live archived options (moment t)) : t < live.length := by
  refine Nat.lt_of_lt_of_le (lt_of_wearing (fun t => (unmatched w live (moment t)).length)
    (fun t ht hwork => hwork.before (h.outcome hn ht) hn)
    (fun t ht hwork => unmatched_lt (h.outcome hn ht) hn hwork) ht hwork) ?_
  exact List.length_filter_le _ _

/-- Archiving ends after as many runs as there were records. -/
theorem ArchiveWork.lt (h : Repeated w source options live archived n moment)
    (hn : (live.map Script.path).Nodup) {t : Nat} (ht : t < n)
    (hwork : ArchiveWork w live archived options (moment t)) :
    t < (w.records (moment 0)).length := by
  refine Nat.lt_of_lt_of_le (lt_of_wearing (fun t => (loosePaths w live (moment t)).length)
    (fun t ht hwork => hwork.before (h.outcome hn ht))
    (fun t ht hwork => loosePaths_lt (h.outcome hn ht) hwork) ht hwork) ?_
  exact length_loosePaths_le

/-- The counter of a dead record grows with every run, up to the limit. -/
theorem counter_of_dead (h : Repeated w source options live archived n moment)
    (hn : (live.map Script.path).Nodup) {limit : Nat} (hlimit : options.limit? = some limit)
    (hsmall : limit < 2 ^ 31) (hcount : ∀ r ∈ w.records (moment 0), r.missingRuns < 2 ^ 32 - 1)
    {t : Nat} (ht : t ≤ n) {path : String}
    (hd : path ∈ deadPaths w live archived options (moment t)) :
    ∃ r, w.view (moment t) path = some r ∧ t ≤ r.missingRuns
      ∧ r.missingRuns < 2 ^ 32 - 1 ∧ (t = 0 ∨ r.missingRuns ≤ limit) := by
  -- Induction on the runs, backwards: a dead record was dead and one lower before.
  induction t with
  | zero =>
      obtain ⟨r, hr, -⟩ := mem_dead_iff_view.mp hd
      exact ⟨r, hr, Nat.zero_le _, hcount r (mem_of_viewOf hr), Or.inl rfl⟩
  | succ t ih =>
      obtain ⟨hbefore, r, hr, hr', hle⟩ := dead_before (h.outcome hn ht) hlimit hd
      obtain ⟨r₀, hr₀, hgrown, hfits, -⟩ := ih (Nat.le_of_succ_le ht) hbefore
      obtain rfl := Option.some.inj (hr.symm.trans hr₀)
      rw [readCounter_of_lt (by omega)] at hle
      have hcounted : r.counted.missingRuns = r.missingRuns + 1 := rfl
      exact ⟨r.counted, hr', by omega, by omega, Or.inr (by omega)⟩

/-- No record is dead after more runs than the limit. -/
theorem dead_le (h : Repeated w source options live archived n moment)
    (hn : (live.map Script.path).Nodup) {limit : Nat} (hlimit : options.limit? = some limit)
    (hsmall : limit < 2 ^ 31) (hcount : ∀ r ∈ w.records (moment 0), r.missingRuns < 2 ^ 32 - 1)
    {t : Nat} (ht : t ≤ n) (hd : deadPaths w live archived options (moment t) ≠ []) :
    t ≤ limit := by
  obtain ⟨path, hpath⟩ := List.exists_mem_of_ne_nil _ hd
  obtain ⟨r, -, hgrown, -, hroom⟩ := counter_of_dead h hn hlimit hsmall hcount ht hpath
  omega

/-- A plan with work comes early. -/
theorem lt_of_not_noop (h : Repeated w source options live archived n moment)
    (hn : (live.map Script.path).Nodup) {limit : Nat} (hlimit : options.limit? = some limit)
    (hsmall : limit < 2 ^ 31) (hcount : ∀ r ∈ w.records (moment 0), r.missingRuns < 2 ^ 32 - 1)
    {t : Nat} (ht : t < n)
    (hnoop : (w.planFor live archived options (moment t)).isNoop ≠ true) :
    t < live.length + (w.records (moment 0)).length + limit + 2 := by
  by_contra hlate
  have hidle : ¬LiveWork w live archived options (moment t) := fun hwork => by
    have := hwork.lt h hn ht
    omega
  have hsettled : ¬ArchiveWork w live archived options (moment t) := fun hwork => by
    have := hwork.lt h hn ht
    omega
  refine hnoop (isNoop_iff.mpr ⟨hidle, hsettled, ?_, ?_⟩)
  · by_contra hd
    have := dead_le h hn hlimit hsmall hcount (Nat.le_of_lt ht) hd
    omega
  · -- A recovered record needs other work in the same plan, which has ended.
    by_contra hrec
    obtain ⟨path, hpath⟩ := List.exists_mem_of_ne_nil _ hrec
    obtain ⟨before, rfl⟩ := Nat.exists_eq_succ_of_ne_zero (show t ≠ 0 by omega)
    rcases recovered_before (h.outcome hn (Nat.lt_of_succ_lt ht)) hlimit hpath with hw | hw
    · exact hidle hw
    · exact hsettled hw

/-- Once a plan is a no-op, the next one is. -/
theorem noop_succ (h : Repeated w source options live archived n moment) {t : Nat} (ht : t < n)
    (hnoop : (w.planFor live archived options (moment t)).isNoop = true) :
    (w.planFor live archived options (moment (t + 1))).isNoop = true
      ∧ w.records (moment (t + 1)) = w.records (moment t) := by
  obtain ⟨summary, hok⟩ := h.success t ht
  have hsame : w.records (moment (t + 1)) = w.records (moment t) := by
    have hend : ((update source options).run.run w.answer (moment t)).2 = moment (t + 1) :=
      congrArg Prod.snd hok
    rw [← hend]
    exact (noop_update (h.found t ht) hnoop).2
  refine ⟨?_, hsame⟩
  have hplan : w.planFor live archived options (moment (t + 1))
      = w.planFor live archived options (moment t) := by
    rw [Surroundings.planFor, Surroundings.inputFor, Surroundings.listing, hsame]
    rfl
  rw [hplan]
  exact hnoop

theorem noop_later (h : Repeated w source options live archived n moment) {t u : Nat}
    (htu : t ≤ u) (hu : u ≤ n)
    (hnoop : (w.planFor live archived options (moment t)).isNoop = true) :
    (w.planFor live archived options (moment u)).isNoop = true := by
  induction htu with
  | refl => exact hnoop
  | step _ ih => exact (noop_succ h hu (ih (Nat.le_of_succ_le hu))).1

/-- Repeated runs reach a fixed point.  With `m` as the limit, which is a signed number of
    32 bits, at most `|U| + |R| + m + 2` runs have a plan that is no no-op; once a plan is a
    no-op, every later one is, and no later run executes a script or changes the ledger; and
    no script is executed after as many runs as there are live scripts. -/
theorem repeated_runs_rest {m : Nat} (h : Repeated w source options live archived n moment)
    (hn : (live.map Script.path).Nodup) (hm : options.deadRunLimit = m) (hsmall : m < 2 ^ 31)
    (hcount : ∀ r ∈ w.records (moment 0), r.missingRuns < 2 ^ 32 - 1) :
    ((List.range n).filter fun t =>
        !(w.planFor live archived options (moment t)).isNoop).length
      ≤ live.length + (w.records (moment 0)).length + m + 2
    ∧ (∀ t u, t ≤ u → u ≤ n → (w.planFor live archived options (moment t)).isNoop = true →
        (w.planFor live archived options (moment u)).isNoop = true
        ∧ (u < n → w.records (moment (u + 1)) = w.records (moment u)
          ∧ ∀ x ∈ (update source options).run.trail w.answer (moment u),
              x.1.1.change? = none ∧ ∀ location, x.1.1 ≠ .runScript location))
    ∧ ∀ t, live.length ≤ t → t < n →
        ∀ x ∈ (update source options).run.trail w.answer (moment t), ∀ location,
          x.1.1 ≠ .runScript location := by
  have hlimit : options.limit? = some m := by
    rw [Options.limit?, hm, if_neg (by omega)]
    rfl
  refine ⟨?_, ?_, ?_⟩
  · -- The busy runs are among the first ones.
    have hsub : (List.range n).filter (fun t =>
        !(w.planFor live archived options (moment t)).isNoop)
        ⊆ List.range (live.length + (w.records (moment 0)).length + m + 2) := by
      intro t ht
      obtain ⟨hlt, hbusy⟩ := List.mem_filter.mp ht
      rw [Bool.not_eq_true', ← Bool.not_eq_true] at hbusy
      exact List.mem_range.mpr
        (lt_of_not_noop h hn hlimit hsmall hcount (List.mem_range.mp hlt) hbusy)
    have := ((List.nodup_range.filter _).subperm hsub).length_le
    rwa [List.length_range] at this
  · intro t u htu hu hnoop
    have hlater := noop_later h htu hu hnoop
    refine ⟨hlater, fun hlt => ⟨(noop_succ h hlt hlater).2, ?_⟩⟩
    exact (noop_update (h.found u hlt) hlater).1
  · intro t hlate ht
    have hidle : ¬LiveWork w live archived options (moment t) := fun hwork =>
      absurd (hwork.lt h hn ht) (Nat.not_lt_of_le hlate)
    exact runs_nothing_of_pending_eq_nil (h.found t ht) (pending_eq_nil_of_idle hidle)

/-- A new file, and a record whose file is gone for good. -/
def orphanBench : Bench :=
  ⟨[([Bench.live "a.sql" "first"], [])], [], [Bench.applied "gone.sql" "old"], by decide⟩

/-- The moments between runs that keep a record for one run without its file. -/
def orphanMoment : Nat → Bench
  | 0 => orphanBench
  | t + 1 =>
      (Bench.surroundings.perform (update Bench.source ⟨true, true, false, 1⟩) (orphanMoment t)).2

/-- The plan at a moment, for the new file as the only one. -/
def orphanPlan (t : Nat) : Plan :=
  Bench.surroundings.planFor [Bench.live "a.sql" "first"] [] ⟨true, true, false, 1⟩
    (orphanMoment t)

/-- Three runs: the first applies the file and counts the record, the second removes it,
    and the third has nothing to do.  So its plan is the first that is a no-op, it leaves the
    ledger as it is, and a fourth plan would be a no-op again; and no script is run after the
    first run. -/
theorem repeated_runs_rest_orphan :
    ((List.range 3).filter fun t => !(orphanPlan t).isNoop).length ≤ 1 + 1 + 1 + 2
    ∧ (List.range 3).map (fun t => (orphanPlan t).isNoop) = [false, false, true]
    ∧ ((orphanPlan 3).isNoop = true
      ∧ (orphanMoment 3).records = (orphanMoment 2).records
      ∧ ∀ x ∈ (update Bench.source ⟨true, true, false, 1⟩).run.trail Bench.answer
          (orphanMoment 2), x.1.1.change? = none ∧ ∀ location, x.1.1 ≠ .runScript location)
    ∧ ∀ t, 1 ≤ t → t < 3 →
        ∀ x ∈ (update Bench.source ⟨true, true, false, 1⟩).run.trail Bench.answer
          (orphanMoment t), ∀ location, x.1.1 ≠ .runScript location := by
  have h : Repeated Bench.surroundings Bench.source ⟨true, true, false, 1⟩
      [Bench.live "a.sql" "first"] [] 3 orphanMoment := by
    constructor
    · intro t ht
      match t with
      | 0 => rfl
      | 1 => cbv
      | 2 => cbv
    · intro t ht
      match t with
      | 0 => exact ⟨⟨1, 1, 0, 0⟩, Prod.ext (by cbv) rfl⟩
      | 1 => exact ⟨⟨0, 0, 0, 1⟩, Prod.ext (by cbv) rfl⟩
      | 2 => exact ⟨⟨0, 0, 0, 0⟩, Prod.ext (by cbv) rfl⟩
  have hcount : ∀ r ∈ Bench.surroundings.records (orphanMoment 0),
      r.missingRuns < 2 ^ 32 - 1 := by
    intro r hr
    rw [List.mem_singleton.mp hr]
    decide
  have hnoop : (orphanPlan 2).isNoop = true := by cbv
  obtain ⟨hbound, hrest, hlate⟩ := repeated_runs_rest h (by decide) rfl (by decide) hcount
  obtain ⟨-, hthird⟩ := hrest 2 2 (Nat.le_refl 2) (by decide) hnoop
  obtain ⟨hsame, hquiet⟩ := hthird (by decide)
  obtain ⟨hfourth, -⟩ := hrest 2 3 (by decide) (Nat.le_refl 3) hnoop
  exact ⟨hbound, by cbv, ⟨hfourth, hsame, hquiet⟩, hlate⟩

end SchemaMigration.Update
