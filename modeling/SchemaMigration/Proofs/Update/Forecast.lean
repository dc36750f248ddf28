import SchemaMigration.Proofs.Update.Outcome

/-! # Forecasts — the numbers of a run, read off its plan

    A run reports how many scripts it ran, how many of them had no record before,
    how many records it archived and how many it removed.  The last number is made
    up of answers of the ledger, one for each dead record, yet all four are known
    beforehand: a plan holds the counters as they were listed, nothing that comes
    before touches a dead record, and each is counted once. -/

namespace SchemaMigration

open Ledger Plan

namespace Plan

/-- The dead records that go when the plan is carried out: a negative limit keeps all. -/
def overdue (p : Plan) (options : Options) : List DeadReference :=
  if options.deadRunLimit < 0 then []
  else p.dead.filter fun d => decide (((d.missingRuns + 1 : Nat) : Int) > options.deadRunLimit)

/-- The pending scripts without a record of their own. -/
def fresh (p : Plan) (known : List Record) : List PlannedFile :=
  p.pending.filter fun e => decide (∀ r ∈ known, r.path ≠ e.script.path)

/-- What a plan tells of the run that carries it out, for the records that it was made from. -/
def forecast (p : Plan) (known : List Record) (options : Options) : Update.Summary where
  updated := p.pending.length
  recent := (p.fresh known).length
  archived := p.count "archived-redundant"
  cleaned := (p.overdue options).length

variable {input : Input}

theorem recordAt?_eq_none_iff {records : List Record} {path : String} :
    recordAt? records path = none ↔ ∀ r ∈ records, r.path ≠ path := by
  simp [recordAt?]

/-- A pending script has no record of its own, or one of another content. -/
theorem contentChanged_iff_of_pending {e : PlannedFile} (he : e ∈ (build input).pending) :
    e.verdict = .pending .contentChanged ↔ recordAt? input.records e.script.path ≠ none := by
  obtain ⟨hl, hp⟩ := mem_pending_iff.mp he
  obtain ⟨taken, hfirst⟩ := first_of_liveEntry hl fun kept hv => by
    rw [hv] at hp
    exact nomatch hp
  generalize e.verdict = verdict at hfirst hp ⊢
  cases hfirst with
  | applied h hh => exact nomatch hp
  | rehash h hh hb ha => exact nomatch hp
  | changed h hh hb => exact iff_of_true rfl (by rw [h]; exact Option.some_ne_none _)
  | new h ha => exact iff_of_false nofun (not_not.mpr h)
  | renamed h hf ha => exact nomatch hp
  | notMoved h hf ha => exact iff_of_false nofun (not_not.mpr h)
  | redundant h hr hf ho => exact nomatch hp
  | duplicate h hr hf ho => exact iff_of_false nofun (not_not.mpr h)

/-- A run counts the scripts as new that had no record. -/
theorem fresh_build (input : Input) :
    (build input).fresh input.records
      = (build input).pending.filter fun e => e.verdict ≠ .pending .contentChanged := by
  refine List.filter_congr fun e he => ?_
  rw [decide_eq_decide, ← recordAt?_eq_none_iff, ne_eq, contentChanged_iff_of_pending he, not_not]

end Plan

namespace Update

open Surroundings

variable {σ : Type} {w : Surroundings σ} {s t : σ}
variable {live archived : List Script} {options : Options}

/-! ## Removed records are counted -/

/-- The counter of a path if its file is missed once more. -/
def nextCounter (v : View) (path : String) : Nat :=
  ((v path).map fun r => readCounter (r.missingRuns + 1)).getD 0

/-- A dead record is counted as removed if it is beyond the limit then. -/
theorem bury_answers {limit n : Nat} {path : String}
    (h : w.perform (bury limit path) s = (.ok n, t)) :
    n = if nextCounter (w.view s) path > limit then 1 else 0 := by
  rw [bury] at h
  obtain ⟨missing, u, hu, h⟩ := perform_bind.mp h
  obtain ⟨-, rfl⟩ := countMissing_ok hu
  show n = if nextCounter (w.view s) path > limit then 1 else 0
  by_cases hm : nextCounter (w.view s) path > limit
  · rw [if_pos hm]
    -- Whether the record goes is decided by the counter that was just read.
    change w.perform (if nextCounter (w.view s) path > limit then _ else _) u = _ at h
    rw [if_pos hm] at h
    obtain ⟨⟨⟩, u₁, -, h⟩ := perform_bind.mp h
    obtain ⟨⟨⟩, u₂, -, h⟩ := perform_bind.mp h
    exact (perform_pure.mp h).1.symm
  · rw [if_neg hm]
    change w.perform (if nextCounter (w.view s) path > limit then _ else _) u = _ at h
    rw [if_neg hm] at h
    obtain ⟨⟨⟩, u₁, -, h⟩ := perform_bind.mp h
    exact (perform_pure.mp h).1.symm

/-- A counter is not disturbed by another dead record. -/
theorem nextCounter_bury {limit n : Nat} {path q : String}
    (h : w.perform (bury limit path) s = (.ok n, t)) (hq : q ≠ path) :
    nextCounter (w.view t) q = nextCounter (w.view s) q := by
  rw [nextCounter, bury_ok h, if_neg hq, nextCounter]

/-- The answers for different records add up, as one does not disturb the other. -/
theorem buryAll_answers {limit n : Nat} {ds : List DeadReference}
    (hn : (ds.map DeadReference.path).Nodup) (h : w.perform (buryAll limit ds) s = (.ok n, t)) :
    n = (ds.filter fun d => decide (nextCounter (w.view s) d.path > limit)).length := by
  induction ds generalizing s t n with
  | nil => exact (perform_pure.mp h).1.symm
  | cons d rest ih =>
      obtain ⟨hd, hrest⟩ := List.nodup_cons.mp hn
      obtain ⟨one, u, hu, h⟩ := perform_bind.mp h
      obtain ⟨others, u₁, hu₁, h⟩ := perform_bind.mp h
      -- Burying one reference leaves the counters of the others, so all can be judged in the first
      -- state.
      have hsame : ∀ d' ∈ rest,
          nextCounter (w.view u) d'.path = nextCounter (w.view s) d'.path := by
        intro d' hd'
        exact nextCounter_bury hu fun heq => hd (heq ▸ List.mem_map_of_mem hd')
      have hothers : others
          = (rest.filter fun d => decide (nextCounter (w.view s) d.path > limit)).length := by
        rw [ih hrest hu₁]
        exact congrArg _ (List.filter_congr fun d' hd' => by rw [hsame d' hd'])
      rw [← (perform_pure.mp h).1, bury_answers hu, hothers, List.filter_cons]
      by_cases hm : nextCounter (w.view s) d.path > limit
      · rw [if_pos hm, if_pos (decide_eq_true hm), List.length_cons, Nat.add_comm]
      · rw [if_neg hm, if_neg (by simpa using hm), Nat.zero_add]

/-- Cleaning up removes as many records as the plan says are overdue. -/
theorem cleanUp_answers {p : Plan} {n : Nat} (hn : (p.dead.map DeadReference.path).Nodup)
    (hdisjoint : ∀ q ∈ p.recovered, q ∉ p.dead.map DeadReference.path)
    (hcounters : ∀ d ∈ p.dead, nextCounter (w.view s) d.path = d.missingRuns + 1)
    (h : w.perform (cleanUp p options) s = (.ok n, t)) : n = (p.overdue options).length := by
  rw [cleanUp] at h
  rw [overdue]
  by_cases hneg : options.deadRunLimit < 0
  · rw [limit?_of_neg hneg] at h
    rw [if_pos hneg]
    exact (perform_pure.mp h).1.symm
  · rw [limit?_of_nonneg (Int.not_lt.mp hneg)] at h
    rw [if_neg hneg]
    obtain ⟨⟨⟩, u, hu, h⟩ := perform_bind.mp h
    rw [buryAll_answers hn h]
    refine congrArg _ (List.filter_congr fun d hd => ?_)
    have hnot : d.path ∉ p.recovered := fun hrec => hdisjoint _ hrec (List.mem_map_of_mem hd)
    have hnext : nextCounter (w.view u) d.path = d.missingRuns + 1 := by
      rw [← hcounters d hd, nextCounter, clearAll_ok hu, if_neg hnot, nextCounter]
    rw [hnext, decide_eq_decide]
    omega

/-! ## Whole runs -/

/-- A dead record as it is stored, with the counter that the plan knows. -/
theorem view_of_dead {d : DeadReference}
    (hd : d ∈ (w.planFor live archived options s).dead) :
    ∃ r, w.view s d.path = some r ∧ readCounter r.missingRuns = d.missingRuns := by
  obtain ⟨r, hr, -, rfl⟩ := mem_dead_iff.mp hd
  obtain ⟨stored, hstored, rfl⟩ := w.mem_listing_iff.mp hr
  exact ⟨stored, w.mem_records_iff.mp hstored, rfl⟩

/-- A run that succeeds reports what its plan has told. -/
theorem summary_eq_forecast (hn : (live.map Script.path).Nodup)
    (hcounters : ∀ r ∈ w.records s, r.missingRuns < 2 ^ 32 - 1) {summary : Summary}
    (h : w.perform (apply (w.planFor live archived options s) options) s = (.ok summary, t)) :
    summary = (w.planFor live archived options s).forecast (w.records s) options := by
  rw [apply] at h
  obtain ⟨⟨⟩, s₁, h₁, h⟩ := perform_bind.mp h
  obtain ⟨⟨⟩, s₂, h₂, h⟩ := perform_bind.mp h
  obtain ⟨cleaned, s₃, h₃, h⟩ := perform_bind.mp h
  -- Nothing before has touched a dead record, so its counter is still the one of the plan.
  have hcleaned := cleanUp_answers dead_planFor_nodup (fun _ => not_dead_of_recovered)
    (fun d hd => by
      obtain ⟨r, hr, hcounter⟩ := view_of_dead hd
      have hsmall := hcounters r (mem_of_viewOf hr)
      rw [readCounter_of_lt (by omega)] at hcounter
      rw [nextCounter, dead_kept hn h₁ h₂ hd, hr, ← hcounter]
      exact readCounter_of_lt (by omega)) h₃
  have hfresh : (w.planFor live archived options s).fresh (w.records s)
      = (w.planFor live archived options s).pending.filter
          fun e => e.verdict ≠ .pending .contentChanged := by
    rw [planFor, ← fresh_build]
    refine List.filter_congr fun e _ => decide_eq_decide.mpr ?_
    rw [inputFor, listing, List.forall_mem_map]
    exact Iff.rfl
  rw [← (perform_pure.mp h).1, forecast, hfresh, ← hcleaned]

end Update

end SchemaMigration
