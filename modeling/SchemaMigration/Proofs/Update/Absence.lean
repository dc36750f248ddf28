import SchemaMigration.Proofs.Program.Layers
import SchemaMigration.Proofs.Update.Completion
import SchemaMigration.Proofs.Update.Forecast

/-! # Absences — how long a record outlives its file

    A counter is touched in five ways: it is raised, reset, moved along with its
    record, set to zero by a new record, and it goes with its record.  Over any
    number of runs it still tells one thing only, which is for how many runs on
    end the file of its record has been missing:

    * `removed_update`: what a successful run removes, read off its plan;
    * `completed_of_ok`: a successful run has done all that its plan asks for;
    * `Completed.counted`, `Completed.gone_iff`: what one run makes of the
      counters, and which records are gone after it;
    * `Succession` is a sequence of runs with files and options of their own, and
      `absences` counts the last runs in which a path was dead;
    * `counters_are_absences`: the counters of all records are their absences. -/

namespace SchemaMigration.Update

open Ledger Plan Program Surroundings

variable {σ : Type} {w : Surroundings σ} {s t u : σ}
variable {live archived : List Script} {options : Options} {source : ScriptSource}

/-! ## Removed records -/

/-- The path whose record an exchange removes. -/
def removal? : Exchange interface → Option String
  | ⟨.ledger (.change (.remove path)), .ok ()⟩ => some path
  | _ => none

/-- The paths whose records a part of a run removes, in order. -/
def removed (w : Surroundings σ) {α : Type} (part : Run α) (s : σ) : List String :=
  (part.run.trail w.answer s).filterMap fun m => removal? m.1

theorem removed_bind {α β : Type} {part : Run α} (next : α → Run β) {a : α}
    (h : w.perform part s = (.ok a, u)) :
    removed w (part >>= next) s = removed w part s ++ removed w (next a) u := by
  rw [removed, trail_attempt_of_ok next h, List.filterMap_append]
  rfl

/-- What never asks for a removal removes nothing. -/
theorem removed_of_asks {α : Type} {part : Run α} {allowed : Request → Prop}
    (hasks : part.run.Asks allowed)
    (h : ∀ q, allowed q → ∀ path, q ≠ .ledger (.change (.remove path))) :
    removed w part s = [] := by
  have hnone : ∀ m : Exchange interface, allowed m.1 → removal? m = none := by
    rintro ⟨q, reply⟩ hq
    cases q with
    | ledger op =>
        cases op with
        | change c =>
            cases c with
            | remove path => exact absurd rfl (h _ hq path)
            | _ => rfl
        | _ => rfl
    | _ => rfl
  exact hasks.filterMap_trail hnone s

/-- A plan without dead records removes none. -/
theorem Allowed.ne_remove {p : Plan} {q : Request} (h : Allowed p q) (hdead : p.dead = [])
    (path : String) : q ≠ .ledger (.change (.remove path)) := by
  rintro rfl
  cases h with
  | tend h =>
      cases h with
      | settle he hc =>
          rcases ledgerChange_cases hc with ⟨old, -, heq⟩ | ⟨-, heq⟩ | ⟨record, -, heq⟩
          · exact nomatch heq
          · exact nomatch heq
          · exact nomatch heq
      | remove hd =>
          rw [hdead] at hd
          exact nomatch hd

theorem removed_settleAll (es : List PlannedFile) : removed w (settleAll es) s = [] :=
  removed_of_asks (settleAll_asks (p := ⟨es, [], []⟩) es fun _ h => h)
    fun _ hq => (Allowed.tend hq).ne_remove rfl

theorem removed_clearAll (paths : List String) : removed w (clearAll paths) s = [] :=
  removed_of_asks (clearAll_asks (p := ⟨[], [], paths⟩) paths fun _ h => h)
    fun _ hq => (Allowed.tend hq).ne_remove rfl

theorem removed_applyAll {p : Plan} : removed w (applyAll p.pending) s = [] :=
  removed_of_asks (applyAll_asks (p := ⟨p.entries, [], []⟩) p.pending fun _ h => h)
    fun _ hq => hq.ne_remove rfl

theorem removed_remove {path : String} (h : w.perform (change (.remove path)) s = (.ok (), t)) :
    removed w (change (.remove path)) s = [path] := by
  have hok : (w.answer (.ledger (.change (.remove path))) s).1 = .ok () := congrArg Prod.fst h
  have hone : removal? ⟨.ledger (.change (.remove path)),
      (w.answer (.ledger (.change (.remove path))) s).1⟩ = some path := by
    rw [hok]
    rfl
  exact List.filterMap_cons_some (f := fun m : Exchange interface × σ => removal? m.1) hone

/-- A dead record is removed if its counter is beyond the limit then. -/
theorem removed_bury {limit n : Nat} {path : String}
    (h : w.perform (bury limit path) s = (.ok n, t)) :
    removed w (bury limit path) s
      = if nextCounter (w.view s) path > limit then [path] else [] := by
  rw [bury] at h ⊢
  obtain ⟨missing, u, hu, h⟩ := perform_bind.mp h
  obtain ⟨-, hmissing⟩ := countMissing_ok hu
  change missing = nextCounter (w.view s) path at hmissing
  have hcount : removed w (countMissing path) s = [] := rfl
  rw [removed_bind _ hu, hcount, List.nil_append]
  rw [hmissing] at h ⊢
  by_cases hm : nextCounter (w.view s) path > limit
  · rw [if_pos hm] at h
    rw [if_pos hm, if_pos hm]
    obtain ⟨⟨⟩, u₁, hu₁, h⟩ := perform_bind.mp h
    obtain ⟨⟨⟩, u₂, hu₂, -⟩ := perform_bind.mp h
    rw [removed_bind _ hu₁, removed_bind _ hu₂, removed_remove hu₂]
    rfl
  · rw [if_neg hm, if_neg hm]
    rfl

/-- Dead records are removed in the order of the plan. -/
theorem removed_buryAll {limit n : Nat} {ds : List DeadReference}
    (hn : (ds.map DeadReference.path).Nodup) (h : w.perform (buryAll limit ds) s = (.ok n, t)) :
    removed w (buryAll limit ds) s
      = (ds.filter fun d => decide (nextCounter (w.view s) d.path > limit)).map
          DeadReference.path := by
  induction ds generalizing s t n with
  | nil => rfl
  | cons d rest ih =>
      obtain ⟨hd, hrest⟩ := List.nodup_cons.mp hn
      rw [buryAll] at h ⊢
      obtain ⟨one, u, hu, h⟩ := perform_bind.mp h
      obtain ⟨others, u₁, hu₁, -⟩ := perform_bind.mp h
      have hsame : rest.filter (fun d => decide (nextCounter (w.view u) d.path > limit))
          = rest.filter fun d => decide (nextCounter (w.view s) d.path > limit) :=
        List.filter_congr fun d' hd' => by rw [nextCounter_bury hu fun heq =>
          hd (heq ▸ List.mem_map_of_mem hd')]
      rw [removed_bind _ hu, removed_bind _ hu₁, removed_bury hu, ih hrest hu₁, hsame,
        List.filter_cons]
      have hpure : removed w (pure (one + others)) u₁ = [] := rfl
      rw [hpure, List.append_nil]
      by_cases hm : nextCounter (w.view s) d.path > limit
      · rw [if_pos hm, if_pos (decide_eq_true hm)]
        rfl
      · rw [if_neg hm, if_neg (by simpa using hm)]
        rfl

/-- Nothing is removed before counters are looked after, and then what is beyond the limit. -/
theorem removed_apply {summary : Summary} (hn : (live.map Script.path).Nodup) {limit : Nat}
    (hlimit : options.limit? = some limit)
    (h : w.perform (apply (w.planFor live archived options s) options) s = (.ok summary, t)) :
    removed w (apply (w.planFor live archived options s) options) s
      = ((w.planFor live archived options s).dead.filter
          fun d => decide (nextCounter (w.view s) d.path > limit)).map DeadReference.path := by
  rw [apply] at h ⊢
  obtain ⟨⟨⟩, s₁, h₁, h⟩ := perform_bind.mp h
  obtain ⟨⟨⟩, s₂, h₂, h⟩ := perform_bind.mp h
  obtain ⟨cleaned, s₃, h₃, -⟩ := perform_bind.mp h
  rw [removed_bind _ h₁, removed_bind _ h₂, removed_bind _ h₃, removed_settleAll,
    removed_applyAll, List.nil_append, List.nil_append]
  rw [cleanUp, hlimit] at h₃ ⊢
  obtain ⟨⟨⟩, s₄, h₄, h₃⟩ := perform_bind.mp h₃
  have hpure : ∀ summary : Summary, removed w (pure summary) s₃ = [] := fun _ => rfl
  rw [removed_bind _ h₄, removed_clearAll, List.nil_append,
    removed_buryAll dead_planFor_nodup h₃, hpure, List.append_nil]
  -- Nothing before has touched a dead record, so its counter is the one at the start.
  refine congrArg _ (List.filter_congr fun d hd => ?_)
  have hnot : d.path ∉ (w.planFor live archived options s).recovered := fun hrec =>
    not_dead_of_recovered hrec (List.mem_map_of_mem hd)
  rw [nextCounter, clearAll_ok h₄, if_neg hnot, dead_kept hn h₁ h₂ hd, nextCounter]

/-- A successful run removes the dead records whose counters are beyond the limit then. -/
theorem removed_update {summary : Summary} (hn : (live.map Script.path).Nodup)
    (hscan : (w.answer (.scan source) s).1 = .ok (live, archived)) {limit : Nat}
    (hlimit : options.limit? = some limit)
    (h : w.perform (update source options) s = (.ok summary, t)) :
    removed w (update source options) s
      = ((w.planFor live archived options s).dead.filter
          fun d => decide (nextCounter (w.view s) d.path > limit)).map DeadReference.path := by
  rw [update] at h
  obtain ⟨p, u, hp, happly⟩ := perform_bind.mp h
  obtain ⟨live', archived', hscan', hu, rfl⟩ := plan_ok hp
  obtain ⟨rfl, rfl⟩ := Prod.mk.inj (Except.ok.inj (hscan.symm.trans hscan'))
  have hplan : removed w (plan source options) s = [] :=
    removed_of_asks (plan_asks source options) fun q hq path heq => by
      rw [heq] at hq
      cases hq
  have hsame := w.planFor_eq_of_records_eq hu live archived options
  rw [update, removed_bind _ hp, hplan, List.nil_append]
  rw [← hsame] at happly ⊢
  rw [← view_eq_of_records_eq w hu]
  exact removed_apply hn hlimit happly

/-! ## One run -/

/-- A successful run has done all that its plan asks for. -/
theorem completed_of_ok {summary : Summary} (hn : (live.map Script.path).Nodup)
    (hcounters : ∀ r ∈ w.records s, r.missingRuns < 2 ^ 32 - 1)
    (hscan : (w.answer (.scan source) s).1 = .ok (live, archived))
    (h : w.perform (update source options) s = (.ok summary, t)) :
    Completed w live archived options s t := by
  obtain ⟨v, hsettled, ht⟩ := settled_of_ok hn hscan h
  exact completed_of_settled hsettled hcounters ht

namespace Completed

/-- A record that is left has been counted if it is dead, within the limit, and has no
    counter otherwise. -/
theorem counted (h : Completed w live archived options s t) {limit : Nat}
    (hlimit : options.limit? = some limit) {r : Record} (hr : r ∈ w.records t) :
    (∃ r₀ ∈ w.records s, r₀.path = r.path ∧ r.path ∈ deadPaths w live archived options s
        ∧ r.missingRuns = r₀.missingRuns + 1 ∧ r.missingRuns ≤ limit)
      ∨ r.path ∉ deadPaths w live archived options s ∧ r.missingRuns = 0 := by
  have hview : w.view t r.path = some r := w.mem_records_iff.mp hr
  by_cases hd : r.path ∈ deadPaths w live archived options s
  · left
    obtain ⟨d, hdead, hpath⟩ := List.mem_map.mp hd
    obtain ⟨r₀, hr₀, hafter⟩ := h.dead d hdead
    rw [hlimit, hpath, hview] at hafter
    change some r = if r₀.missingRuns + 1 > limit then none else some r₀.counted at hafter
    -- A record beyond the limit would not be there any more.
    by_cases hm : r₀.missingRuns + 1 > limit
    · rw [if_pos hm] at hafter
      exact nomatch hafter
    · rw [if_neg hm] at hafter
      obtain rfl := Option.some.inj hafter
      exact ⟨r₀, mem_of_viewOf hr₀, rfl, hd, rfl, Nat.le_of_not_gt hm⟩
  · exact Or.inr ⟨hd, h.counter limit hlimit _ r hview hd⟩

/-- Under a touched path there is a record afterwards, unless its record was moved. -/
theorem touched_cases (h : Completed w live archived options s t) {e : PlannedFile} {q : String}
    (he : e ∈ (w.planFor live archived options s).entries) (hq : q ∈ touched e) :
    (∃ r, w.view t q = some r) ∨ e.verdict = .renamed q := by
  -- Everything that an entry touches has a record afterwards, but for the name that a move gives
  -- up.
  cases hv : e.verdict with
  | pending reason =>
      have hp : e.verdict.isPending = true := by rw [hv]; rfl
      rw [touched_of_isPending hp] at hq
      obtain ⟨time, speed, hran⟩ := h.ran e (List.mem_filter.mpr ⟨he, hp⟩)
      exact Or.inl (List.mem_singleton.mp hq ▸ ⟨_, hran⟩)
  | renamed old =>
      rw [touched_of_renamed hv] at hq
      obtain ⟨r, -, hnew, -⟩ := h.moved e he old hv
      rcases List.mem_cons.mp hq with rfl | hq
      · exact Or.inr rfl
      · exact Or.inl (List.mem_singleton.mp hq ▸ ⟨_, hnew⟩)
  | rehash =>
      rw [touched_of_rehash hv] at hq
      obtain ⟨r, -, hfilled⟩ := h.filled e he hv
      exact Or.inl (List.mem_singleton.mp hq ▸ ⟨_, hfilled⟩)
  | archivedRedundant record =>
      rw [touched_of_archivedRedundant hv] at hq
      obtain ⟨r, -, hshelved⟩ := h.shelved e he record hv
      exact Or.inl (List.mem_singleton.mp hq ▸ ⟨_, hshelved⟩)
  | _ =>
      rw [touched_of_isQuiet (by rw [hv]; rfl)] at hq
      exact nomatch hq

/-- A record is gone after a run if it was missed beyond the limit, or was moved. -/
theorem gone_iff (h : Completed w live archived options s t) {limit : Nat}
    (hlimit : options.limit? = some limit) {r : Record} (hr : r ∈ w.records s) :
    w.view t r.path = none
      ↔ (r.path ∈ deadPaths w live archived options s ∧ limit < r.missingRuns + 1)
        ∨ ∃ e ∈ (w.planFor live archived options s).entries, e.verdict = .renamed r.path := by
  have hview : w.view s r.path = some r := w.mem_records_iff.mp hr
  by_cases hd : r.path ∈ deadPaths w live archived options s
  · -- A dead record is not touched, so its counter alone decides.
    obtain ⟨d, hdead, hpath⟩ := List.mem_map.mp hd
    obtain ⟨r₀, hr₀, hafter⟩ := h.dead d hdead
    rw [hpath] at hr₀ hafter
    obtain rfl := Option.some.inj (hview.symm.trans hr₀)
    rw [hlimit] at hafter
    change w.view t r.path = if r.missingRuns + 1 > limit then none else some r.counted at hafter
    have hstays : ¬∃ e ∈ (w.planFor live archived options s).entries,
        e.verdict = .renamed r.path := by
      rintro ⟨e, he, hv⟩
      refine not_dead_of_touched (List.mem_flatMap.mpr ⟨e, he, ?_⟩) hd
      rw [touched_of_renamed hv]
      exact List.mem_cons_self
    rw [hafter, or_iff_left hstays, and_iff_right hd]
    by_cases hm : r.missingRuns + 1 > limit
    · rw [if_pos hm]
      exact iff_of_true rfl hm
    · rw [if_neg hm]
      exact iff_of_false nofun hm
  · rw [or_iff_right fun hboth => hd hboth.1]
    constructor
    · intro hgone
      by_cases htouch : r.path ∈ (w.planFor live archived options s).entries.flatMap touched
      · obtain ⟨e, he, hq⟩ := List.mem_flatMap.mp htouch
        rcases h.touched_cases he hq with ⟨r', hr'⟩ | hv
        · exact nomatch hgone.symm.trans hr'
        · exact ⟨e, he, hv⟩
      · rw [h.kept _ htouch hd, hview] at hgone
        exact nomatch hgone
    · rintro ⟨e, he, hv⟩
      obtain ⟨r₀, -, -, hgone⟩ := h.moved e he _ hv
      exact hgone

end Completed

/-! ## Many runs -/

/-- One run among others: what it was asked for, what it found, and the states around it. -/
structure Episode (σ : Type) where
  source : ScriptSource
  options : Options
  live : List Script
  archived : List Script
  before : σ
  after : σ

namespace Episode

variable (w) (e : Episode σ)

/-- The plan of the run. -/
def plan : Plan := w.planFor e.live e.archived e.options e.before

/-- The paths of the dead references of the run. -/
def dead : List String := deadPaths w e.live e.archived e.options e.before

/-- The paths whose records the run removes. -/
def removed : List String := Update.removed w (update e.source e.options) e.before

end Episode

/-- Successful runs one after another, each with files and options of its own.  Between
    two runs anything may happen, but not to the records. -/
structure Succession (w : Surroundings σ) (n : Nat) (episode : Nat → Episode σ) : Prop where
  found : ∀ t < n, (w.answer (.scan (episode t).source) (episode t).before).1
    = .ok ((episode t).live, (episode t).archived)
  distinct : ∀ t < n, ((episode t).live.map Script.path).Nodup
  success : ∀ t < n, ∃ summary,
    w.perform (update (episode t).source (episode t).options) (episode t).before
      = (.ok summary, (episode t).after)
  between : ∀ t, t + 1 < n → w.records (episode (t + 1)).before = w.records (episode t).after

/-- In how many runs on end a path was dead, counted back from the last of `t` runs. -/
def absences (w : Surroundings σ) (episode : Nat → Episode σ) (t : Nat) (path : String) : Nat :=
  ((List.range t).reverse.takeWhile fun i => decide (path ∈ (episode i).dead w)).length

variable {n : Nat} {episode : Nat → Episode σ}

theorem absences_zero (path : String) : absences w episode 0 path = 0 := rfl

/-- One more run in which the path is dead adds one, and any other run starts anew. -/
theorem absences_succ (t : Nat) (path : String) :
    absences w episode (t + 1) path
      = if path ∈ (episode t).dead w then absences w episode t path + 1 else 0 := by
  rw [absences, List.range_succ, List.reverse_append, List.reverse_singleton,
    List.singleton_append, List.takeWhile_cons]
  by_cases hd : path ∈ (episode t).dead w
  · rw [if_pos hd, decide_eq_true hd]
    rfl
  · rw [if_neg hd, decide_eq_false hd]
    rfl

theorem absences_succ_of_dead {t : Nat} {path : String} (hd : path ∈ (episode t).dead w) :
    absences w episode (t + 1) path = absences w episode t path + 1 := by
  rw [absences_succ, if_pos hd]

theorem absences_succ_of_not_dead {t : Nat} {path : String} (hd : path ∉ (episode t).dead w) :
    absences w episode (t + 1) path = 0 := by
  rw [absences_succ, if_neg hd]

/-- Every counter tells for how many runs its record has been dead, and is small. -/
def Counted (w : Surroundings σ) (episode : Nat → Episode σ) (t : Nat) (s : σ) : Prop :=
  ∀ r ∈ w.records s, r.missingRuns = absences w episode t r.path ∧ r.missingRuns < 2 ^ 31

namespace Succession

/-- Each run of a succession has completed, as long as its counters could be read. -/
theorem completed (h : Succession w n episode) {t : Nat} (ht : t < n)
    (hcounted : Counted w episode t (episode t).before) :
    Completed w (episode t).live (episode t).archived (episode t).options (episode t).before
      (episode t).after := by
  obtain ⟨summary, hok⟩ := h.success t ht
  refine completed_of_ok (h.distinct t ht) (fun r hr => ?_) (h.found t ht) hok
  have := (hcounted r hr).2
  omega

/-- A run keeps the counters right. -/
theorem counted_step (h : Succession w n episode) {t : Nat} (ht : t < n) {limit : Nat}
    (hlimit : (episode t).options.limit? = some limit) (hsmall : limit < 2 ^ 31)
    (hcounted : Counted w episode t (episode t).before) :
    Counted w episode (t + 1) (episode t).after := by
  intro r hr
  rcases (h.completed ht hcounted).counted hlimit hr with
    ⟨r₀, hr₀, hpath, hd, hgrown, hle⟩ | ⟨hd, hzero⟩
  · have hcounter := (hcounted r₀ hr₀).1
    rw [hpath] at hcounter
    rw [absences_succ_of_dead hd, hgrown, hcounter]
    exact ⟨rfl, by omega⟩
  · rw [absences_succ_of_not_dead hd, hzero]
    exact ⟨rfl, Nat.two_pow_pos 31⟩

/-- The counters are right before every run. -/
theorem counted_before (h : Succession w n episode) {limit : Nat → Nat}
    (hlimit : ∀ t < n, (episode t).options.limit? = some (limit t) ∧ limit t < 2 ^ 31)
    (hfresh : ∀ r ∈ w.records (episode 0).before, r.missingRuns = 0) {t : Nat} (ht : t < n) :
    Counted w episode t (episode t).before := by
  induction t with
  | zero =>
      intro r hr
      rw [hfresh r hr, absences_zero]
      exact ⟨rfl, Nat.two_pow_pos 31⟩
  | succ t ih =>
      have hbefore := ih (Nat.lt_of_succ_lt ht)
      obtain ⟨hsome, hsmall⟩ := hlimit t (Nat.lt_of_succ_lt ht)
      intro r hr
      rw [h.between t ht] at hr
      exact h.counted_step (Nat.lt_of_succ_lt ht) hsome hsmall hbefore r hr

/-- A run removes the dead records that were missed beyond the limit. -/
theorem mem_removed_iff (h : Succession w n episode) {t : Nat} (ht : t < n) {limit : Nat}
    (hlimit : (episode t).options.limit? = some limit)
    (hcounted : Counted w episode t (episode t).before) {path : String} :
    path ∈ (episode t).removed w
      ↔ path ∈ (episode t).dead w ∧ limit < absences w episode (t + 1) path := by
  obtain ⟨summary, hok⟩ := h.success t ht
  rw [Episode.removed, removed_update (h.distinct t ht) (h.found t ht) hlimit hok]
  -- The counter of a dead record, raised by one, is what its path has been absent for.
  have hnext : path ∈ (episode t).dead w →
      nextCounter (w.view (episode t).before) path = absences w episode (t + 1) path := by
    intro hd
    obtain ⟨r, hr, -⟩ := mem_dead_iff_view.mp hd
    obtain ⟨hcounter, hsmall⟩ := hcounted r (mem_of_viewOf hr)
    rw [absences_succ_of_dead hd, nextCounter, hr, ← path_of_view hr, ← hcounter]
    exact readCounter_of_lt (by omega)
  rw [List.mem_map]
  constructor
  · rintro ⟨d, hmem, rfl⟩
    obtain ⟨hd, hover⟩ := List.mem_filter.mp hmem
    have hdead : d.path ∈ (episode t).dead w := List.mem_map_of_mem hd
    rw [hnext hdead] at hover
    exact ⟨hdead, of_decide_eq_true hover⟩
  · rintro ⟨hdead, hover⟩
    obtain ⟨d, hd, rfl⟩ := List.mem_map.mp hdead
    rw [← hnext hdead] at hover
    exact ⟨d, List.mem_filter.mpr ⟨hd, decide_eq_true hover⟩, rfl⟩

end Succession

/-- Counters are absences.  Over any number of successful runs, each with files and options
    of its own and with a limit that is a number of 31 bits, from counters that are all
    zero: after every run the counter of a record tells in how many runs on end, that one
    included, its path was dead; a run removes a path exactly if it is dead and was so more
    often than the limit of that run; and no record goes in another way, unless it is moved
    to the new path of its file. -/
theorem counters_are_absences (h : Succession w n episode)
    (hlimits : ∀ t < n, 0 ≤ (episode t).options.deadRunLimit
      ∧ (episode t).options.deadRunLimit < 2 ^ 31)
    (hfresh : ∀ r ∈ w.records (episode 0).before, r.missingRuns = 0) :
    ∀ t < n,
      (∀ r ∈ w.records (episode t).after, r.missingRuns = absences w episode (t + 1) r.path)
      ∧ (∀ path, path ∈ (episode t).removed w ↔ path ∈ (episode t).dead w
          ∧ (episode t).options.deadRunLimit < absences w episode (t + 1) path)
      ∧ ∀ r ∈ w.records (episode t).before, w.view (episode t).after r.path = none
          ↔ r.path ∈ (episode t).removed w
            ∨ ∃ e ∈ ((episode t).plan w).entries, e.verdict = .renamed r.path := by
  have hlimit : ∀ t < n, (episode t).options.limit?
      = some (episode t).options.deadRunLimit.toNat
      ∧ (episode t).options.deadRunLimit.toNat < 2 ^ 31 := by
    intro t ht
    obtain ⟨hpos, hsmall⟩ := hlimits t ht
    rw [Options.limit?, if_neg (by omega)]
    exact ⟨rfl, by omega⟩
  intro t ht
  obtain ⟨hsome, hsmall⟩ := hlimit t ht
  have hcounted := h.counted_before hlimit hfresh ht
  refine ⟨fun r hr => (h.counted_step ht hsome hsmall hcounted r hr).1, fun path => ?_,
    fun r hr => ?_⟩
  · rw [h.mem_removed_iff ht hsome hcounted, Int.toNat_lt (hlimits t ht).1]
  · rw [(h.completed ht hcounted).gone_iff hsome hr, h.mem_removed_iff ht hsome hcounted]
    refine or_congr_left (and_congr_right fun hd => ?_)
    rw [absences_succ_of_dead hd, (hcounted r hr).1]

/-- Two records without a counter; the file of one of them is there for the second run only. -/
def absenceBench : Bench :=
  ⟨[([], []), ([Bench.live "back.sql" "kept"], []), ([], [])], [],
    [Bench.applied "back.sql" "kept", Bench.applied "gone.sql" "old"], by decide⟩

/-- The options of the runs: the last one allows one run without a file. -/
def absenceOptions : Nat → Options
  | 2 => ⟨true, true, false, 1⟩
  | _ => .standard

/-- The moments between the runs. -/
def absenceMoment : Nat → Bench
  | 0 => absenceBench
  | t + 1 =>
      (Bench.surroundings.perform (update Bench.source (absenceOptions t)) (absenceMoment t)).2

/-- The runs, each with what it finds. -/
def absenceEpisode (t : Nat) : Episode Bench where
  source := Bench.source
  options := absenceOptions t
  live := (absenceMoment t).scan.1.1
  archived := (absenceMoment t).scan.1.2
  before := absenceMoment t
  after := absenceMoment (t + 1)

/-- The record that is missed three times goes in the third run; the other one, whose file
    was back in between, stays with a counter of one. -/
theorem counters_are_absences_three_runs :
    absences Bench.surroundings absenceEpisode 3 "gone.sql" = 3
    ∧ absences Bench.surroundings absenceEpisode 3 "back.sql" = 1
    ∧ "gone.sql" ∈ (absenceEpisode 2).removed Bench.surroundings
    ∧ "back.sql" ∉ (absenceEpisode 2).removed Bench.surroundings
    ∧ ∀ r ∈ Bench.surroundings.records (absenceEpisode 2).after,
        r.missingRuns = absences Bench.surroundings absenceEpisode 3 r.path := by
  have h : Succession Bench.surroundings 3 absenceEpisode := by
    constructor
    case found => exact fun t _ => rfl
    case distinct =>
      have hlive : (absenceEpisode 1).live = [Bench.live "back.sql" "kept"] := by cbv
      have hnone : (absenceEpisode 2).live = [] := by cbv
      intro t ht
      interval_cases t
      · exact List.nodup_nil
      · rw [hlive]
        exact List.nodup_singleton _
      · rw [hnone]
        exact List.nodup_nil
    case success =>
      intro t ht
      interval_cases t
      · exact ⟨⟨0, 0, 0, 0⟩, Prod.ext (by cbv) rfl⟩
      · exact ⟨⟨0, 0, 0, 0⟩, Prod.ext (by cbv) rfl⟩
      · exact ⟨⟨0, 0, 0, 1⟩, Prod.ext (by cbv) rfl⟩
    case between => exact fun t _ => rfl
  have hlimits : ∀ t < 3, 0 ≤ (absenceEpisode t).options.deadRunLimit
      ∧ (absenceEpisode t).options.deadRunLimit < 2 ^ 31 := by
    intro t ht
    interval_cases t
    · decide
    · decide
    · decide
  have hfresh : ∀ r ∈ Bench.surroundings.records (absenceEpisode 0).before,
      r.missingRuns = 0 := by decide
  have hgone : absences Bench.surroundings absenceEpisode 3 "gone.sql" = 3 := by cbv
  have hback : absences Bench.surroundings absenceEpisode 3 "back.sql" = 1 := by cbv
  obtain ⟨hcounters, hremoved, -⟩ := counters_are_absences h hlimits hfresh 2 (by decide)
  refine ⟨hgone, hback, (hremoved _).mpr ⟨?_, ?_⟩, fun hback' => ?_, hcounters⟩
  · by_contra hd
    rw [absences_succ_of_not_dead hd] at hgone
    exact absurd hgone (by decide)
  · rw [hgone]
    decide
  · have := ((hremoved _).mp hback').2
    rw [hback] at this
    exact absurd this (by decide)

end SchemaMigration.Update
