import SchemaMigration.Proofs.Update.Completion
import SchemaMigration.Proofs.Update.Forecast

/-! # Capacities — changes that fit into the columns of a ledger

    The columns of a table have bounds, and a store may refuse a number that its
    column cannot hold.  A run writes two numbers, how long a script took and a
    counter that has grown by one, and carrying out a plan never asks for one that
    is too big, as long as the stopwatch does not run for ages and no counter is
    at its end:

    * `Fits`: the change leaves every number within its column;
    * `apply_fits`: every change on the way fits where it is made;
    * `Roomy.update_succeeds`: where nothing is refused but what collides or does not
      fit, a run succeeds and reports what its plan has told. -/

namespace SchemaMigration.Update

open Ledger Plan Program Surroundings

variable {σ : Type} {w : Surroundings σ} {s t u : σ}
variable {live archived : List Script} {options : Options}

/-! ## Changes that fit -/

/-- The change leaves every number within its column. -/
def Fits (v : View) : Change → Prop
  | .record _ _ speed => speed < 2 ^ 63
  | .markMissing path => ∀ r, v path = some r → r.missingRuns < 2 ^ 32 - 1
  | _ => True

/-- The ledger refuses nothing but changes that collide or do not fit, and the stopwatch
    stays within the column of speeds. -/
structure Roomy (w : Surroundings σ) : Prop where
  listed : ∀ s error, (w.answer (.ledger .list) s).1 ≠ .error error
  changed : ∀ c s error, (w.answer (.ledger (.change c)) s).1 = .error error →
    Collides (w.view s) c ∨ ¬Fits (w.view s) c
  counted : ∀ path s error, (w.answer (.ledger (.countMissing path)) s).1 = .error error →
    ¬Fits (w.view s) (.markMissing path)
  stopwatch : ∀ s, (w.answer .stopwatch s).1 < 2 ^ 63

/-- The change that a request makes fits. -/
def Fitting (w : Surroundings σ) (q : Request) (s : σ) : Prop :=
  ∀ c, q.change? = some c → Fits (w.view s) c

theorem fitting_of_quiet {q : Request} (h : q.change? = none) (s : σ) : Fitting w q s := by
  intro c hc
  rw [h] at hc
  exact nomatch hc

/-- What a plan without dead records asks for fits everywhere. -/
theorem Tends.fitting {p : Plan} {q : Request} (h : Tends p q) (hdead : p.dead = []) (s : σ) :
    Fitting w q s := by
  intro c hc
  cases h with
  | log line => exact nomatch hc
  | settle he hchange =>
      obtain rfl := Option.some.inj hc
      rcases ledgerChange_cases hchange with ⟨old, -, rfl⟩ | ⟨-, rfl⟩ | ⟨record, -, rfl⟩ <;>
        trivial
  | clear hp => exact Option.some.inj hc ▸ trivial
  | count hd => rw [hdead] at hd; exact nomatch hd
  | remove hd => rw [hdead] at hd; exact nomatch hd

/-! ## Parts of a run -/

theorem settleAll_fits (es : List PlannedFile) (s : σ) :
    (settleAll es).run.Poses w.answer (Fitting w) s :=
  (settleAll_asks (p := ⟨es, [], []⟩) es fun _ h => h).poses (fun _ _ h => h.fitting rfl _) s

theorem clearAll_fits (paths : List String) (s : σ) :
    (clearAll paths).run.Poses w.answer (Fitting w) s :=
  (clearAll_asks (p := ⟨[], [], paths⟩) paths fun _ h => h).poses (fun _ _ h => h.fitting rfl _) s

/-- The speed of a script is a difference of two readings of the stopwatch. -/
theorem applyScript_fits (hw : Roomy w) (x : Script) (s : σ) :
    (applyScript x).run.Poses w.answer (Fitting w) s := by
  rw [applyScript_run]
  refine ⟨fitting_of_quiet rfl _, fitting_of_quiet rfl _, fitting_of_quiet rfl _, ?_⟩
  cases (w.answer (.runScript x.location) _).1 with
  | error cause => trivial
  | ok status =>
      by_cases hs : status = 0
      · subst hs
        rw [ended_zero]
        refine ⟨fitting_of_quiet rfl _, ?_, ?_⟩
        -- The only number that is recorded is the time that the script took.
        · intro c hc
          obtain rfl := Option.some.inj hc
          exact Nat.lt_of_le_of_lt (Nat.sub_le _ _) (hw.stopwatch _)
        · cases (w.answer (.ledger (.change _)) _).1 with
          | ok done => trivial
          | error error => exact ⟨fitting_of_quiet rfl _, trivial⟩
      · rw [ended_of_ne_zero x _ hs]
        trivial

theorem applyAll_fits (hw : Roomy w) (es : List PlannedFile) (s : σ) :
    (applyAll es).run.Poses w.answer (Fitting w) s := by
  induction es generalizing s with
  | nil => trivial
  | cons e rest ih => exact (applyScript_fits hw e.script s).attempt fun _ t _ => ih t

/-- No counter of some paths is at its end. -/
def Countable (w : Surroundings σ) (ds : List DeadReference) (s : σ) : Prop :=
  ∀ d ∈ ds, ∀ r, w.view s d.path = some r → r.missingRuns < 2 ^ 32 - 1

/-- Counting a dead reference once more fits, as long as its counter is not the largest. -/
theorem bury_fits {limit : Nat} {d : DeadReference}
    (h : ∀ r, w.view s d.path = some r → r.missingRuns < 2 ^ 32 - 1) :
    (bury limit d.path).run.Poses w.answer (Fitting w) s := by
  have hcount : (countMissing d.path).run.Poses w.answer (Fitting w) s :=
    ⟨fun c hc => Option.some.inj hc ▸ h, trivial⟩
  refine hcount.attempt fun missing t _ => ?_
  by_cases hm : missing > limit
  · rw [if_pos hm]
    refine ⟨fitting_of_quiet rfl _, fun c hc => Option.some.inj hc ▸ trivial, ?_⟩
    cases (w.answer (.ledger (.change (.remove d.path))) _).1 <;> trivial
  · rw [if_neg hm]
    exact ⟨fitting_of_quiet rfl _, trivial⟩

/-- Every dead record is counted once, so no counter comes to its end on the way. -/
theorem buryAll_fits {limit : Nat} {ds : List DeadReference}
    (hn : (ds.map DeadReference.path).Nodup) (h : Countable w ds s) :
    (buryAll limit ds).run.Poses w.answer (Fitting w) s := by
  induction ds generalizing s with
  | nil => trivial
  | cons d rest ih =>
      obtain ⟨hd, hrest⟩ := List.nodup_cons.mp hn
      refine (bury_fits (h d List.mem_cons_self)).attempt fun one t ht => ?_
      refine (ih hrest fun d' hd' r hr => ?_).attempt fun others u _ => trivial
      have hne : d'.path ≠ d.path := fun heq => hd (heq ▸ List.mem_map_of_mem hd')
      rw [bury_ok ht, if_neg hne] at hr
      exact h d' (List.mem_cons_of_mem _ hd') r hr

/-- Cleaning up fits if the counters of all dead references may grow. -/
theorem cleanUp_fits {p : Plan} (hn : (p.dead.map DeadReference.path).Nodup)
    (hdisjoint : ∀ q ∈ p.recovered, q ∉ p.dead.map DeadReference.path)
    (h : Countable w p.dead s) : (cleanUp p options).run.Poses w.answer (Fitting w) s := by
  rw [cleanUp]
  cases options.limit? with
  | none => trivial
  | some limit =>
      refine (clearAll_fits p.recovered s).attempt fun _ t ht => buryAll_fits hn ?_
      intro d hd r hr
      have hnot : d.path ∉ p.recovered := fun hrec => hdisjoint _ hrec (List.mem_map_of_mem hd)
      rw [clearAll_ok ht, if_neg hnot] at hr
      exact h d hd r hr

/-! ## Whole runs -/

/-- Every change that carrying out a plan asks for fits where it is made. -/
theorem apply_fits (hw : Roomy w) (hn : (live.map Script.path).Nodup)
    (hcounters : ∀ r ∈ w.records s, r.missingRuns < 2 ^ 32 - 1) :
    (apply (w.planFor live archived options s) options).run.Poses w.answer (Fitting w) s := by
  refine (settleAll_fits _ s).attempt fun _ s₁ h₁ => ?_
  refine (applyAll_fits hw _ s₁).attempt fun _ s₂ h₂ => ?_
  refine (cleanUp_fits dead_planFor_nodup (fun _ => not_dead_of_recovered) ?_).attempt
    fun cleaned _ _ => trivial
  intro d hd r hr
  rw [dead_kept hn h₁ h₂ hd] at hr
  exact hcounters r (mem_of_viewOf hr)

/-- Nothing but a renaming is refused. -/
def RefusedAtMostRenaming (m : Exchange interface) : Prop :=
  ∀ error, error? m = some error → ∃ old new, m.1.change? = some (.rename old new)

/-- A change that collides is a renaming. -/
theorem rename_of_collides {v : View} {c : Change} (h : Collides v c) :
    ∃ old new, c = .rename old new := by
  cases c with
  | rename old new => exact ⟨old, new, rfl⟩
  | _ => exact h.elim

namespace Roomy

/-- A request that is refused collides or does not fit. -/
theorem refused (hw : Roomy w) {m : Exchange interface} {error : UpdateError}
    (ha : w.answer m.1 s = (m.2, t)) (herror : error? m = some error) :
    ∃ c, m.1.change? = some c ∧ (Collides (w.view s) c ∨ ¬Fits (w.view s) c) := by
  rcases refusal_cases ha herror with hlist | ⟨c, hc, hchange⟩ | ⟨path, hc, hcount⟩
  · exact absurd hlist (hw.listed s error)
  · exact ⟨c, hc, hw.changed c s error hchange⟩
  · exact ⟨_, hc, Or.inr (hw.counted path s error hcount)⟩

/-- Renamings are refused only where two records would get one path. -/
theorem onlyCollides (hw : Roomy w) :
    OnlyCollides w fun m => Succeeds m ∧ RefusedAtMostRenaming m := by
  rintro m s t error ⟨-, hrenaming⟩ ha herror
  obtain ⟨c, hc, hwhy⟩ := hw.refused ha herror
  obtain ⟨old, new, hchange⟩ := hrenaming error herror
  obtain rfl := Option.some.inj (hc.symm.trans hchange)
  exact ⟨_, hc, hwhy.resolve_right fun hunfit => hunfit trivial⟩

/-- Carrying out a plan succeeds where every script does, and runs its scripts in order. -/
theorem apply_succeeds (hw : Roomy w) (hn : (live.map Script.path).Nodup)
    (hcounters : ∀ r ∈ w.records s, r.missingRuns < 2 ^ 32 - 1)
    (hscripts : ∀ m ∈ (apply (w.planFor live archived options s) options).run.trail w.answer s,
      Succeeds m.1) :
    (∃ summary t, w.perform (apply (w.planFor live archived options s) options) s
        = (.ok summary, t))
      ∧ ((apply (w.planFor live archived options s) options).run.trail w.answer s).filterMap
          (fun m => ran? m.1) = (w.planFor live archived options s).pending.map clean := by
  have hfair : ∀ m ∈ (apply (w.planFor live archived options s) options).run.trail w.answer s,
      Succeeds m.1 ∧ RefusedAtMostRenaming m.1 := by
    intro m hm
    refine ⟨hscripts m hm, fun error herror => ?_⟩
    -- A change that is refused fits, so it collides.
    obtain ⟨u, hfits, ha⟩ := (apply_fits hw hn hcounters).exchange hm
    obtain ⟨c, hc, hwhy⟩ := hw.refused ha herror
    obtain ⟨old, new, rfl⟩ := rename_of_collides (hwhy.resolve_right (not_not.mpr (hfits c hc)))
    exact ⟨old, new, hc⟩
  obtain ⟨hok, -, hran⟩ := Update.apply_succeeds hn hw.onlyCollides (fun _ h => h.1) hfair
  exact ⟨hok, hran⟩

/-- A run in which every script succeeds runs those of its plan, and reports its forecast. -/
theorem update_succeeds (hw : Roomy w) {source : ScriptSource}
    (hn : (live.map Script.path).Nodup)
    (hcounters : ∀ r ∈ w.records s, r.missingRuns < 2 ^ 32 - 1)
    (hscan : (w.answer (.scan source) s).1 = .ok (live, archived))
    (hscripts : ∀ m ∈ (update source options).run.trail w.answer s, Succeeds m.1) :
    (w.perform (update source options) s).1
        = .ok ((w.planFor live archived options s).forecast (w.records s) options)
      ∧ ((update source options).run.trail w.answer s).filterMap (fun m => ran? m.1)
        = (w.planFor live archived options s).pending.map clean := by
  obtain ⟨reads, u, hu, hreads, htrail, hperform⟩ := update_reads hscan hw.listed
  have hplan := w.planFor_eq_of_records_eq hu live archived options
  rw [← hplan] at htrail hperform
  rw [← hu] at hcounters
  rw [htrail] at hscripts
  rw [htrail, hperform, ← hplan, ← hu]
  obtain ⟨⟨summary, t, hok⟩, hran⟩ := hw.apply_succeeds hn hcounters fun m hm =>
    hscripts m (List.mem_append_right _ hm)
  rw [hok, summary_eq_forecast hn hcounters hok, List.filterMap_append, hran,
    List.filterMap_eq_nil_iff.mpr fun m hm => (hreads m hm).2]
  exact ⟨rfl, rfl⟩

end Roomy

end SchemaMigration.Update
