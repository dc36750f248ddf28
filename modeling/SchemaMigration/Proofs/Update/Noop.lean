import SchemaMigration.Proofs.Program.Layers
import SchemaMigration.Proofs.Update.FixedPoint

/-! # No-ops — a plan that says so is one that does nothing

    A plan calls itself a no-op by looking at its verdicts and its references; what
    a run does is decided elsewhere, in three loops.  The two agree.  The first
    request that runs a script or changes the ledger is made after reports only,
    which cannot fail, so no answer of the surroundings can hide it:

    * `Still` says that a part of a run makes no such request;
    * `ledgerChange_of_still`, `eq_nil_of_still` and `cleanUp_of_still`: a part that is
      still had nothing to do;
    * `isNoop_of_still` and `apply_of_noop` are the two directions for any plan;
    * `noop_iff_still` puts them together for the plans that are built. -/

namespace SchemaMigration.Update

open Ledger Plan Program Surroundings

variable {σ : Type} {w : Surroundings σ} {s u : σ}
variable {p : Plan} {e : PlannedFile} {options : Options}

/-! ## Verdicts -/

/-- A verdict is quiet if it neither changes the ledger nor runs the file. -/
theorem isQuiet_iff :
    e.verdict.isQuiet = true ↔ ledgerChange e = none ∧ e.verdict.isPending = false := by
  rw [ledgerChange]
  cases e.verdict with
  | pending reason => exact iff_of_false Bool.false_ne_true fun h => Bool.false_ne_true h.2.symm
  | renamed old => exact iff_of_false Bool.false_ne_true fun h => Option.some_ne_none _ h.1
  | rehash => exact iff_of_false Bool.false_ne_true fun h => Option.some_ne_none _ h.1
  | archivedRedundant record =>
      exact iff_of_false Bool.false_ne_true fun h => Option.some_ne_none _ h.1
  | applied => exact iff_of_true rfl ⟨rfl, rfl⟩
  | redundant kept => exact iff_of_true rfl ⟨rfl, rfl⟩
  | archived => exact iff_of_true rfl ⟨rfl, rfl⟩

/-- A quiet verdict archives nothing. -/
theorem label_ne_of_isQuiet {v : Verdict} (h : v.isQuiet = true) :
    v.label ≠ "archived-redundant" := by
  cases v with
  | applied => decide
  | archived => decide
  | redundant kept =>
      show "redundant" ≠ "archived-redundant"
      decide
  | _ => exact absurd h Bool.false_ne_true

/-- A plan is a no-op if none of the loops that carry it out has anything to do. -/
theorem isNoop_iff_idle : p.isNoop = true
    ↔ (∀ e ∈ p.entries, ledgerChange e = none) ∧ p.pending = [] ∧ p.recovered = []
      ∧ p.dead = [] := by
  have hentries : (p.entries.all fun e => e.verdict.isQuiet) = true
      ↔ (∀ e ∈ p.entries, ledgerChange e = none) ∧ p.pending = [] := by
    rw [List.all_eq_true, Plan.pending, List.filter_eq_nil_iff, ← forall₂_and]
    refine forall₂_congr fun e _ => ?_
    rw [isQuiet_iff, Bool.not_eq_true]
  rw [Plan.isNoop, Bool.and_eq_true, Bool.and_eq_true, hentries, List.isEmpty_iff,
    List.isEmpty_iff, and_assoc, and_assoc, and_comm (a := p.dead = [])]

/-! ## Parts of a run that do nothing -/

/-- A part of a run neither runs a script nor asks the ledger for a change. -/
def Still (w : Surroundings σ) {α : Type} (part : Run α) (s : σ) : Prop :=
  ∀ m ∈ part.run.trail w.answer s, m.1.1.change? = none ∧ ∀ location, m.1.1 ≠ .runScript location

section

variable {α β : Type} {part : Run α} {next : α → Run β}

/-- A sequence is still only if its first part is. -/
theorem Still.first (h : Still w (part >>= next) s) : Still w part s := by
  rw [Still, attempt_bind, trail_bind] at h
  exact (List.forall_mem_append.mp h).1

/-- What follows a part that succeeds is still, too. -/
theorem Still.second (h : Still w (part >>= next) s) {a : α}
    (hok : w.perform part s = (.ok a, u)) : Still w (next a) u := by
  rw [Still, trail_attempt_of_ok next hok] at h
  exact (List.forall_mem_append.mp h).2

end

theorem not_still_change (c : Change) : ¬Still w (change c) s := fun h =>
  nomatch (h _ List.mem_cons_self).1

theorem not_still_countMissing (path : String) : ¬Still w (countMissing path) s := fun h =>
  nomatch (h _ List.mem_cons_self).1

/-- Whatever is answered before, applying a script runs it. -/
theorem not_still_applyScript (x : Script) : ¬Still w (applyScript x) s := by
  intro h
  rw [Still, applyScript_run, trail_ask, trail_ask, trail_ask] at h
  have hran := h _ (List.mem_cons_of_mem _ (List.mem_cons_of_mem _ List.mem_cons_self))
  exact hran.2 x.location rfl

/-! ## Settling -/

/-- An entry that needs no change of the ledger is settled, whatever is answered. -/
theorem settle_of_none (hc : ledgerChange e = none) :
    ∃ u, w.perform (settle e) s = (.ok (), u) := by
  rw [settle_eq, hc]
  cases announcement e with
  | none => exact ⟨s, rfl⟩
  | some line => exact ⟨_, rfl⟩

/-- Entries that call for no change are settled by reports at most, which cannot fail. -/
theorem settleAll_of_none {es : List PlannedFile} (hes : ∀ e ∈ es, ledgerChange e = none) :
    ∃ u, w.perform (settleAll es) s = (.ok (), u) := by
  induction es generalizing s with
  | nil => exact ⟨s, rfl⟩
  | cons e rest ih =>
      obtain ⟨he, hrest⟩ := List.forall_mem_cons.mp hes
      obtain ⟨u, hu⟩ := settle_of_none (w := w) (s := s) he
      obtain ⟨t, ht⟩ := ih (s := u) hrest
      exact ⟨t, perform_bind.mpr ⟨(), u, hu, ht⟩⟩

/-- An entry that is settled quietly calls for no change. -/
theorem ledgerChange_of_still_settle (h : Still w (settle e) s) : ledgerChange e = none := by
  rw [settle_eq] at h
  cases hc : ledgerChange e with
  | none => rfl
  | some c =>
      rw [hc] at h
      -- The report before the change is answered with nothing that could stop it.
      have hreport : ∃ u, w.perform ((announcement e).elim (pure ()) log) s = (.ok (), u) := by
        cases announcement e with
        | none => exact ⟨s, rfl⟩
        | some line => exact ⟨_, rfl⟩
      obtain ⟨u, hu⟩ := hreport
      exact absurd (h.second hu) (not_still_change c)

/-- Where settling is still, no entry needs a change of the ledger. -/
theorem ledgerChange_of_still {es : List PlannedFile} (h : Still w (settleAll es) s) :
    ∀ e ∈ es, ledgerChange e = none := by
  induction es generalizing s with
  | nil => exact List.forall_mem_nil _
  | cons e rest ih =>
      have he : ledgerChange e = none := ledgerChange_of_still_settle h.first
      obtain ⟨u, hu⟩ := settle_of_none (w := w) (s := s) he
      exact List.forall_mem_cons.mpr ⟨he, ih (h.second hu)⟩

/-! ## Scripts and counters -/

theorem eq_nil_of_still {es : List PlannedFile} (h : Still w (applyAll es) s) : es = [] := by
  cases es with
  | nil => rfl
  | cons e rest => exact absurd h.first (not_still_applyScript e.script)

theorem clearAll_of_still {paths : List String} (h : Still w (clearAll paths) s) : paths = [] := by
  cases paths with
  | nil => rfl
  | cons path rest => exact absurd h.first (not_still_change _)

theorem buryAll_of_still {limit : Nat} {ds : List DeadReference}
    (h : Still w (buryAll limit ds) s) : ds = [] := by
  cases ds with
  | nil => rfl
  | cons d rest => exact absurd h.first.first (not_still_countMissing d.path)

/-- Where a limit is set and looking after counters is still, there are none to look after. -/
theorem cleanUp_of_still {limit : Nat} (hlimit : options.limit? = some limit)
    (h : Still w (cleanUp p options) s) : p.recovered = [] ∧ p.dead = [] := by
  rw [cleanUp, hlimit] at h
  have hrecovered : p.recovered = [] := clearAll_of_still h.first
  have hcleared : w.perform (clearAll p.recovered) s = (.ok (), s) := by
    rw [hrecovered]
    rfl
  exact ⟨hrecovered, buryAll_of_still (h.second hcleared)⟩

/-! ## Whole plans -/

/-- A plan that is carried out without running a script or changing the ledger is a no-op. -/
theorem isNoop_of_still (hlimit : 0 ≤ options.deadRunLimit) (h : Still w (apply p options) s) :
    p.isNoop = true := by
  rw [apply] at h
  have hchanges := ledgerChange_of_still h.first
  obtain ⟨u, hu⟩ := settleAll_of_none (w := w) (s := s) hchanges
  have hscripts := h.second hu
  have hpending : p.pending = [] := eq_nil_of_still hscripts.first
  have happlied : w.perform (applyAll p.pending) u = (.ok (), u) := by
    rw [hpending]
    rfl
  have hcounters := (hscripts.second happlied).first
  obtain ⟨hrecovered, hdead⟩ := cleanUp_of_still (limit?_of_nonneg hlimit) hcounters
  exact isNoop_iff_idle.mpr ⟨hchanges, hpending, hrecovered, hdead⟩

/-- Carrying out a no-op succeeds, whatever is answered, and has done nothing. -/
theorem apply_of_noop (hnoop : p.isNoop = true) :
    ∃ t, w.perform (apply p options) s = (.ok ⟨0, 0, 0, 0⟩, t) := by
  obtain ⟨hchanges, hpending, hrecovered, hdead⟩ := isNoop_iff_idle.mp hnoop
  obtain ⟨u, hu⟩ := settleAll_of_none (w := w) (s := s) hchanges
  have hcleaned : w.perform (cleanUp p options) u = (.ok 0, u) := by
    rw [cleanUp, hrecovered, hdead]
    cases options.limit? with
    | none => rfl
    | some limit => rfl
  -- Shelving is a change, so no entry of a no-op is counted as shelved.
  have harchived : p.count "archived-redundant" = 0 := by
    refine List.length_eq_zero_iff.mpr (List.filter_eq_nil_iff.mpr fun e he => ?_)
    have hrest : e.verdict.isPending = false :=
      Bool.not_eq_true _ ▸ List.filter_eq_nil_iff.mp hpending e he
    rw [decide_eq_true_eq]
    exact label_ne_of_isQuiet (isQuiet_iff.mpr ⟨hchanges e he, hrest⟩)
  refine ⟨u, ?_⟩
  rw [apply]
  refine perform_bind.mpr ⟨(), u, hu, ?_⟩
  rw [hpending]
  refine perform_bind.mpr ⟨(), u, rfl, perform_bind.mpr ⟨0, u, hcleaned, ?_⟩⟩
  rw [harchived]
  rfl

/-- A plan is a no-op exactly if carrying it out, with any limit that removes records, neither
    runs a script nor asks the ledger for a change, however the surroundings answer.  The run
    then succeeds with nothing to report, leaves the records as they are, and what is planned
    for the same files afterwards is the same plan. -/
theorem noop_iff_still (w : Surroundings σ) (live archived : List Script)
    (planned options : Options) (s : σ) (hlimit : 0 ≤ options.deadRunLimit) :
    ((w.planFor live archived planned s).isNoop = true
        ↔ Still w (apply (w.planFor live archived planned s) options) s)
      ∧ ((w.planFor live archived planned s).isNoop = true →
        ∃ t, w.perform (apply (w.planFor live archived planned s) options) s
            = (.ok ⟨0, 0, 0, 0⟩, t)
          ∧ w.records t = w.records s
          ∧ w.planFor live archived planned t = w.planFor live archived planned s) := by
  set p := w.planFor live archived planned s with hp
  have hstill : p.isNoop = true → Still w (apply p options) s := fun hnoop m hm =>
    ((apply_asks p options).trail s m hm).of_noop hnoop
  refine ⟨⟨hstill, isNoop_of_still hlimit⟩, fun hnoop => ?_⟩
  obtain ⟨t, ht⟩ : ∃ t, w.perform (apply p options) s = (.ok ⟨0, 0, 0, 0⟩, t) :=
    apply_of_noop hnoop
  -- A quiet trail leaves the records, and the plan is made from nothing else.
  have hrecords : w.records t = w.records s := by
    rw [← records_of_quiet_trail (apply p options).run s fun m hm => (hstill hnoop m hm).1]
    exact congrArg w.records (congrArg Prod.snd ht).symm
  exact ⟨t, ht, hrecords, w.planFor_eq_of_records_eq hrecords live archived planned⟩

/-- A live file that is applied, and a copy of it. -/
def copiedLive : List Script := [Bench.live "a.sql" "kept", Bench.live "b.sql" "kept"]

/-- An archived file with the same content. -/
def copiedArchived : List Script := [⟨"old.sql", "kept", ⟨"/archived/old.sql"⟩, .archived⟩]

/-- A ledger that holds one record, missed for some runs. -/
def missedBench (runs : Nat) : Bench :=
  ⟨[], [], [⟨"a.sql", "kept", .epoch, 0, .active, runs⟩], List.nodup_singleton _⟩

/-- Nothing is done for these files, unless the record was missed before. -/
theorem noop_iff_still_missed :
    (∃ t, Bench.surroundings.perform (apply (Bench.surroundings.planFor copiedLive copiedArchived
          .standard (missedBench 0)) .standard) (missedBench 0) = (.ok ⟨0, 0, 0, 0⟩, t))
      ∧ ¬Still Bench.surroundings (apply (Bench.surroundings.planFor copiedLive copiedArchived
          .standard (missedBench 1)) .standard) (missedBench 1) := by
  have hlimit : 0 ≤ Options.standard.deadRunLimit := by decide
  have hnoop : (Bench.surroundings.planFor copiedLive copiedArchived .standard
      (missedBench 0)).isNoop = true := by cbv
  have hbusy : (Bench.surroundings.planFor copiedLive copiedArchived .standard
      (missedBench 1)).isNoop = false := by cbv
  obtain ⟨-, hdone⟩ := noop_iff_still Bench.surroundings copiedLive copiedArchived .standard
    .standard (missedBench 0) hlimit
  obtain ⟨hiff, -⟩ := noop_iff_still Bench.surroundings copiedLive copiedArchived .standard
    .standard (missedBench 1) hlimit
  obtain ⟨t, ht, -⟩ := hdone hnoop
  exact ⟨⟨t, ht⟩, fun hstill => Bool.false_ne_true (hbusy.symm.trans (hiff.mpr hstill))⟩

end SchemaMigration.Update
