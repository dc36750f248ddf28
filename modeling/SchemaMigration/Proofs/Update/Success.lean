import Mathlib.Data.List.Forall2
import SchemaMigration.Proofs.Update.Requests

/-! # Successful runs — what each part of a run does to the ledger

    A part of a run that succeeds has made all of its changes, and nothing else
    has altered the ledger.  Each part has one lemma that tells the view of the
    ledger after it: `settleAll_ok`, `applyAll_ok`, `clearAll_ok`, `buryAll_ok`;
    `apply_ok` and `update_ok` put them together. -/

namespace SchemaMigration.Update

open Ledger Program

variable {σ : Type} {w : Surroundings σ} {s t : σ}

/-! ## Parts of a successful run -/

namespace Surroundings

/-- A sequence succeeds exactly if both of its parts do. -/
theorem perform_bind {α β : Type} {p : Run α} {f : α → Run β} {b : β} :
    w.perform (p >>= f) s = (.ok b, t)
      ↔ ∃ a u, w.perform p s = (.ok a, u) ∧ w.perform (f a) u = (.ok b, t) := run_attempt_eq_ok

theorem perform_pure {α : Type} {a b : α} :
    w.perform (pure a) s = (.ok b, t) ↔ a = b ∧ s = t := by
  show ((Except.ok a, s) : Except UpdateError α × σ) = _ ↔ _
  rw [Prod.mk.injEq, Except.ok.injEq]

end Surroundings

open Surroundings

/-- A report leaves the records. -/
theorem log_ok {line : Log.Line} (h : w.perform (log line) s = (.ok (), t)) :
    w.records t = w.records s := by
  have ht : (w.answer (.log line) s).2 = t := (Prod.mk.inj h).2
  rw [← ht]
  exact w.quiet _ s rfl

/-- A change that succeeds has its effect, at some time. -/
theorem change_ok {c : Change} (h : w.perform (change c) s = (.ok (), t)) :
    ∃ time, w.view t = c.onto time (w.view s) := by
  obtain ⟨hr, ht⟩ := Prod.mk.inj (show w.answer (.ledger (.change c)) s = (.ok (), t) from h)
  rw [← ht]
  exact w.changed c s hr

/-- The change of an entry is all that settling it does to the ledger. -/
theorem settle_ok {e : PlannedFile} (h : w.perform (settle e) s = (.ok (), t)) :
    Made (ledgerChange e).toList (w.view s) (w.view t) := by
  rw [settle_eq] at h
  obtain ⟨⟨⟩, u, hu, h⟩ := perform_bind.mp h
  -- A line that is reported first leaves the records alone.
  have hsame : w.view u = w.view s := by
    cases ha : announcement e with
    | none =>
        rw [ha] at hu
        rw [(perform_pure.mp hu).2]
    | some line =>
        rw [ha] at hu
        exact view_eq_of_records_eq w (log_ok hu)
  rw [← hsame]
  cases hc : ledgerChange e with
  | none =>
      rw [hc] at h
      rw [(perform_pure.mp h).2]
      exact .nil _
  | some c =>
      rw [hc] at h
      obtain ⟨time, ht⟩ := change_ok h
      exact .cons time (ht ▸ .nil _)

/-- If all entries are settled, the changes that they call for were made. -/
theorem settleAll_ok {es : List PlannedFile} (h : w.perform (settleAll es) s = (.ok (), t)) :
    Made (es.filterMap ledgerChange) (w.view s) (w.view t) := by
  induction es generalizing s with
  | nil =>
      rw [(perform_pure.mp h).2]
      exact .nil _
  | cons e rest ih =>
      obtain ⟨⟨⟩, u, hu, h⟩ := perform_bind.mp h
      have hboth := (settle_ok hu).append (ih h)
      cases hc : ledgerChange e with
      | none => rw [hc] at hboth; rwa [List.filterMap_cons_none hc]
      | some c => rw [hc] at hboth; rwa [List.filterMap_cons_some hc]

/-- A script is applied if it ends with status zero and is recorded. -/
theorem applyScript_ok {x : Script} (h : w.perform (applyScript x) s = (.ok (), t)) :
    ∃ speed time, w.view t = (Change.record x.path x.hash speed).onto time (w.view s) := by
  -- Neither the report, nor the stopwatch, nor the script itself alters the records.
  rw [Surroundings.perform, applyScript_run, run_ask, run_ask, run_ask] at h
  set s₁ := (w.answer (.log _) s).2 with h₁
  set s₂ := (w.answer .stopwatch s₁).2 with h₂
  set s₃ := (w.answer (.runScript x.location) s₂).2 with h₃
  have hview : w.records s₃ = w.records s :=
    (w.quiet _ _ rfl).trans ((w.quiet _ _ rfl).trans (w.quiet _ _ rfl))
  generalize (w.answer .stopwatch s₁).1 = started at h
  cases hr : (w.answer (.runScript x.location) s₂).1 with
  | error cause =>
      rw [hr] at h
      exact nomatch (Prod.mk.inj h).1
  | ok status =>
      rw [hr] at h
      by_cases hs : status = 0
      · rw [hs, ended_zero, run_ask] at h
        set s₄ := (w.answer .stopwatch s₃).2 with h₄
        have hview₄ : w.view s₄ = w.view s :=
          view_eq_of_records_eq w ((w.quiet _ _ rfl).trans hview)
        refine ⟨(w.answer .stopwatch s₃).1 - started, ?_⟩
        rw [recording, run_ask] at h
        cases hc : (w.answer (.ledger (.change (.record x.path x.hash
            ((w.answer .stopwatch s₃).1 - started)))) s₄).1 with
        | error e =>
            rw [hc] at h
            exact nomatch (Prod.mk.inj h).1
        | ok done =>
            rw [hc] at h
            rw [← hview₄, ← (Prod.mk.inj h).2]
            exact w.changed _ _ hc
      · rw [ended_of_ne_zero x started hs] at h
        exact nomatch (Prod.mk.inj h).1

/-- The changes that record scripts, each after a time of its own. -/
def Recordings : List PlannedFile → List Change → Prop :=
  List.Forall₂ fun e c => ∃ speed, c = .record e.script.path e.script.hash speed

/-- The recordings of some entries are about their paths, in order. -/
theorem Recordings.paths {es : List PlannedFile} {cs : List Change} (h : Recordings es cs) :
    cs.flatMap Change.paths = es.map fun e => e.script.path := by
  induction h with
  | nil => rfl
  | cons hc _ ih =>
      obtain ⟨speed, rfl⟩ := hc
      rw [List.flatMap_cons, List.map_cons, ih]
      rfl

/-- Every entry is recorded with its own content. -/
theorem Recordings.exists_mem {es : List PlannedFile} {cs : List Change} (h : Recordings es cs)
    {e : PlannedFile} (he : e ∈ es) :
    ∃ speed, Change.record e.script.path e.script.hash speed ∈ cs := by
  induction h with
  | nil => exact nomatch he
  | cons hc _ ih =>
      rcases List.mem_cons.mp he with rfl | hrest
      · obtain ⟨speed, rfl⟩ := hc
        exact ⟨speed, List.mem_cons_self⟩
      · obtain ⟨speed, hmem⟩ := ih hrest
        exact ⟨speed, List.mem_cons_of_mem _ hmem⟩

/-- The scripts that were applied are recorded one after another. -/
theorem applyAll_ok {es : List PlannedFile} (h : w.perform (applyAll es) s = (.ok (), t)) :
    ∃ cs, Recordings es cs ∧ Made cs (w.view s) (w.view t) := by
  induction es generalizing s with
  | nil =>
      rw [(perform_pure.mp h).2]
      exact ⟨[], .nil, .nil _⟩
  | cons e rest ih =>
      obtain ⟨⟨⟩, u, hu, h⟩ := perform_bind.mp h
      obtain ⟨speed, time, hview⟩ := applyScript_ok hu
      obtain ⟨cs, hcs, hmade⟩ := ih h
      exact ⟨.record e.script.path e.script.hash speed :: cs, .cons ⟨speed, rfl⟩ hcs,
        .cons time (hview ▸ hmade)⟩

/-! ## Counters at the end of a run -/

/-- What a limit makes of the record of a missing file. -/
def buried (limit : Nat) (r : Record) : Option Record :=
  if readCounter (r.missingRuns + 1) > limit then none else some r.counted

/-- The counters of recovered records are reset. -/
theorem clearAll_ok {paths : List String} (h : w.perform (clearAll paths) s = (.ok (), t))
    (q : String) :
    w.view t q = if q ∈ paths then (w.view s q).map Record.cleared else w.view s q := by
  -- By induction on the paths, which may repeat.
  induction paths generalizing s with
  | nil => rw [(perform_pure.mp h).2, if_neg List.not_mem_nil]
  | cons p rest ih =>
      obtain ⟨⟨⟩, u, hu, h⟩ := perform_bind.mp h
      obtain ⟨time, hview⟩ := change_ok hu
      rw [ih h, hview]
      by_cases hp : q = p
      · -- A path that occurs again is reset twice, with no further effect.
        subst hp
        rw [Change.onto_clearMissing_self, if_pos List.mem_cons_self]
        by_cases hq : q ∈ rest
        · rw [if_pos hq, Option.map_map]
          rfl
        · rw [if_neg hq]
      · rw [Change.onto_of_notMem (by simpa [Change.paths] using hp)]
        simp only [List.mem_cons, hp, false_or]

/-- Counting a missing run answers the counter as it is read afterwards. -/
theorem countMissing_ok {path : String} {n : Nat}
    (h : w.perform (countMissing path) s = (.ok n, t)) :
    (∃ time, w.view t = (Change.markMissing path).onto time (w.view s))
      ∧ n = ((w.view s path).map fun r => readCounter (r.missingRuns + 1)).getD 0 := by
  obtain ⟨hr, ht⟩ := Prod.mk.inj
    (show w.answer (.ledger (.countMissing path)) s = (.ok n, t) from h)
  obtain ⟨⟨time, hview⟩, hcount⟩ := w.counted path s n hr
  rw [ht] at hview hcount
  refine ⟨⟨time, hview⟩, ?_⟩
  rw [hcount, counterAt, hview, Change.onto_markMissing_self, Option.map_map]
  rfl

/-- A record whose file is missing is counted, and removed beyond the limit. -/
theorem bury_ok {limit n : Nat} {path : String} (h : w.perform (bury limit path) s = (.ok n, t))
    (q : String) :
    w.view t q = if q = path then (w.view s q).bind (buried limit) else w.view s q := by
  rw [bury] at h
  obtain ⟨missing, u, hu, h⟩ := perform_bind.mp h
  obtain ⟨⟨time, hview⟩, hmissing⟩ := countMissing_ok hu
  by_cases hm : missing > limit
  · -- The record is counted, and then removed.
    rw [if_pos hm] at h
    obtain ⟨⟨⟩, u₁, hu₁, h⟩ := perform_bind.mp h
    obtain ⟨⟨⟩, u₂, hu₂, h⟩ := perform_bind.mp h
    obtain ⟨time', hview'⟩ := change_ok hu₂
    rw [← (perform_pure.mp h).2, hview', view_eq_of_records_eq w (log_ok hu₁), hview]
    by_cases hq : q = path
    · subst hq
      rw [Change.onto_remove_self, if_pos rfl]
      cases hv : w.view s q with
      | none => rfl
      | some r =>
          rw [hmissing, hv] at hm
          exact (if_pos hm).symm
    · have hne : q ∉ [path] := by simpa using hq
      rw [Change.onto_of_notMem hne, Change.onto_of_notMem hne, if_neg hq]
  · -- The record is counted, and stays.
    rw [if_neg hm] at h
    obtain ⟨⟨⟩, u₁, hu₁, h⟩ := perform_bind.mp h
    rw [← (perform_pure.mp h).2, view_eq_of_records_eq w (log_ok hu₁), hview]
    by_cases hq : q = path
    · subst hq
      rw [Change.onto_markMissing_self, if_pos rfl]
      cases hv : w.view s q with
      | none => rfl
      | some r =>
          rw [hmissing, hv] at hm
          exact (if_neg hm).symm
    · have hne : q ∉ [path] := by simpa using hq
      rw [Change.onto_of_notMem hne, if_neg hq]

/-- If all burying succeeds, every dead reference is buried and no other record changes. -/
theorem buryAll_ok {limit n : Nat} {ds : List DeadReference}
    (hn : (ds.map DeadReference.path).Nodup) (h : w.perform (buryAll limit ds) s = (.ok n, t))
    (q : String) :
    w.view t q = if q ∈ ds.map DeadReference.path then (w.view s q).bind (buried limit)
      else w.view s q := by
  induction ds generalizing s t n with
  | nil => rw [(perform_pure.mp h).2, List.map_nil, if_neg List.not_mem_nil]
  | cons d rest ih =>
      obtain ⟨hd, hrest⟩ := List.nodup_cons.mp hn
      obtain ⟨one, u, hu, h⟩ := perform_bind.mp h
      obtain ⟨others, u₁, hu₁, h⟩ := perform_bind.mp h
      rw [← (perform_pure.mp h).2, ih hrest hu₁, bury_ok hu, List.map_cons]
      by_cases hq : q = d.path
      · subst hq
        rw [if_neg hd, if_pos rfl, if_pos List.mem_cons_self]
      · rw [if_neg hq]
        simp only [List.mem_cons, hq, false_or]

/-! ## Whole runs -/

/-- What becomes of a ledger when counters are looked after. -/
def tidied (p : Plan) (options : Options) (v : View) : View := fun q =>
  match options.limit? with
  | none => v q
  | some limit =>
      if q ∈ p.dead.map DeadReference.path then (v q).bind (buried limit)
      else if q ∈ p.recovered then (v q).map Record.cleared else v q

section

variable {p : Plan} {options : Options} {limit : Nat} {v : View} {q : String}

/-- From zero on, the setting is the limit. -/
theorem limit?_of_nonneg (h : 0 ≤ options.deadRunLimit) :
    options.limit? = some options.deadRunLimit.toNat := if_neg (Int.not_lt.mpr h)

/-- Below zero there is no limit, and no cleaning up. -/
theorem limit?_of_neg (h : options.deadRunLimit < 0) : options.limit? = none := if_pos h

theorem tidied_of_none (hl : options.limit? = none) : tidied p options v = v := by
  funext q
  rw [tidied, hl]

/-- Cleaning up buries dead references. -/
theorem tidied_of_dead (hl : options.limit? = some limit)
    (hd : q ∈ p.dead.map DeadReference.path) :
    tidied p options v q = (v q).bind (buried limit) := by
  rw [tidied, hl]
  exact if_pos hd

/-- Cleaning up clears recovered records and leaves all others. -/
theorem tidied_of_not_dead (hl : options.limit? = some limit)
    (hd : q ∉ p.dead.map DeadReference.path) :
    tidied p options v q = if q ∈ p.recovered then (v q).map Record.cleared else v q := by
  rw [tidied, hl]
  exact if_neg hd

end

/-- If cleaning up succeeds, it has tidied the records. -/
theorem cleanUp_ok {p : Plan} {options : Options} {n : Nat}
    (hn : (p.dead.map DeadReference.path).Nodup)
    (hdisjoint : ∀ q ∈ p.recovered, q ∉ p.dead.map DeadReference.path)
    (h : w.perform (cleanUp p options) s = (.ok n, t)) :
    w.view t = tidied p options (w.view s) := by
  rw [cleanUp] at h
  cases hl : options.limit? with
  | none =>
      rw [hl] at h
      rw [(perform_pure.mp h).2, tidied_of_none hl]
  | some limit =>
      rw [hl] at h
      obtain ⟨⟨⟩, u, hu, h⟩ := perform_bind.mp h
      funext q
      rw [buryAll_ok hn h, clearAll_ok hu]
      by_cases hd : q ∈ p.dead.map DeadReference.path
      · rw [if_pos hd, if_neg fun hr => hdisjoint q hr hd, tidied_of_dead hl hd]
      · rw [if_neg hd, tidied_of_not_dead hl hd]

/-- A plan is carried out by its ledger changes, then the records of its pending
    scripts, then what counters ask for. -/
theorem apply_ok {p : Plan} {options : Options} {summary : Summary}
    (hn : (p.dead.map DeadReference.path).Nodup)
    (hdisjoint : ∀ q ∈ p.recovered, q ∉ p.dead.map DeadReference.path)
    (h : w.perform (apply p options) s = (.ok summary, t)) :
    ∃ cs v, Recordings p.pending cs
      ∧ Made (p.entries.filterMap ledgerChange ++ cs) (w.view s) v
      ∧ w.view t = tidied p options v := by
  rw [apply] at h
  obtain ⟨⟨⟩, s₁, h₁, h⟩ := perform_bind.mp h
  obtain ⟨⟨⟩, s₂, h₂, h⟩ := perform_bind.mp h
  obtain ⟨cleaned, s₃, h₃, h⟩ := perform_bind.mp h
  obtain ⟨cs, hcs, hmade⟩ := applyAll_ok h₂
  refine ⟨cs, w.view s₂, hcs, (settleAll_ok h₁).append hmade, ?_⟩
  rw [← (perform_pure.mp h).2]
  exact cleanUp_ok hn hdisjoint h₃

/-- Planning that succeeds makes the plan for the files that it finds. -/
theorem plan_ok {source : ScriptSource} {options : Options} {p : Plan}
    (h : w.perform (plan source options) s = (.ok p, t)) :
    ∃ live archived, (w.answer (.scan source) s).1 = .ok (live, archived)
      ∧ w.records t = w.records s ∧ p = w.planFor live archived options s := by
  rw [plan] at h
  obtain ⟨⟨live, archived⟩, s₁, h₁, h⟩ := perform_bind.mp h
  obtain ⟨known, s₂, h₂, h⟩ := perform_bind.mp h
  obtain ⟨⟨⟩, s₃, h₃, h⟩ := perform_bind.mp h
  obtain ⟨rfl, rfl⟩ := perform_pure.mp h
  obtain ⟨hscan, hs₁⟩ := Prod.mk.inj
    (show w.answer (.scan source) s = (.ok (live, archived), s₁) from h₁)
  obtain ⟨hlist, hs₂⟩ := Prod.mk.inj
    (show w.answer (.ledger .list) s₁ = (.ok known, s₂) from h₂)
  -- Neither the scan nor the listing changes the records, so the plan is made from those before.
  have e₁ : w.records s₁ = w.records s := hs₁ ▸ w.quiet _ s rfl
  have e₂ : w.records s₂ = w.records s₁ := hs₂ ▸ w.quiet _ s₁ rfl
  have hknown : known = w.listing s := by
    rw [w.listed s₁ known hlist, e₁]
    rfl
  exact ⟨live, archived, hscan, (log_ok h₃).trans (e₂.trans e₁), by rw [hknown]; rfl⟩

/-- A successful run carries out the plan for the files that it finds. -/
theorem update_ok {source : ScriptSource} {options : Options} {summary : Summary}
    (h : w.perform (update source options) s = (.ok summary, t)) :
    ∃ live archived u, (w.answer (.scan source) s).1 = .ok (live, archived)
      ∧ w.records u = w.records s
      ∧ w.perform (apply (w.planFor live archived options s) options) u = (.ok summary, t) := by
  rw [update] at h
  obtain ⟨p, u, hp, h⟩ := perform_bind.mp h
  obtain ⟨live, archived, hscan, hu, rfl⟩ := plan_ok hp
  exact ⟨live, archived, u, hscan, hu, h⟩

end SchemaMigration.Update
