import SchemaMigration.Proofs.Update.FailFast
import SchemaMigration.Proofs.Update.Outcome

/-! # Completed runs — the ledger record by record

    Where every script ends with status zero and the store is healthy, nothing can
    stop a run: the only statement that could still fail is a renaming onto a path
    that has a record, and no plan asks for one.  So the run completes, and the
    ledger can be told record by record:

    * `Course.unstopped`: a run that is answered fairly is never stopped;
    * `tidied_of_present`: what becomes of the counter of a record with a file;
    * `update_completes`: the run succeeds, no ledger statement fails, and the ledger
      is what `Completed` says of every path. -/

namespace SchemaMigration.Update

open Ledger Plan Program Surroundings

variable {σ : Type} {w : Surroundings σ} {s t u : σ}
variable {live archived : List Script} {options : Options}
variable {past : List (Exchange interface)} {phase : Phase} {e : PlannedFile}

/-! ## Runs that nothing stops -/

/-- The ledger refuses nothing but changes that would give two records one path. -/
structure Healthy (w : Surroundings σ) : Prop where
  listed : ∀ s error, (w.answer (.ledger .list) s).1 ≠ .error error
  changed : ∀ c s error, (w.answer (.ledger (.change c)) s).1 = .error error →
    Collides (w.view s) c
  counted : ∀ path s error, (w.answer (.ledger (.countMissing path)) s).1 ≠ .error error

/-- A script that an exchange runs ends with status zero. -/
def Succeeds (m : Exchange interface) : Prop :=
  ∀ location outcome, ran? m = some (location, outcome) → outcome = .ok 0

/-- Exchanges of some kind are refused only where two records would get one path. -/
def OnlyCollides (w : Surroundings σ) (fair : Exchange interface → Prop) : Prop :=
  ∀ m s t error, fair m → w.answer m.1 s = (m.2, t) → error? m = some error →
    ∃ c, m.1.change? = some c ∧ Collides (w.view s) c

/-- Only the ledger refuses: listing, a change, or counting a missing run. -/
theorem refusal_cases {m : Exchange interface} {error : UpdateError}
    (ha : w.answer m.1 s = (m.2, t)) (herror : error? m = some error) :
    (w.answer (.ledger .list) s).1 = .error error
      ∨ (∃ c, m.1.change? = some c ∧ (w.answer (.ledger (.change c)) s).1 = .error error)
      ∨ ∃ path, m.1.change? = some (.markMissing path)
        ∧ (w.answer (.ledger (.countMissing path)) s).1 = .error error := by
  obtain ⟨q, reply⟩ := m
  have hreply : (w.answer q s).1 = reply := congrArg Prod.fst ha
  cases q with
  | ledger op =>
      have hfailed : reply = .error error := by
        cases op <;> cases reply <;> cases herror <;> rfl
      rw [hfailed] at hreply
      cases op with
      | list => exact Or.inl hreply
      | change c => exact Or.inr (Or.inl ⟨c, rfl, hreply⟩)
      | countMissing path => exact Or.inr (Or.inr ⟨path, rfl, hreply⟩)
  | _ => cases herror

theorem Healthy.onlyCollides (hw : Healthy w) (fair : Exchange interface → Prop) :
    OnlyCollides w fair := by
  intro m s t error _ ha herror
  rcases refusal_cases ha herror with hlist | ⟨c, hc, hchange⟩ | ⟨path, -, hcount⟩
  · exact absurd hlist (hw.listed s error)
  · exact ⟨c, hc, hw.changed c s error hchange⟩
  · exact absurd hcount (hw.counted path s error)

/-- No plan renames a record onto another one. -/
theorem not_collides (hn : (live.map Script.path).Nodup)
    {done rest : List PlannedFile}
    (hsplit : (w.planFor live archived options s).entries = done ++ e :: rest)
    (hmade : Made (done.filterMap ledgerChange) (w.view s) (w.view u)) {c : Change}
    (hc : ledgerChange e = some c) : ¬Collides (w.view u) c := by
  rcases ledgerChange_cases hc with ⟨old, hv, rfl⟩ | ⟨-, rfl⟩ | ⟨record, -, rfl⟩
  · rintro ⟨-, -, hnew⟩
    have hentry : e ∈ (w.planFor live archived options s).entries :=
      hsplit ▸ List.mem_append_right _ List.mem_cons_self
    have hl : e ∈ liveEntries (w.inputFor live archived options s) :=
      liveEntry_of_ne hentry hv Verdict.noConfusion fun _ => Verdict.noConfusion
    obtain ⟨-, hnone, -⟩ := claim_of_liveEntry hl (claim?_of_renamed hv)
    -- The script had no record at the start, and no entry before gave it one.
    have hsame : w.view u e.script.path = w.view s e.script.path := by
      refine untouched_of_made hmade (not_touched_before hn hsplit ?_)
      rw [touched_of_renamed hv]
      exact List.mem_cons_of_mem _ List.mem_cons_self
    rw [hsame, stampAt_eq_none_iff.mp (recordAt?_eq_none_iff_stampAt.mp hnone)] at hnew
    exact nomatch hnew
  · exact id
  · exact id

/-- Looking after counters gives no two records one path. -/
theorem Tidies.not_collides {p : Plan} {q : Request} (hq : Tidies p q) {c : Change}
    (hc : q.change? = some c) (v : View) : ¬Collides v c := by
  cases hq with
  | clear hp => exact Option.some.inj hc ▸ id
  | count hd => exact Option.some.inj hc ▸ id
  | remove hd => exact Option.some.inj hc ▸ id

/-- A run that is answered fairly is not stopped, and no ledger statement fails. -/
theorem Course.unstopped (hn : (live.map Script.path).Nodup) {fair : Exchange interface → Prop}
    (hstore : OnlyCollides w fair) (hscripts : ∀ m, fair m → Succeeds m)
    (h : Course w (w.planFor live archived options s) s phase past u)
    (hpast : ∀ m ∈ past, fair m) :
    (∀ before error, phase ≠ .stopped before error) ∧ ∀ m ∈ past, error? m = none := by
  -- By induction on the course: as long as it is fair, no step can be one of those that stop it.
  induction h with
  | start => exact ⟨fun _ _ => nofun, List.forall_mem_nil _⟩
  | turn _ ht ih =>
      refine ⟨fun before error => ?_, (ih hpast).2⟩
      cases ht <;> exact nofun
  | @step before after past u t m h hs ha ih =>
      obtain ⟨hphase, herrors⟩ := ih fun m' hm' => hpast m' (List.mem_append_left _ hm')
      have hm : fair m := hpast m (List.mem_append_right _ List.mem_cons_self)
      have hlast : error? m = none → ∀ m' ∈ past ++ [m], error? m' = none := by
        intro hnone m' hm'
        rcases List.mem_append.mp hm' with hold | hnew
        · exact herrors m' hold
        · exact List.mem_singleton.mp hnew ▸ hnone
      cases hs with
      | report _ line => exact ⟨hphase, hlast rfl⟩
      | clock _ time => exact ⟨hphase, hlast rfl⟩
      | settle hc rest => exact ⟨fun _ _ => nofun, hlast rfl⟩
      | refuse hc rest error =>
          obtain ⟨done, hsplit, hmade, -⟩ := h.account
          obtain ⟨c, hchange, hcollides⟩ := hstore _ _ _ error hm ha rfl
          obtain rfl := Option.some.inj hchange
          -- The only excuse for refusing the change would be a collision, which the plan rules
          -- out.
          exact absurd hcollides (not_collides hn hsplit hmade hc)
      | run e rest => exact ⟨fun _ _ => nofun, hlast rfl⟩
      | fail e rest hf =>
          rw [hscripts _ hm _ _ rfl] at hf
          exact nomatch hf
      | record e rest speed => exact ⟨fun _ _ => nofun, hlast rfl⟩
      | lose e rest speed error =>
          obtain ⟨c, hchange, hcollides⟩ := hstore _ _ _ error hm ha rfl
          exact absurd hcollides (Option.some.inj hchange ▸ id)
      | tidy hq hnone => exact ⟨fun _ _ => nofun, hlast hnone⟩
      | leave hq herror =>
          obtain ⟨c, hchange, hcollides⟩ := hstore _ _ _ _ hm ha herror
          exact absurd hcollides (hq.not_collides hchange _)

/-- Carrying out a plan succeeds if it is answered fairly, and runs its scripts in order. -/
theorem apply_succeeds (hn : (live.map Script.path).Nodup) {fair : Exchange interface → Prop}
    (hstore : OnlyCollides w fair) (hscripts : ∀ m, fair m → Succeeds m)
    (htrail : ∀ m ∈ (apply (w.planFor live archived options s) options).run.trail w.answer s,
      fair m.1) :
    (∃ summary t, w.perform (apply (w.planFor live archived options s) options) s
        = (.ok summary, t))
      ∧ (∀ m ∈ (apply (w.planFor live archived options s) options).run.trail w.answer s,
          error? m.1 = none)
      ∧ ((apply (w.planFor live archived options s) options).run.trail w.answer s).filterMap
          (fun m => ran? m.1) = (w.planFor live archived options s).pending.map clean := by
  have hend := course_of_end w (w.planFor live archived options s) options s
  have hpast : ∀ m ∈ ((apply (w.planFor live archived options s) options).run.trail w.answer
      s).map Prod.fst, fair m := by
    intro m hm
    obtain ⟨n, hn, rfl⟩ := List.mem_map.mp hm
    exact htrail n hn
  cases hresult : (w.perform (apply (w.planFor live archived options s) options) s).1 with
  -- A course that ends in an error has stopped, which a fair one does not.
  | error error =>
      rw [hresult] at hend
      obtain ⟨before, hcourse⟩ := hend
      exact absurd rfl ((hcourse.unstopped hn hstore hscripts hpast).1 before error)
  | ok summary =>
      rw [hresult] at hend
      have hcourse : Course w (w.planFor live archived options s) s .tidying _ _ := hend
      refine ⟨⟨summary, _, Prod.ext hresult rfl⟩, fun m hm => ?_, ?_⟩
      · exact (hcourse.unstopped hn hstore hscripts hpast).2 _ (List.mem_map_of_mem hm)
      · obtain ⟨tried, htally⟩ := hcourse.account
        rw [← htally.ran, List.filterMap_map]
        rfl

/-- Reading and reporting before the plan is carried out change nothing. -/
theorem update_reads {source : ScriptSource}
    (hscan : (w.answer (.scan source) s).1 = .ok (live, archived))
    (hlist : ∀ t error, (w.answer (.ledger .list) t).1 ≠ .error error) :
    ∃ reads u, w.records u = w.records s
      ∧ (∀ m ∈ reads, error? m.1 = none ∧ ran? m.1 = none)
      ∧ (update source options).run.trail w.answer s
          = reads ++ (apply (w.planFor live archived options s) options).run.trail w.answer u
      ∧ w.perform (update source options) s
          = w.perform (apply (w.planFor live archived options s) options) u := by
  -- The states behind the scan, the listing and the report differ, but not in their records.
  set s₁ := (w.answer (.scan source) s).2 with hs₁
  set s₂ := (w.answer (.ledger .list) s₁).2 with hs₂
  have h₁ : w.records s₁ = w.records s := w.quiet _ s rfl
  have h₂ : w.records s₂ = w.records s₁ := w.quiet _ s₁ rfl
  cases hfound : (w.answer (.ledger .list) s₁).1 with
  | error error => exact absurd hfound (hlist s₁ error)
  | ok known =>
      have hknown : known = w.listing s := by
        rw [w.listed s₁ known hfound, h₁]
        rfl
      set s₃ := (w.answer (.log (surveyed live archived (w.listing s))) s₂).2
      have h₃ : w.records s₃ = w.records s := (w.quiet _ s₂ rfl).trans (h₂.trans h₁)
      refine ⟨[(⟨.scan source, .ok (live, archived)⟩, s₁), (⟨.ledger .list, .ok known⟩, s₂),
        (⟨.log (surveyed live archived (w.listing s)), ()⟩, s₃)], s₃, h₃, ?_, ?_, ?_⟩
      · simp [error?, ran?]
      · rw [update_run, trail_ask, hscan]
        show _ :: Program.trail _ (.ask _ _) s₁ = _
        rw [trail_ask, hfound, hknown]
        rfl
      · rw [Surroundings.perform, update_run, run_ask, hscan]
        show Program.run _ (.ask _ _) s₁ = _
        rw [run_ask, hfound, hknown]
        rfl

/-! ## The ledger after a run -/

/-- What becomes of the counter of a record with a file. -/
def rested (options : Options) (r : Record) : Record :=
  match options.limit? with
  | none => r
  | some _ => r.cleared

/-- A counter that is none stays so. -/
theorem rested_of_eq_zero {r : Record} (h : r.missingRuns = 0) : rested options r = r := by
  rw [rested]
  cases options.limit? with
  | none => rfl
  | some limit =>
      show r.cleared = r
      rw [Record.cleared, ← h]

/-- What a limit makes of the record of a missing file, where its counter can grow. -/
theorem buried_of_lt {limit : Nat} {r : Record} (h : r.missingRuns < 2 ^ 32 - 1) :
    buried limit r = if r.missingRuns + 1 > limit then none else some r.counted := by
  rw [buried, readCounter_of_lt (by omega)]

/-- The ledger after a completed run, path by path. -/
structure Completed (w : Surroundings σ) (live archived : List Script) (options : Options)
    (s t : σ) : Prop where
  ran : ∀ e ∈ (w.planFor live archived options s).pending, ∃ time speed,
    w.view t e.script.path = some ⟨e.script.path, e.script.hash, time, speed, .active, 0⟩
  moved : ∀ e ∈ (w.planFor live archived options s).entries, ∀ old, e.verdict = .renamed old →
    ∃ r, w.view s old = some r ∧ w.view t e.script.path = some (r.movedTo e.script.path)
      ∧ w.view t old = none
  filled : ∀ e ∈ (w.planFor live archived options s).entries, e.verdict = .rehash →
    ∃ r, w.view s e.script.path = some r
      ∧ w.view t e.script.path = some (rested options { r with hash := e.script.hash })
  shelved : ∀ e ∈ (w.planFor live archived options s).entries, ∀ q,
    e.verdict = .archivedRedundant q →
    ∃ r, w.view s q = some r ∧ w.view t q = some (rested options r.shelved)
  dead : ∀ d ∈ (w.planFor live archived options s).dead, ∃ r, w.view s d.path = some r
    ∧ w.view t d.path = match options.limit? with
      | none => some r
      | some limit => if r.missingRuns + 1 > limit then none else some r.counted
  kept : ∀ q, q ∉ (w.planFor live archived options s).entries.flatMap touched →
    q ∉ deadPaths w live archived options s → w.view t q = (w.view s q).map (rested options)
  counter : ∀ limit, options.limit? = some limit → ∀ q r, w.view t q = some r →
    q ∉ deadPaths w live archived options s → r.missingRuns = 0

section

variable {v : View} {q : String}

/-- A record with a file is rested, whether its counter is reset or was none. -/
theorem tidied_of_present (h : Settled w live archived options s v)
    (hcounters : ∀ r ∈ w.records s, r.missingRuns < 2 ^ 32 - 1)
    (hd : q ∉ deadPaths w live archived options s) :
    tidied (w.planFor live archived options s) options v q = (v q).map (rested options) := by
  cases hlimit : options.limit? with
  | none =>
      have hid : rested options = id := by
        funext r
        rw [rested, hlimit]
        rfl
      rw [tidied_of_none hlimit, hid, Option.map_id, id]
  | some limit =>
      have hcleared : rested options = Record.cleared := by
        funext r
        rw [rested, hlimit]
      rw [hcleared]
      cases hv : v q with
      | none =>
          rw [tidied_of_not_dead hlimit hd, hv]
          exact ite_self _
      | some r =>
          by_cases hrec : q ∈ (w.planFor live archived options s).recovered
          · rw [tidied_of_not_dead hlimit hd, if_pos hrec, hv]
          · -- A counter that is not reset is none, as it is not too big to be read.
            have hsame : tidied (w.planFor live archived options s) options v q = some r := by
              rw [tidied_of_not_dead hlimit hd, if_neg hrec, hv]
            -- This is where the counters have to be small: a larger one would be read as none.
            have hread := counter_tidied h hlimit hsame hd
            have hsmall : ∀ r₀ ∈ w.records s, r₀.missingRuns < 2 ^ 32 := fun r₀ hr₀ =>
              Nat.lt_of_lt_pred (hcounters r₀ hr₀)
            rw [readCounter_of_lt (h.counter_lt hsmall hv)] at hread
            rw [hsame, Option.map_some, Record.cleared, ← hread]

variable (h : Settled w live archived options s v)
variable (hcounters : ∀ r ∈ w.records s, r.missingRuns < 2 ^ 32 - 1)
variable (ht : w.view t = tidied (w.planFor live archived options s) options v)

include h hcounters ht

/-- A touched record has a file, so it is not dead, and its counter is looked after. -/
theorem view_tidied_of_touched (he : e ∈ (w.planFor live archived options s).entries)
    (hq : q ∈ touched e) : w.view t q = (v q).map (rested options) := by
  rw [ht]
  exact tidied_of_present h hcounters (not_dead_of_touched (List.mem_flatMap.mpr ⟨e, he, hq⟩))

/-- The record of a missing file is counted, or goes if it was counted often enough. -/
theorem view_tidied_of_dead {d : DeadReference}
    (hd : d ∈ (w.planFor live archived options s).dead) :
    ∃ r, w.view s d.path = some r ∧ w.view t d.path = match options.limit? with
      | none => some r
      | some limit => if r.missingRuns + 1 > limit then none else some r.counted := by
  have hmem : d.path ∈ deadPaths w live archived options s := List.mem_map_of_mem hd
  have hkept : v d.path = w.view s d.path :=
    h.kept _ fun htouch => not_dead_of_touched htouch hmem
  obtain ⟨r, hr, -⟩ := mem_dead_iff_view.mp hmem
  refine ⟨r, hr, ?_⟩
  rw [ht]
  cases hl : options.limit? with
  | none => rw [tidied_of_none hl, hkept, hr]
  | some limit =>
      rw [tidied_of_dead hl hmem, hkept, hr]
      exact buried_of_lt (hcounters r (mem_of_viewOf hr))

/-- What a plan settles and looks after leaves the ledger of a completed run. -/
theorem completed_of_settled : Completed w live archived options s t := by
  constructor
  case ran =>
    intro e he
    obtain ⟨hmem, hp⟩ := List.mem_filter.mp he
    obtain ⟨time, speed, hran⟩ := h.ran e he
    have hown : e.script.path ∈ touched e := mem_touched_of_isPending hp
    refine ⟨time, speed, ?_⟩
    rw [view_tidied_of_touched h hcounters ht hmem hown, hran, Option.map_some,
      rested_of_eq_zero rfl]
  case moved =>
    intro e he old hv
    obtain ⟨r, hr, -, hnew, hgone⟩ := h.movedTo he hv
    have hboth : ∀ q ∈ [old, e.script.path], w.view t q = (v q).map (rested options) := by
      intro q hq
      refine view_tidied_of_touched h hcounters ht he ?_
      rw [touched_of_renamed hv]
      exact hq
    refine ⟨r, hr, ?_, ?_⟩
    · rw [hboth _ (by simp), hnew, Option.map_some, rested_of_eq_zero rfl]
    · rw [hboth _ (by simp), hgone]
      rfl
  -- The entries that fill in a content, or shelve, keep the counter of their record.
  case filled =>
    intro e he hv
    obtain ⟨-, -, r, hr, -⟩ := blank_of_rehash he hv
    have hown : e.script.path ∈ touched e := mem_touched_of_rehash hv
    refine ⟨r, hr, ?_⟩
    rw [view_tidied_of_touched h hcounters ht he hown, h.filled he hv, hr]
    rfl
  case shelved =>
    intro e he q hv
    obtain ⟨hshelved, hstamp⟩ := h.shelved he hv
    obtain ⟨r, hr, -⟩ := stampAt_eq_some_iff.mp hstamp
    have hown : q ∈ touched e := mem_touched_of_archivedRedundant hv
    refine ⟨r, hr, ?_⟩
    rw [view_tidied_of_touched h hcounters ht he hown, hshelved, hr]
    rfl
  case dead => exact fun d hd => view_tidied_of_dead h hcounters ht hd
  case kept =>
    intro q hq hd
    rw [ht, tidied_of_present h hcounters hd, h.kept q hq]
  case counter =>
    intro limit hlimit q r hr hd
    rw [ht, tidied_of_present h hcounters hd] at hr
    obtain ⟨r₀, -, rfl⟩ := Option.map_eq_some_iff.mp hr
    rw [rested, hlimit]
    rfl

end

/-- Where every script ends with status zero and the store is healthy, a run succeeds, no
    ledger statement fails, and the ledger is what the plan makes of it, record by record. -/
theorem update_completes {source : ScriptSource} (hw : Healthy w)
    (hn : (live.map Script.path).Nodup)
    (hcounters : ∀ r ∈ w.records s, r.missingRuns < 2 ^ 32 - 1)
    (hscan : (w.answer (.scan source) s).1 = .ok (live, archived))
    (hscripts : ∀ m ∈ (update source options).run.trail w.answer s, Succeeds m.1) :
    (∀ m ∈ (update source options).run.trail w.answer s, error? m.1 = none)
      ∧ ∃ summary t, w.perform (update source options) s = (.ok summary, t)
        ∧ ((w.records t).map Record.path).Nodup ∧ Completed w live archived options s t := by
  obtain ⟨reads, u, hu, hreads, htrail, hperform⟩ := update_reads hscan hw.listed
  have hplan := w.planFor_eq_of_records_eq hu live archived options
  rw [← hplan] at htrail hperform
  rw [htrail] at hscripts ⊢
  obtain ⟨⟨summary, t, hok⟩, herrors, -⟩ := apply_succeeds hn (hw.onlyCollides Succeeds)
    (fun _ h => h) fun m hm => hscripts m (List.mem_append_right _ hm)
  refine ⟨fun m hm => ?_, summary, t, hperform.trans hok, w.unique t, ?_⟩
  · rcases List.mem_append.mp hm with hread | happly
    · exact (hreads m hread).1
    · exact herrors m happly
  -- The plan made from the records before is the one that was carried out, so its parts can be
  -- told.
  · rw [hplan] at hok
    obtain ⟨cs, v, hcs, hmade, ht⟩ :=
      apply_ok dead_planFor_nodup (fun _ => not_dead_of_recovered) hok
    rw [w.view_eq_of_records_eq hu] at hmade
    exact completed_of_settled (settled_of_made hn hcs hmade) hcounters ht

/-! ## A run of every kind -/

/-- The ledger of a bench is healthy. -/
theorem healthy_bench : Healthy Bench.surroundings where
  listed := by
    intro s error herror
    cases herror
  changed := by
    intro c s error herror
    by_contra hc
    have hok := Bench.answer_of_not_collides hc
    change (Bench.answer (.ledger (.change c)) s).1 = _ at herror
    rw [hok] at herror
    cases herror
  counted := by
    intro path s error herror
    cases herror

theorem failing_answer (q : Request) (b : Bench) : (Bench.answer q b).2.failing = b.failing := by
  cases q with
  | scan source =>
      show b.scan.2.failing = b.failing
      rw [Bench.scan]
      split <;> rfl
  | ledger op =>
      cases op with
      | list => rfl
      | change c =>
          by_cases hc : Collides (viewOf b.records) c
          · rw [Bench.answer_of_collides hc]
          · rw [Bench.answer_of_not_collides hc]
            rfl
      | countMissing path => rfl
  | _ => rfl

/-- On a bench where no script fails, every script succeeds. -/
theorem succeeds_of_failing_eq_nil {α : Type} (p : Program interface α) {b : Bench}
    (hb : b.failing = []) : ∀ m ∈ p.trail Bench.answer b, Succeeds m.1 := by
  induction p generalizing b with
  | done a => exact List.forall_mem_nil _
  | ask q next ih =>
      intro m hm
      rcases List.mem_cons.mp hm with rfl | hrest
      · intro location outcome hran
        cases q with
        | runScript other =>
            obtain ⟨rfl, rfl⟩ := Prod.mk.inj (Option.some.inj hran)
            show Except.ok (if other ∈ b.failing then 1 else 0) = _
            rw [hb, if_neg List.not_mem_nil]
        | _ => exact nomatch hran
      · exact ih _ ((failing_answer q b).trans hb) m hrest

/-- Live files to fill in, to run, to move a record to, and to find again. -/
def mixedLive : List Script :=
  [Bench.live "blank.sql" "filled", Bench.live "fresh.sql" "fresh", Bench.live "new.sql" "moved",
    Bench.live "same.sql" "same"]

/-- An archived file with the content of an active record. -/
def mixedArchived : List Script := [⟨"shelf.sql", "kept", ⟨"/archived/shelf.sql"⟩, .archived⟩]

/-- Records of every kind, two of them without a file. -/
def mixedBench : Bench where
  scans := [(mixedLive, mixedArchived)]
  failing := []
  records :=
    [Bench.applied "blank.sql" "", ⟨"gone.sql", "gone", .epoch, 4, .active, 1⟩,
      Bench.applied "lost.sql" "lost", ⟨"old.sql", "moved", .epoch, 9, .active, 2⟩,
      Bench.applied "origin.sql" "kept", ⟨"same.sql", "same", .epoch, 5, .archived, 3⟩]
  unique := by decide

/-- Records are archived, and go after two runs without their files. -/
def mixedOptions : Options := ⟨true, true, true, 1⟩

/-- The run completes: the record of the moved file stands under the new path with its old
    time, and the record that was missed too often is gone. -/
theorem update_completes_mixed :
    (∀ m ∈ (update Bench.source mixedOptions).run.trail Bench.answer mixedBench,
        error? m.1 = none)
      ∧ ∃ summary t, Bench.surroundings.perform (update Bench.source mixedOptions) mixedBench
          = (.ok summary, t)
        ∧ viewOf t.records "new.sql" = some ⟨"new.sql", "moved", .epoch, 9, .active, 0⟩
        ∧ viewOf t.records "gone.sql" = none := by
  have hn : (mixedLive.map Script.path).Nodup := by decide
  have hcounters : ∀ r ∈ Bench.surroundings.records mixedBench, r.missingRuns < 2 ^ 32 - 1 := by
    decide
  have hscripts := succeeds_of_failing_eq_nil (update Bench.source mixedOptions).run
    (show mixedBench.failing = [] from rfl)
  obtain ⟨herrors, summary, t, hok, -, hcompleted⟩ :=
    update_completes healthy_bench hn hcounters rfl hscripts
  have hmoved : (Bench.surroundings.planFor mixedLive mixedArchived mixedOptions
      mixedBench).entries[2]? = some ⟨Bench.live "new.sql" "moved", .renamed "old.sql"⟩ := by cbv
  have hgone : (Bench.surroundings.planFor mixedLive mixedArchived mixedOptions
      mixedBench).dead[0]? = some ⟨"gone.sql", 1⟩ := by cbv
  obtain ⟨r, hr, hnew, -⟩ :=
    hcompleted.moved _ (List.mem_of_getElem? hmoved) "old.sql" rfl
  obtain ⟨r', hr', hdead⟩ := hcompleted.dead _ (List.mem_of_getElem? hgone)
  obtain rfl := Option.some.inj hr
  obtain rfl := Option.some.inj hr'
  exact ⟨herrors, summary, t, hok, hnew, hdead⟩

end SchemaMigration.Update
