import SchemaMigration.Proofs.Plan.Claims
import SchemaMigration.Proofs.Update.Success

/-! # Outcomes — what a successful run leaves for the next plan

    No two entries of a plan touch one path, so what a run leaves under a path is
    the effect of the one entry that touches it, followed by what becomes of
    counters.  Later plans look at stamps and counters only:

    * `update_outcome` tells the stamp under every path, entry by entry;
    * `Outcome.counter` tells which counters are left. -/

namespace SchemaMigration.Update

open Ledger Plan Surroundings

variable {σ : Type} {w : Surroundings σ} {s t : σ}
variable {live archived : List Script} {options : Options}

/-! ## What a plan sees of the ledger -/

theorem recordAt?_listing (q : String) :
    recordAt? (w.listing s) q = (w.view s q).map Record.asRead := by
  rw [recordAt?_eq_viewOf (w.listing_unique s)]
  exact viewOf_asRead _ _

/-- A plan sees a stored record as it is read. -/
theorem recordAt?_of_view {q : String} {r : Record} (h : w.view s q = some r) :
    recordAt? (w.inputFor live archived options s).records q = some r.asRead := by
  show recordAt? (w.listing s) q = _
  rw [recordAt?_listing, h]
  rfl

/-- A record that a plan sees is stored. -/
theorem exists_view_of_recordAt? {q : String} {r : Record}
    (h : recordAt? (w.inputFor live archived options s).records q = some r) :
    ∃ stored, w.view s q = some stored ∧ stored.asRead = r :=
  Option.map_eq_some_iff.mp ((recordAt?_listing q).symm.trans h)

/-- A script whose hash is to be filled in has a record without one. -/
theorem blank_of_rehash {e : PlannedFile}
    (he : e ∈ (w.planFor live archived options s).entries) (hv : e.verdict = .rehash) :
    e ∈ liveEntries (w.inputFor live archived options s) ∧ options.allowRehash = true
      ∧ ∃ r, w.view s e.script.path = some r ∧ r.hash = "" := by
  have hl : e ∈ liveEntries (w.inputFor live archived options s) :=
    liveEntry_of_ne he hv Verdict.noConfusion fun _ => Verdict.noConfusion
  obtain ⟨taken, hfirst⟩ := first_of_liveEntry hl fun _ => by rw [hv]; exact Verdict.noConfusion
  rw [hv] at hfirst
  cases hfirst with
  | rehash hrec _ hblank ha =>
      obtain ⟨stored, hstored, rfl⟩ := exists_view_of_recordAt? hrec
      exact ⟨hl, ha, stored, hstored, hblank⟩

/-- A live script has an entry in the plan. -/
theorem exists_entry_of_live {x : Script} (h : x ∈ live) :
    ∃ e ∈ liveEntries (w.inputFor live archived options s), e.script = x :=
  @exists_liveEntry (w.inputFor live archived options s) x h

theorem exists_entry_of_archived {x : Script} (h : x ∈ archived) :
    ∃ e ∈ archivedEntries (w.inputFor live archived options s), e.script = x :=
  @exists_archivedEntry (w.inputFor live archived options s) x h

theorem recordAt?_eq_none_iff_stampAt {q : String} :
    recordAt? (w.listing s) q = none ↔ stampAt (w.view s) q = none := by
  rw [recordAt?_listing, Option.map_eq_none_iff, stampAt_eq_none_iff]

/-- Whether a record is one that a file with its content looks for, by its stamp. -/
theorem active_iff_stampAt {hash q : String} :
    (∃ r ∈ activeWith (w.listing s) hash, r.path = q)
      ↔ hash ≠ "" ∧ stampAt (w.view s) q = some (hash, .active) := by
  rw [stampAt_eq_some_iff]
  constructor
  · rintro ⟨r, hr, rfl⟩
    obtain ⟨hmem, hstate, hne, rfl⟩ := mem_activeWith.mp hr
    obtain ⟨stored, hstored, rfl⟩ := w.mem_listing_iff.mp hmem
    exact ⟨hne, stored, w.mem_records_iff.mp hstored, rfl, hstate⟩
  · rintro ⟨hne, r, hview, rfl, hstate⟩
    have hpath := path_of_view hview
    refine ⟨r.asRead, mem_activeWith.mpr ⟨?_, hstate, hne, rfl⟩, hpath⟩
    exact w.mem_listing_iff.mpr ⟨r, mem_of_viewOf hview, rfl⟩

/-- A record is dead if it is stored and no file accounts for it. -/
theorem mem_dead_iff_view {q : String} :
    q ∈ (w.planFor live archived options s).dead.map DeadReference.path
      ↔ ∃ r, w.view s q = some r ∧ ¬Present (w.inputFor live archived options s) r := by
  rw [List.mem_map]
  constructor
  · rintro ⟨d, hd, rfl⟩
    obtain ⟨r, hr, hp, rfl⟩ := mem_dead_iff.mp hd
    obtain ⟨stored, hstored, rfl⟩ := w.mem_listing_iff.mp hr
    exact ⟨stored, w.mem_records_iff.mp hstored, hp⟩
  · rintro ⟨r, hview, hp⟩
    have hr : r.asRead ∈ w.listing s := w.mem_listing_iff.mpr ⟨r, mem_of_viewOf hview, rfl⟩
    have hpath : r.path = q := path_of_view hview
    exact ⟨_, mem_dead_iff.mpr ⟨r.asRead, hr, hp, rfl⟩, hpath⟩

/-- A record is recovered if it is stored with a counter and a file accounts for it. -/
theorem mem_recovered_iff_view {q : String} :
    q ∈ (w.planFor live archived options s).recovered
      ↔ ∃ r, w.view s q = some r ∧ Present (w.inputFor live archived options s) r
        ∧ 0 < readCounter r.missingRuns := by
  constructor
  · intro hq
    obtain ⟨r, hr, hp, hpos, rfl⟩ := mem_recovered_iff.mp hq
    obtain ⟨stored, hstored, rfl⟩ := w.mem_listing_iff.mp hr
    exact ⟨stored, w.mem_records_iff.mp hstored, hp, hpos⟩
  · rintro ⟨r, hview, hp, hpos⟩
    have hr : r.asRead ∈ w.listing s := w.mem_listing_iff.mpr ⟨r, mem_of_viewOf hview, rfl⟩
    have hpath : r.path = q := path_of_view hview
    exact mem_recovered_iff.mpr ⟨r.asRead, hr, hp, hpos, hpath⟩

theorem dead_planFor_nodup :
    ((w.planFor live archived options s).dead.map DeadReference.path).Nodup :=
  dead_nodup (w.listing_unique s)

/-- A record that is back is not dead. -/
theorem not_dead_of_recovered {q : String}
    (h : q ∈ (w.planFor live archived options s).recovered) :
    q ∉ (w.planFor live archived options s).dead.map DeadReference.path := by
  obtain ⟨r, hr, hp, -⟩ := mem_recovered_iff_view.mp h
  intro hd
  obtain ⟨r', hr', hp'⟩ := mem_dead_iff_view.mp hd
  obtain rfl := Option.some.inj (hr.symm.trans hr')
  exact hp' hp

/-! ## Changes and touched paths -/

/-- The changes of a run are about the touched paths, each once. -/
theorem paths_perm_touched (es : List PlannedFile) :
    ((es.filterMap ledgerChange).flatMap Change.paths
        ++ (es.filter fun e => e.verdict.isPending).map fun e => e.script.path).Perm
      (es.flatMap touched) := by
  induction es with
  | nil => exact .nil
  | cons e rest ih =>
      obtain ⟨x, verdict⟩ := e
      rw [List.flatMap_cons]
      cases verdict with
      | pending reason => exact List.perm_middle.trans (ih.cons x.path)
      | renamed old => exact (ih.cons x.path).cons old
      | rehash => exact ih.cons x.path
      | archivedRedundant record => exact ih.cons record
      | applied => exact ih
      | redundant kept => exact ih
      | archived => exact ih

/-- The ledger when the changes of a plan are made and its scripts are recorded:
    every entry had the effect that it would have alone. -/
structure Settled (w : Surroundings σ) (live archived : List Script) (options : Options) (s : σ)
    (v : View) : Prop where
  ran : ∀ e ∈ (w.planFor live archived options s).pending, ∃ time speed,
    v e.script.path = some ⟨e.script.path, e.script.hash, time, speed, .active, 0⟩
  changed : ∀ e ∈ (w.planFor live archived options s).entries, ∀ c, ledgerChange e = some c →
    ∃ time, ∀ q ∈ c.paths, v q = c.onto time (w.view s) q
  kept : ∀ q, q ∉ (w.planFor live archived options s).entries.flatMap touched →
    v q = w.view s q

/-- Once all changes are made, every entry is settled and every other record is as before. -/
theorem settled_of_made (hn : (live.map Script.path).Nodup) {cs : List Change} {v : View}
    (hcs : Recordings (w.planFor live archived options s).pending cs)
    (hmade : Made ((w.planFor live archived options s).entries.filterMap ledgerChange ++ cs)
      (w.view s) v) : Settled w live archived options s v := by
  set p := w.planFor live archived options s with hp
  -- The changes are about the touched paths, so no two of them are about one path.
  have hperm : ((p.entries.filterMap ledgerChange ++ cs).flatMap Change.paths).Perm
      (p.entries.flatMap touched) := by
    rw [List.flatMap_append, hcs.paths]
    exact paths_perm_touched p.entries
  have hnodup := hperm.nodup_iff.mpr (@touched_nodup (w.inputFor live archived options s) hn)
  constructor
  · intro e he
    obtain ⟨speed, hc⟩ := hcs.exists_mem he
    obtain ⟨time, heffect⟩ := hmade.touched hnodup (List.mem_append_right _ hc)
    refine ⟨time, speed, ?_⟩
    rw [heffect _ (List.mem_singleton_self _), Change.onto_record_self]
  · intro e he c hc
    exact hmade.touched hnodup (List.mem_append_left _ (List.mem_filterMap.mpr ⟨e, he, hc⟩))
  · intro q hq
    refine hmade.untouched fun c hc hqc => hq ?_
    exact hperm.mem_iff.mp (List.mem_flatMap.mpr ⟨c, hc, hqc⟩)

/-- A file of a path is run, or takes over the record of another path. -/
def StartsAnew (w : Surroundings σ) (live archived : List Script) (options : Options) (s : σ)
    (q : String) : Prop :=
  ∃ e ∈ (w.planFor live archived options s).entries, e.script.path = q
    ∧ (e.verdict.isPending = true ∨ ∃ old, e.verdict = .renamed old)

namespace Settled

variable {v : View} {e : PlannedFile} {old q : String}

/-- A record that a script takes over stands under the path of the script, and there only. -/
theorem movedTo (h : Settled w live archived options s v)
    (he : e ∈ (w.planFor live archived options s).entries) (hv : e.verdict = .renamed old) :
    ∃ r, w.view s old = some r ∧ r.stamp = (e.script.hash, .active)
      ∧ v e.script.path = some (r.movedTo e.script.path) ∧ v old = none := by
  have hl : e ∈ liveEntries (w.inputFor live archived options s) :=
    liveEntry_of_ne he hv Verdict.noConfusion fun _ => Verdict.noConfusion
  obtain ⟨-, -, -, hnot, hactive⟩ := claim_of_liveEntry hl (claim?_of_renamed hv)
  obtain ⟨r, hr, hhash, hstate⟩ := stampAt_eq_some_iff.mp (active_iff_stampAt.mp hactive).2
  obtain ⟨time, heffect⟩ := h.changed e he _ (ledgerChange_of_renamed hv)
  rw [Change.onto_rename_of_some hr] at heffect
  have hne : old ≠ e.script.path := by
    intro heq
    rw [heq, isLive_script hl] at hnot
    exact Bool.noConfusion hnot
  refine ⟨r, hr, Prod.ext hhash hstate, ?_, ?_⟩
  · rw [heffect _ (by simp [Change.paths]), Function.update_self]
  · rw [heffect _ (by simp [Change.paths]), Function.update_of_ne hne, Function.update_self]

/-- A record that is taken over keeps its stamp, and its counter is reset. -/
theorem moved (h : Settled w live archived options s v)
    (he : e ∈ (w.planFor live archived options s).entries) (hv : e.verdict = .renamed old) :
    (∃ r, v e.script.path = some r ∧ r.stamp = (e.script.hash, .active) ∧ r.missingRuns = 0)
      ∧ v old = none := by
  obtain ⟨r, -, hstamp, hnew, hgone⟩ := h.movedTo he hv
  exact ⟨⟨_, hnew, hstamp, rfl⟩, hgone⟩

/-- A record without a hash gets that of the script. -/
theorem filled (h : Settled w live archived options s v)
    (he : e ∈ (w.planFor live archived options s).entries) (hv : e.verdict = .rehash) :
    v e.script.path
      = (w.view s e.script.path).map fun r => { r with hash := e.script.hash } := by
  obtain ⟨time, heffect⟩ := h.changed e he _ (ledgerChange_of_rehash hv)
  rw [heffect _ (List.mem_singleton_self _), Change.onto_rehash_self]

/-- A record whose script turns up in the archive is archived. -/
theorem shelved (h : Settled w live archived options s v)
    (he : e ∈ (w.planFor live archived options s).entries)
    (hv : e.verdict = .archivedRedundant q) :
    v q = (w.view s q).map Record.shelved
      ∧ stampAt (w.view s) q = some (e.script.hash, .active) := by
  obtain ⟨time, heffect⟩ := h.changed e he _ (ledgerChange_of_archivedRedundant hv)
  obtain ⟨-, -, -, hactive⟩ :=
    claim_of_archivedEntry (archivedEntry_of_eq he hv) (claim?_of_archivedRedundant hv)
  refine ⟨?_, (active_iff_stampAt.mp hactive).2⟩
  rw [heffect _ (List.mem_singleton_self _), Change.onto_archive_self]

/-- A record that was made or moved has no counter. -/
theorem counter_of_startsAnew (h : Settled w live archived options s v)
    (hq : StartsAnew w live archived options s q) {r : Record} (hr : v q = some r) :
    r.missingRuns = 0 := by
  obtain ⟨e, he, rfl, hp | ⟨old, hv⟩⟩ := hq
  · obtain ⟨time, speed, hran⟩ := h.ran e (List.mem_filter.mpr ⟨he, hp⟩)
    rw [hran] at hr
    rw [← Option.some.inj hr]
  · obtain ⟨⟨r', hmoved, -, hzero⟩, -⟩ := h.moved he hv
    rw [hmoved] at hr
    rw [← Option.some.inj hr, hzero]

/-- Any other record has the counter that it had. -/
theorem counter_of_not_startsAnew (h : Settled w live archived options s v)
    (hq : ¬StartsAnew w live archived options s q) {r : Record} (hr : v q = some r) :
    ∃ r₀, w.view s q = some r₀ ∧ r₀.missingRuns = r.missingRuns := by
  by_cases htouch : q ∈ (w.planFor live archived options s).entries.flatMap touched
  · obtain ⟨e, he, hqe⟩ := List.mem_flatMap.mp htouch
    -- Of the entries that touch the path, those that start the counter anew are excluded by
    -- hypothesis.
    cases hv : e.verdict with
    | pending reason =>
        have hp : e.verdict.isPending = true := by rw [hv]; rfl
        rw [touched_of_isPending hp] at hqe
        exact absurd ⟨e, he, (List.mem_singleton.mp hqe).symm, Or.inl hp⟩ hq
    | renamed old =>
        rw [touched_of_renamed hv] at hqe
        rcases List.mem_cons.mp hqe with hold | hnew
        · rw [hold, (h.moved he hv).2] at hr
          exact nomatch hr
        · exact absurd ⟨e, he, (List.mem_singleton.mp hnew).symm, Or.inr ⟨old, hv⟩⟩ hq
    | rehash =>
        rw [touched_of_rehash hv] at hqe
        rw [List.mem_singleton.mp hqe, h.filled he hv] at hr
        obtain ⟨r₀, hr₀, rfl⟩ := Option.map_eq_some_iff.mp hr
        exact ⟨r₀, List.mem_singleton.mp hqe ▸ hr₀, rfl⟩
    | archivedRedundant record =>
        rw [touched_of_archivedRedundant hv] at hqe
        rw [List.mem_singleton.mp hqe, (h.shelved he hv).1] at hr
        obtain ⟨r₀, hr₀, rfl⟩ := Option.map_eq_some_iff.mp hr
        exact ⟨r₀, List.mem_singleton.mp hqe ▸ hr₀, rfl⟩
    | _ =>
        rw [touched_of_isQuiet (by rw [hv]; rfl)] at hqe
        exact nomatch hqe
  · exact ⟨r, h.kept q htouch ▸ hr, rfl⟩

/-- No counter has grown yet. -/
theorem counter (h : Settled w live archived options s v) {r : Record} (hr : v q = some r) :
    r.missingRuns = 0 ∨ ∃ r₀, w.view s q = some r₀ ∧ r₀.missingRuns = r.missingRuns := by
  by_cases hq : StartsAnew w live archived options s q
  · exact Or.inl (h.counter_of_startsAnew hq hr)
  · exact Or.inr (h.counter_of_not_startsAnew hq hr)

/-- Counters that can be read can still be read. -/
theorem counter_lt (h : Settled w live archived options s v)
    (hcounters : ∀ r ∈ w.records s, r.missingRuns < 2 ^ 32) {r : Record} (hr : v q = some r) :
    r.missingRuns < 2 ^ 32 := by
  rcases h.counter hr with hzero | ⟨r₀, hr₀, hsame⟩
  · rw [hzero]
    exact Nat.two_pow_pos 32
  · rw [← hsame]
    exact hcounters r₀ (mem_of_viewOf hr₀)

end Settled

/-! ## The end of a run -/

/-- The records that the plan leaves without a file. -/
abbrev deadPaths (w : Surroundings σ) (live archived : List Script) (options : Options) (s : σ) :
    List String :=
  (w.planFor live archived options s).dead.map DeadReference.path

/-- Looking after counters changes no stamp but those of dead records. -/
theorem stampAt_tidied {p : Plan} {v : View} {q : String}
    (hq : q ∉ p.dead.map DeadReference.path) :
    stampAt (tidied p options v) q = stampAt v q := by
  cases hl : options.limit? with
  | none => rw [tidied_of_none hl]
  | some limit =>
      rw [stampAt, stampAt, tidied_of_not_dead hl hq]
      by_cases hr : q ∈ p.recovered
      · rw [if_pos hr, Option.map_map]
        rfl
      · rw [if_neg hr]

/-- What a successful run leaves of the ledger, as far as later plans see it. -/
structure Outcome (w : Surroundings σ) (live archived : List Script) (options : Options)
    (s t : σ) : Prop where
  ran : ∀ e ∈ (w.planFor live archived options s).pending,
    stampAt (w.view t) e.script.path = some (e.script.hash, .active)
  moved : ∀ e ∈ (w.planFor live archived options s).entries, ∀ old, e.verdict = .renamed old →
    stampAt (w.view t) e.script.path = some (e.script.hash, .active)
      ∧ stampAt (w.view t) old = none
  filled : ∀ e ∈ (w.planFor live archived options s).entries, e.verdict = .rehash →
    stampAt (w.view t) e.script.path
      = (stampAt (w.view s) e.script.path).map fun m => (e.script.hash, m.2)
  shelved : ∀ e ∈ (w.planFor live archived options s).entries, ∀ q,
    e.verdict = .archivedRedundant q → stampAt (w.view t) q = some (e.script.hash, .archived)
  kept : ∀ q, q ∉ (w.planFor live archived options s).entries.flatMap touched →
    q ∉ deadPaths w live archived options s → stampAt (w.view t) q = stampAt (w.view s) q
  dead : ∀ q ∈ deadPaths w live archived options s,
    w.view t q = match options.limit? with
      | none => w.view s q
      | some limit => (w.view s q).bind (buried limit)
  counter : ∀ limit, options.limit? = some limit → ∀ q r, w.view t q = some r →
    q ∉ deadPaths w live archived options s → readCounter r.missingRuns = 0

/-- Touched records are not dead. -/
theorem not_dead_of_touched {q : String}
    (h : q ∈ (w.planFor live archived options s).entries.flatMap touched) :
    q ∉ deadPaths w live archived options s := by
  intro hd
  obtain ⟨r, hr, hp⟩ := mem_dead_iff_view.mp hd
  have hpath : r.path = q := path_of_view hr
  subst hpath
  exact hp (present_of_touched h)

/-- Until counters are looked after, a dead record is as it was at the start. -/
theorem dead_kept (hn : (live.map Script.path).Nodup) {s₁ s₂ : σ}
    (h₁ : w.perform (settleAll (w.planFor live archived options s).entries) s = (.ok (), s₁))
    (h₂ : w.perform (applyAll (w.planFor live archived options s).pending) s₁ = (.ok (), s₂))
    {d : DeadReference} (hd : d ∈ (w.planFor live archived options s).dead) :
    w.view s₂ d.path = w.view s d.path := by
  obtain ⟨cs, hcs, hmade⟩ := applyAll_ok h₂
  refine (settled_of_made hn hcs ((settleAll_ok h₁).append hmade)).kept _ fun htouch => ?_
  exact not_dead_of_touched htouch (List.mem_map_of_mem hd)

/-- A counter that is left where a limit is set belongs to a dead record: a record with
    a file has been recovered, and one that was touched has none. -/
theorem counter_tidied {v : View} (h : Settled w live archived options s v) {limit : Nat}
    (hlimit : options.limit? = some limit) {q : String} {r : Record}
    (hr : tidied (w.planFor live archived options s) options v q = some r)
    (hd : q ∉ deadPaths w live archived options s) : readCounter r.missingRuns = 0 := by
  rw [tidied_of_not_dead hlimit hd] at hr
  by_cases hrec : q ∈ (w.planFor live archived options s).recovered
  · rw [if_pos hrec] at hr
    obtain ⟨r₀, -, rfl⟩ := Option.map_eq_some_iff.mp hr
    rfl
  · rw [if_neg hrec] at hr
    rcases h.counter hr with hzero | ⟨r₀, hr₀, hsame⟩
    · rw [hzero]
      rfl
    · rw [← hsame]
      by_contra hpos
      have hp : ¬Present (w.inputFor live archived options s) r₀ := fun hp =>
        hrec (mem_recovered_iff_view.mpr ⟨r₀, hr₀, hp, Nat.pos_of_ne_zero hpos⟩)
      exact hd (mem_dead_iff_view.mpr ⟨r₀, hr₀, hp⟩)

/-- Cleaning up what is settled gives the outcome. -/
theorem outcome_of_settled {v : View} (h : Settled w live archived options s v)
    (ht : w.view t = tidied (w.planFor live archived options s) options v) :
    Outcome w live archived options s t := by
  -- Cleaning up leaves the stamps of touched paths, so what was settled can be read off after it.
  have htouched : ∀ e ∈ (w.planFor live archived options s).entries, ∀ q ∈ touched e,
      stampAt (w.view t) q = stampAt v q := by
    intro e he q hq
    rw [ht]
    exact stampAt_tidied (not_dead_of_touched (List.mem_flatMap.mpr ⟨e, he, hq⟩))
  constructor
  case ran =>
    intro e he
    obtain ⟨hmem, hp⟩ := List.mem_filter.mp he
    obtain ⟨time, speed, hran⟩ := h.ran e he
    have hown : e.script.path ∈ touched e := mem_touched_of_isPending hp
    rw [htouched e hmem _ hown, stampAt, hran]
    rfl
  case moved =>
    intro e he old hv
    obtain ⟨⟨r, hr, hstamp, -⟩, hgone⟩ := h.moved he hv
    have hboth : ∀ q ∈ [old, e.script.path], stampAt (w.view t) q = stampAt v q := fun q hq =>
      htouched e he q (by rw [touched_of_renamed hv]; exact hq)
    constructor
    · rw [hboth _ (by simp), stampAt, hr]
      exact congrArg some hstamp
    · rw [hboth _ (by simp), stampAt, hgone]
      rfl
  case filled =>
    intro e he hv
    have hown : e.script.path ∈ touched e := mem_touched_of_rehash hv
    rw [htouched e he _ hown, stampAt, h.filled he hv, stampAt, Option.map_map, Option.map_map]
    rfl
  case shelved =>
    intro e he q hv
    obtain ⟨hshelved, hstamp⟩ := h.shelved he hv
    have hown : q ∈ touched e := mem_touched_of_archivedRedundant hv
    obtain ⟨r, hr, hhash, -⟩ := stampAt_eq_some_iff.mp hstamp
    rw [htouched e he _ hown, stampAt, hshelved, hr]
    exact congrArg some (Prod.ext hhash rfl)
  case kept =>
    intro q hq hd
    rw [ht, stampAt_tidied hd, stampAt, h.kept q hq]
    rfl
  case dead =>
    intro q hq
    have hkept : v q = w.view s q := h.kept q fun htouch => not_dead_of_touched htouch hq
    rw [ht]
    cases hl : options.limit? with
    | none => rw [tidied_of_none hl, hkept]
    | some limit => rw [tidied_of_dead hl hq, hkept]
  case counter =>
    intro limit hlimit q r hr hd
    rw [ht] at hr
    exact counter_tidied h hlimit hr hd

namespace Outcome

variable {e : PlannedFile}

/-- A live script whose entry touches nothing keeps the record that it has. -/
theorem live_kept (h : Outcome w live archived options s t) (hn : (live.map Script.path).Nodup)
    (he : e ∈ liveEntries (w.inputFor live archived options s)) (hv : touched e = []) :
    stampAt (w.view t) e.script.path = stampAt (w.view s) e.script.path := by
  refine h.kept _ (fun htouch => ?_) fun hd => ?_
  · obtain ⟨e', he', hq⟩ := List.mem_flatMap.mp htouch
    obtain rfl := eq_of_touched_live hn he he' hq
    rw [hv] at hq
    exact nomatch hq
  · obtain ⟨r, hr, hp⟩ := mem_dead_iff_view.mp hd
    have hpath : r.path = e.script.path := path_of_view hr
    exact hp (Or.inl (hpath ▸ isLive_script he))

/-- A live script that is not skipped has a record of its content afterwards. -/
theorem live_settled (h : Outcome w live archived options s t) (hn : (live.map Script.path).Nodup)
    (he : e ∈ liveEntries (w.inputFor live archived options s))
    (hv : ∀ kept, e.verdict ≠ .redundant kept) :
    ∃ state, stampAt (w.view t) e.script.path = some (e.script.hash, state) := by
  have hmem : e ∈ (w.planFor live archived options s).entries := mem_entries_build.mpr (Or.inl he)
  by_cases hp : e.verdict.isPending = true
  · exact ⟨.active, h.ran e (mem_pending_iff.mpr ⟨he, hp⟩)⟩
  · -- The verdict is the script's own, so its record is of its content or becomes so.
    obtain ⟨taken, hfirst⟩ := first_of_liveEntry he hv
    have hstamp : ∀ r,
        recordAt? (w.inputFor live archived options s).records e.script.path = some r →
          stampAt (w.view s) e.script.path = some r.stamp := by
      intro r hr
      obtain ⟨stored, hstored, rfl⟩ := exists_view_of_recordAt? hr
      rw [stampAt, hstored]
      rfl
    cases hverdict : e.verdict with
    -- Nothing was to be done, since the record had the content already.
    | applied =>
        rw [hverdict] at hfirst
        cases hfirst with
        | applied hr hh =>
            have hquiet : touched e = [] := touched_of_isQuiet (by rw [hverdict]; rfl)
            rw [h.live_kept hn he hquiet, hstamp _ hr, ← hh]
            exact ⟨_, rfl⟩
    | renamed old => exact ⟨.active, (h.moved e hmem old hverdict).1⟩
    | rehash =>
        rw [hverdict] at hfirst
        cases hfirst with
        | rehash hr =>
            rw [h.filled e hmem hverdict, hstamp _ hr]
            exact ⟨_, rfl⟩
    | redundant kept => exact absurd hverdict (hv kept)
    | pending reason => rw [hverdict] at hp; exact absurd rfl hp
    | archivedRedundant record => rw [hverdict] at hfirst; cases hfirst
    | archived => rw [hverdict] at hfirst; cases hfirst

variable {path hash : String}

/-- A dead record that is left has been counted, within the limit. -/
theorem counted_of_dead (h : Outcome w live archived options s t) {limit : Nat}
    (hlimit : options.limit? = some limit) (hd : path ∈ deadPaths w live archived options s)
    {r : Record} (hr : w.view t path = some r) :
    ∃ r₀, w.view s path = some r₀ ∧ ¬Present (w.inputFor live archived options s) r₀
      ∧ r = r₀.counted ∧ readCounter (r₀.missingRuns + 1) ≤ limit := by
  obtain ⟨r₀, hr₀, habsent⟩ := mem_dead_iff_view.mp hd
  have hview := h.dead path hd
  rw [hlimit, hr₀, hr] at hview
  change some r = buried limit r₀ at hview
  rw [buried] at hview
  by_cases hm : readCounter (r₀.missingRuns + 1) > limit
  · rw [if_pos hm] at hview
    exact nomatch hview
  · rw [if_neg hm] at hview
    exact ⟨r₀, hr₀, habsent, Option.some.inj hview, Nat.le_of_not_gt hm⟩

/-- A claimed record is moved away or archived. -/
theorem not_active_of_claimed (h : Outcome w live archived options s t)
    (hc : path ∈ claims (w.planFor live archived options s).entries) :
    stampAt (w.view t) path ≠ some (hash, .active) := by
  intro hstamp
  obtain ⟨e, he, hclaim⟩ := mem_claims.mp hc
  rcases mem_entries_build.mp he with hl | ha
  · rw [(h.moved e he path (claim_of_liveEntry hl hclaim).1).2] at hstamp
    exact nomatch hstamp
  · rw [h.shelved e he path (claim_of_archivedEntry ha hclaim).1] at hstamp
    exact nomatch hstamp

/-- A record at a path that is not live is as it was, unless it is claimed or dead. -/
theorem loose_kept (h : Outcome w live archived options s t) (hlive : isLive live path = false)
    (hc : path ∉ claims (w.planFor live archived options s).entries)
    (hd : path ∉ deadPaths w live archived options s) :
    stampAt (w.view t) path = stampAt (w.view s) path := by
  refine h.kept path (fun htouch => ?_) hd
  obtain ⟨e, he, hq⟩ := List.mem_flatMap.mp htouch
  rcases mem_touched_build he hq with ⟨hl, hown⟩ | hclaim
  · have := isLive_script hl
    rw [← hown] at this
    exact nomatch hlive.symm.trans this
  · exact hc (mem_claims.mpr ⟨e, he, hclaim⟩)

/-- An active record at a path that is not live was there before, and is not claimed. -/
theorem loose (h : Outcome w live archived options s t) (hlive : isLive live path = false)
    (hstamp : stampAt (w.view t) path = some (hash, .active)) :
    stampAt (w.view s) path = some (hash, .active)
      ∧ path ∉ claims (w.planFor live archived options s).entries := by
  have hc : path ∉ claims (w.planFor live archived options s).entries := fun hc =>
    h.not_active_of_claimed hc hstamp
  refine ⟨?_, hc⟩
  by_cases hd : path ∈ deadPaths w live archived options s
  · -- A dead record that is still there differs by its counter at most.
    obtain ⟨r, hr, hhash, hstate⟩ := stampAt_eq_some_iff.mp hstamp
    cases hlimit : options.limit? with
    | none =>
        have hview := h.dead path hd
        rw [hlimit] at hview
        exact stampAt_eq_some_iff.mpr ⟨r, hview.symm.trans hr, hhash, hstate⟩
    | some limit =>
        obtain ⟨r₀, hr₀, -, rfl, -⟩ := h.counted_of_dead hlimit hd hr
        exact stampAt_eq_some_iff.mpr ⟨r₀, hr₀, hhash, hstate⟩
  -- A record that is neither live nor claimed nor dead was not touched at all.
  · rw [← h.loose_kept hlive hc hd]
    exact hstamp

end Outcome

/-- A successful run leaves what its plan settles and looks after. -/
theorem settled_of_ok {source : ScriptSource} {summary : Summary}
    (hn : (live.map Script.path).Nodup)
    (hscan : (w.answer (.scan source) s).1 = .ok (live, archived))
    (h : w.perform (update source options) s = (.ok summary, t)) :
    ∃ v, Settled w live archived options s v
      ∧ w.view t = tidied (w.planFor live archived options s) options v := by
  obtain ⟨live', archived', u, hscan', hu, happly⟩ := update_ok h
  obtain ⟨rfl, rfl⟩ := Prod.mk.inj (Except.ok.inj (hscan.symm.trans hscan'))
  obtain ⟨cs, v, hcs, hmade, ht⟩ :=
    apply_ok dead_planFor_nodup (fun _ => not_dead_of_recovered) happly
  rw [view_eq_of_records_eq w hu] at hmade
  exact ⟨v, settled_of_made hn hcs hmade, ht⟩

/-- A successful run has the outcome of the plan for the files that it found. -/
theorem update_outcome {source : ScriptSource} {summary : Summary}
    (hn : (live.map Script.path).Nodup)
    (hscan : (w.answer (.scan source) s).1 = .ok (live, archived))
    (h : w.perform (update source options) s = (.ok summary, t)) :
    Outcome w live archived options s t := by
  obtain ⟨v, hsettled, ht⟩ := settled_of_ok hn hscan h
  exact outcome_of_settled hsettled ht

end SchemaMigration.Update
