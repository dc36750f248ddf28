import SchemaMigration.Proofs.Update.Bench
import SchemaMigration.Proofs.Update.Outcome

/-! # Reruns — what the same files ask of the next run

    After a successful run every live script has a record of its content, except
    for those that were skipped because another script or record had the same
    content.  A skipped script leaves nothing behind, so whether it stays skipped
    depends on what the run made of that other content:

    * `Leaves` and `Stray` are the two ways in which an active record with some
      content is there afterwards, told before the run;
    * `Covered` says of a skipped script that the next plan skips or moves it too;
    * `rerun_applies_nothing_iff`: the next run applies nothing exactly if every
      skipped script is covered. -/

namespace SchemaMigration.Update

open Ledger Plan Surroundings

variable {σ : Type} {w : Surroundings σ} {s t : σ}
variable {live archived : List Script} {options : Options}

/-! ## Records that a run leaves -/

/-- The entry of a live script leaves an active record with some content at its path. -/
def Leaves (w : Surroundings σ) (s : σ) (hash : String) (e : PlannedFile) : Prop :=
  match e.verdict with
  | .pending _ => e.script.hash = hash
  | .renamed _ => e.script.hash = hash
  | .rehash =>
      e.script.hash = hash ∧ ∃ r, w.view s e.script.path = some r ∧ r.state = .active
  | _ => stampAt (w.view s) e.script.path = some (hash, .active)

/-- An active record with some content stays at a path that is not live: no file
    takes it over, and it is not removed. -/
def Stray (w : Surroundings σ) (live archived : List Script) (options : Options) (s : σ)
    (hash path : String) : Prop :=
  isLive live path = false
    ∧ stampAt (w.view s) path = some (hash, .active)
    ∧ path ∉ claims (w.planFor live archived options s).entries
    ∧ ∀ limit, options.limit? = some limit → path ∈ deadPaths w live archived options s →
        ∀ r, w.view s path = some r → readCounter (r.missingRuns + 1) ≤ limit

/-- A live entry leaves an active record of some content under its own path exactly if it leaves
that content. -/
theorem leaves_iff (h : Outcome w live archived options s t) (hn : (live.map Script.path).Nodup)
    {e : PlannedFile} (he : e ∈ liveEntries (w.inputFor live archived options s)) {hash : String} :
    stampAt (w.view t) e.script.path = some (hash, .active) ↔ Leaves w s hash e := by
  have hmem : e ∈ (w.planFor live archived options s).entries := mem_entries_build.mpr (Or.inl he)
  have hkept : touched e = [] →
      (stampAt (w.view t) e.script.path = some (hash, .active)
        ↔ stampAt (w.view s) e.script.path = some (hash, .active)) := fun hv => by
    rw [h.live_kept hn he hv]
  rw [Leaves]
  -- Scripts that are run, moved or rehashed bring their content; the others keep the record.
  cases hv : e.verdict with
  | pending reason =>
      have hp : e.verdict.isPending = true := by rw [hv]; rfl
      rw [h.ran e (mem_pending_iff.mpr ⟨he, hp⟩)]
      simp
  | renamed old =>
      rw [(h.moved e hmem old hv).1]
      simp
  | rehash =>
      rw [h.filled e hmem hv, stampAt, Option.map_map, Option.map_eq_some_iff]
      constructor
      · rintro ⟨r, hr, hstamp⟩
        obtain ⟨hhash, hstate⟩ := Prod.mk.inj hstamp
        exact ⟨hhash, r, hr, hstate⟩
      · rintro ⟨hhash, r, hr, hstate⟩
        exact ⟨r, hr, Prod.ext hhash hstate⟩
  | archivedRedundant record =>
      obtain ⟨l₁, l₂, -, heq⟩ := mem_liveEntries_iff.mp he
      exact absurd (heq.symm.trans hv) liveVerdict_ne_archivedRedundant
  | applied => exact hkept (touched_of_isQuiet (by rw [hv]; rfl))
  | redundant kept => exact hkept (touched_of_isQuiet (by rw [hv]; rfl))
  | archived => exact hkept (touched_of_isQuiet (by rw [hv]; rfl))

/-- Any other path has such a record exactly if it had it, and nothing has taken or buried it. -/
theorem stray_iff (h : Outcome w live archived options s t) {hash path : String}
    (hlive : isLive live path = false) :
    stampAt (w.view t) path = some (hash, .active)
      ↔ Stray w live archived options s hash path := by
  constructor
  · intro hstamp
    obtain ⟨hbefore, hc⟩ := h.loose hlive hstamp
    refine ⟨hlive, hbefore, hc, fun limit hlimit hd r hr => ?_⟩
    obtain ⟨r', hr', -⟩ := stampAt_eq_some_iff.mp hstamp
    obtain ⟨r₀, hr₀, -, -, hle⟩ := h.counted_of_dead hlimit hd hr'
    obtain rfl := Option.some.inj (hr.symm.trans hr₀)
    exact hle
  · rintro ⟨-, hbefore, hc, hstays⟩
    by_cases hd : path ∈ deadPaths w live archived options s
    · obtain ⟨r, hr, hhash, hstate⟩ := stampAt_eq_some_iff.mp hbefore
      have hview := h.dead path hd
      cases hlimit : options.limit? with
      | none =>
          rw [hlimit] at hview
          exact stampAt_eq_some_iff.mpr ⟨r, hview.trans hr, hhash, hstate⟩
      | some limit =>
          rw [hlimit, hr] at hview
          change w.view t path = buried limit r at hview
          rw [buried, if_neg (Nat.not_lt_of_le (hstays limit hlimit hd r hr))] at hview
          exact stampAt_eq_some_iff.mpr ⟨r.counted, hview, hhash, hstate⟩
    · rw [h.loose_kept hlive hc hd]
      exact hbefore

/-! ## Skipped scripts in the next plan -/

/-- A skipped script is skipped, or moved, by the next plan as well: it has no
    record of its own, its content keeps an active record at a live path, and
    records that could be moved to it may be moved. -/
structure Covered (w : Surroundings σ) (live archived : List Script) (options : Options) (s : σ)
    (x : Script) : Prop where
  unrecorded : w.view s x.path = none
  kept : ∃ e ∈ liveEntries (w.inputFor live archived options s), Leaves w s x.hash e
  settled : options.allowRehash = true
    ∨ ∀ path, ¬Stray w live archived options s x.hash path

/-- Every script that the plan skips is covered. -/
def AllCovered (w : Surroundings σ) (live archived : List Script) (options : Options) (s : σ) :
    Prop :=
  ∀ e ∈ (w.planFor live archived options s).entries, ∀ kept, e.verdict = .redundant kept →
    Covered w live archived options s e.script

/-- A script without a record is not run again if, with redundancy, its content has
    an active record, and such a record may be moved wherever it is free. -/
theorem unrecorded_quiet_iff {input : Plan.Input} {taken : List String} {x : Script}
    (ho : input.options.redundancy = true) :
    (unrecorded input taken x).isPending = false
      ↔ activeWith input.records x.hash ≠ []
        ∧ (input.options.allowRehash = true ∨ free? input taken x.hash = none) := by
  rw [← Bool.not_eq_true, unrecorded_isPending_iff, ho]
  cases free? input taken x.hash <;> cases input.options.allowRehash <;> simp

/-- A content is known to the ledger if some path has an active record of it. -/
theorem activeWith_ne_nil_iff {hash : String} (hne : hash ≠ "") :
    activeWith (w.listing t) hash ≠ []
      ↔ ∃ path, stampAt (w.view t) path = some (hash, .active) := by
  constructor
  · intro hcons
    obtain ⟨r, hr⟩ := List.exists_mem_of_ne_nil _ hcons
    exact ⟨r.path, (active_iff_stampAt.mp ⟨r, hr, rfl⟩).2⟩
  · rintro ⟨path, hstamp⟩
    obtain ⟨r, hr, -⟩ := active_iff_stampAt.mpr ⟨hne, hstamp⟩
    exact List.ne_nil_of_mem hr

/-- An active record with some content is there after the run at a live path whose entry
    leaves it, or as a stray one. -/
theorem active_after_iff (h : Outcome w live archived options s t)
    (hn : (live.map Script.path).Nodup) {hash : String} :
    (∃ path, stampAt (w.view t) path = some (hash, .active))
      ↔ (∃ e ∈ liveEntries (w.inputFor live archived options s), Leaves w s hash e)
        ∨ ∃ path, Stray w live archived options s hash path := by
  constructor
  · rintro ⟨path, hstamp⟩
    cases hlive : isLive live path with
    | true =>
        obtain ⟨x, hx, rfl⟩ := isLive_iff.mp hlive
        obtain ⟨e, he, rfl⟩ := exists_entry_of_live hx
        exact Or.inl ⟨e, he, (leaves_iff h hn he).mp hstamp⟩
    | false => exact Or.inr ⟨path, (stray_iff h hlive).mp hstamp⟩
  · rintro (⟨e, he, hleaves⟩ | ⟨path, hstray⟩)
    · exact ⟨_, (leaves_iff h hn he).mpr hleaves⟩
    · exact ⟨path, (stray_iff h hstray.1).mpr hstray⟩

/-- Where no record may be moved, none is taken, and the free ones are the stray ones. -/
theorem free?_after_eq_none_iff (h : Outcome w live archived options s t)
    (ha : options.allowRehash = false) {hash : String} (hne : hash ≠ "") {taken : List String}
    (htaken : ∀ path ∈ taken, path ∈ claims (liveEntries (w.inputFor live archived options t))) :
    free? (w.inputFor live archived options t) taken hash = none
      ↔ ∀ path, ¬Stray w live archived options s hash path := by
  rw [free?_eq_none_iff]
  constructor
  · intro hnone path hstray
    obtain ⟨r, hr, rfl⟩ := active_iff_stampAt.mpr ⟨hne, (stray_iff h hstray.1).mpr hstray⟩
    rcases hnone r hr with hlive | htake
    · exact nomatch hstray.1.symm.trans hlive
    · obtain ⟨e, he, hclaim⟩ := mem_claims.mp (htaken _ htake)
      exact nomatch ha.symm.trans (claim_of_liveEntry he hclaim).2.2.1
  · intro hstray r hr
    by_contra hcon
    rw [not_or, Bool.not_eq_true] at hcon
    refine hstray r.path ((stray_iff h hcon.1).mp ?_)
    exact (active_iff_stampAt.mp ⟨r, hr, rfl⟩).2

/-- Where records may be moved, a skipped script without a record leaves none stray:
    the record would have been moved to it. -/
theorem not_stray_of_redundant {e : PlannedFile} {kept path : String}
    (he : e ∈ liveEntries (w.inputFor live archived options s)) (hv : e.verdict = .redundant kept)
    (hne : e.script.hash ≠ "") (ha : options.allowRehash = true)
    (hnone : recordAt? (w.inputFor live archived options s).records e.script.path = none) :
    ¬Stray w live archived options s e.script.hash path := by
  rintro ⟨hlive, hstamp, hunclaimed, -⟩
  obtain ⟨r, hr, rfl⟩ := active_iff_stampAt.mpr ⟨hne, hstamp⟩
  rcases unmoved_of_redundant he hv ha hnone r hr with hlive' | hclaimed
  · exact nomatch hlive.symm.trans hlive'
  · exact hunclaimed (mem_claims_build.mpr (Or.inl hclaimed))

/-- A skipped script with a record of another content keeps that record, and is run next. -/
theorem pending_of_recorded (h : Outcome w live archived options s t)
    (hn : (live.map Script.path).Nodup) {e : PlannedFile} {kept : String}
    (he : e ∈ liveEntries (w.inputFor live archived options s)) (hv : e.verdict = .redundant kept)
    {r : Record} (hr : w.view s e.script.path = some r) (taken : List String) :
    firstVerdict (w.inputFor live archived options t) taken e.script
      = .pending .contentChanged := by
  have hsame := h.live_kept hn he (touched_of_isQuiet (by rw [hv]; rfl))
  obtain ⟨hhash, hblank⟩ := changed_of_redundant he hv (recordAt?_of_view hr)
  obtain ⟨r', hr', hh, -⟩ := stampAt_eq_some_iff.mp
    (hsame.trans (stampAt_eq_some_iff.mpr ⟨r, hr, rfl, rfl⟩))
  have hsamehash : r'.asRead.hash = r.asRead.hash := hh
  exact firstVerdict_of_changed (recordAt?_of_view hr') (hsamehash ▸ hhash) (hsamehash ▸ hblank)

/-- A skipped script asks nothing of the next plan exactly if it is covered. -/
theorem covered_iff (h : Outcome w live archived options s t) (hn : (live.map Script.path).Nodup)
    {e : PlannedFile} {kept : String} (he : e ∈ liveEntries (w.inputFor live archived options s))
    (hv : e.verdict = .redundant kept) (hne : e.script.hash ≠ "") {taken : List String}
    (htaken : ∀ path ∈ taken, path ∈ claims (liveEntries (w.inputFor live archived options t))) :
    (firstVerdict (w.inputFor live archived options t) taken e.script).isPending = false
      ↔ Covered w live archived options s e.script := by
  cases hown : w.view s e.script.path with
  | some r =>
      rw [pending_of_recorded h hn he hv hown taken]
      exact iff_of_false Bool.noConfusion fun hcov => nomatch hown.symm.trans hcov.unrecorded
  | none =>
      have hsame := h.live_kept hn he (touched_of_isQuiet (by rw [hv]; rfl))
      have hnone : recordAt? (w.inputFor live archived options s).records e.script.path = none :=
        recordAt?_eq_none_iff_stampAt.mpr (stampAt_eq_none_iff.mpr hown)
      have hnone' : recordAt? (w.inputFor live archived options t).records e.script.path = none :=
        recordAt?_eq_none_iff_stampAt.mpr (hsame.trans (stampAt_eq_none_iff.mpr hown))
      have ho : options.redundancy = true := (first_of_redundant he hv).1
      rw [firstVerdict_of_none hnone', unrecorded_quiet_iff ho]
      change activeWith (w.listing t) _ ≠ [] ∧ (options.allowRehash = true ∨ _) ↔ _
      -- In the next run nothing is judged but whether the content is known and a record is free.
      rw [activeWith_ne_nil_iff hne, active_after_iff h hn]
      cases ha : options.allowRehash with
      | true =>
          constructor
          · rintro ⟨hleft | ⟨path, hstray⟩, -⟩
            · exact ⟨hown, hleft, Or.inl ha⟩
            · exact absurd hstray (not_stray_of_redundant he hv hne ha hnone)
          · exact fun hcov => ⟨Or.inl hcov.kept, Or.inl rfl⟩
      | false =>
          rw [free?_after_eq_none_iff h ha hne htaken]
          constructor
          · rintro ⟨hleft, hfree⟩
            have hno := hfree.resolve_left Bool.noConfusion
            refine ⟨hown, hleft.resolve_right fun ⟨path, hstray⟩ => hno path hstray, Or.inr hno⟩
          · intro hcov
            refine ⟨Or.inl hcov.kept, Or.inr (hcov.settled.resolve_left fun hmove => ?_)⟩
            exact nomatch ha.symm.trans hmove

/-! ## The next run -/

/-- The next plan has nothing to run exactly if every skipped script is covered. -/
theorem pending_after_eq_nil_iff (h : Outcome w live archived options s t)
    (hn : (live.map Script.path).Nodup) (hne : ∀ x ∈ live, x.hash ≠ "") :
    (w.planFor live archived options t).pending = []
      ↔ AllCovered w live archived options s := by
  -- Whatever the scripts before it have taken, whether a skipped script is covered depends on this
  -- run only.
  have hcovered : ∀ {l₁ l₂ : List Script} {e : PlannedFile} {kept : String},
      e ∈ liveEntries (w.inputFor live archived options s) → e.verdict = .redundant kept →
      byPath live = l₁ ++ l₂ →
      ((firstVerdict (w.inputFor live archived options t)
          (carriedAfter (w.inputFor live archived options t) l₁).taken e.script).isPending = false
        ↔ Covered w live archived options s e.script) := by
    intro l₁ l₂ e kept he hv hl
    have hl' : byPath (w.inputFor live archived options t).live = l₁ ++ l₂ := hl
    exact covered_iff h hn he hv (hne _ (live_of_mem_liveEntries he)) fun path hpath =>
      claimed_of_taken hl' hpath
  rw [Surroundings.planFor, pending_eq_nil_iff]
  constructor
  · intro hquiet e he kept hv
    have hl : e ∈ liveEntries (w.inputFor live archived options s) :=
      liveEntry_of_ne he hv Verdict.noConfusion fun _ => Verdict.noConfusion
    obtain ⟨l₁, l₂, hsplit, -⟩ := mem_liveEntries_iff.mp hl
    exact (hcovered hl hv hsplit).mp (hquiet l₁ e.script l₂ hsplit)
  · intro hall l₁ x l₂ hsplit
    have hx : x ∈ live := mem_byPath.mp (hsplit ▸ List.mem_append_right _ List.mem_cons_self)
    obtain ⟨e, he, rfl⟩ := exists_entry_of_live hx
    by_cases hv : ∃ kept, e.verdict = .redundant kept
    · obtain ⟨kept, hv⟩ := hv
      exact (hcovered he hv hsplit).mpr (hall e (mem_entries_build.mpr (Or.inl he)) kept hv)
    · -- A script that was not skipped has a record of its content now.
      obtain ⟨state, hstamp⟩ := h.live_settled hn he fun kept hkept => hv ⟨kept, hkept⟩
      obtain ⟨r, hr, hhash, -⟩ := stampAt_eq_some_iff.mp hstamp
      rw [firstVerdict_of_same (recordAt?_of_view hr) hhash]
      rfl

/-- The summary counts the scripts that the plan runs. -/
theorem update_summary {source : ScriptSource} {summary : Summary}
    (hscan : (w.answer (.scan source) s).1 = .ok (live, archived))
    (h : w.perform (update source options) s = (.ok summary, t)) :
    summary.updated = (w.planFor live archived options s).pending.length
      ∧ summary.recent ≤ summary.updated := by
  obtain ⟨live', archived', u, hscan', -, happly⟩ := update_ok h
  obtain ⟨rfl, rfl⟩ := Prod.mk.inj (Except.ok.inj (hscan.symm.trans hscan'))
  rw [apply] at happly
  obtain ⟨⟨⟩, s₁, -, happly⟩ := perform_bind.mp happly
  obtain ⟨⟨⟩, s₂, -, happly⟩ := perform_bind.mp happly
  obtain ⟨cleaned, s₃, -, happly⟩ := perform_bind.mp happly
  obtain ⟨rfl, -⟩ := perform_pure.mp happly
  exact ⟨rfl, List.length_filter_le _ _⟩

/-- After a successful run, the next run over the same files applies nothing
    exactly if every script that the first run skipped is covered. -/
theorem rerun_applies_nothing_iff {source : ScriptSource} {summary : Summary}
    (hn : (live.map Script.path).Nodup) (hne : ∀ x ∈ live, x.hash ≠ "")
    (hscan : (w.answer (.scan source) s).1 = .ok (live, archived))
    (h : w.perform (update source options) s = (.ok summary, t))
    (hagain : (w.answer (.scan source) t).1 = .ok (live, archived)) :
    ((w.planFor live archived options t).pending = [] ↔ AllCovered w live archived options s)
      ∧ (AllCovered w live archived options s →
          ∀ m ∈ (update source options).run.trail w.answer t, ∀ location,
            m.1.1 ≠ .runScript location)
      ∧ ∀ again u, w.perform (update source options) t = (.ok again, u) →
          (again.updated = 0 ∧ again.recent = 0 ↔ AllCovered w live archived options s) := by
  have hiff := pending_after_eq_nil_iff (update_outcome hn hscan h) hn hne
  refine ⟨hiff, fun hall => runs_nothing_of_pending_eq_nil hagain (hiff.mpr hall), ?_⟩
  intro again u hok
  obtain ⟨hupdated, hrecent⟩ := update_summary hagain hok
  rw [← hiff, ← List.length_eq_zero_iff, ← hupdated]
  omega

/-- Two files with the content of one record: the second one is skipped. -/
def copies : List Script := [Bench.live "a.sql" "first", Bench.live "b.sql" "first"]

/-- The record of the first file is up to date. -/
def copyBench : Bench := ⟨[(copies, [])], [], [Bench.applied "a.sql" "first"], by decide⟩

/-- A file that is skipped for the record of an unchanged file stays skipped. -/
theorem rerun_applies_nothing_of_copies :
    ∃ t, Bench.surroundings.perform (update Bench.source .standard) copyBench
        = (.ok ⟨0, 0, 0, 0⟩, t)
      ∧ AllCovered Bench.surroundings copies [] .standard copyBench
      ∧ ∀ m ∈ (update Bench.source .standard).run.trail Bench.answer t, ∀ location,
          m.1.1 ≠ .runScript location := by
  have hok : Bench.surroundings.perform (update Bench.source .standard) copyBench
      = (.ok ⟨0, 0, 0, 0⟩, (Bench.surroundings.perform (update Bench.source .standard)
          copyBench).2) := Prod.ext (by cbv) rfl
  have hn : (copies.map Script.path).Nodup := by decide
  have hscan : (Bench.surroundings.answer (.scan Bench.source) copyBench).1
      = .ok (copies, []) := rfl
  obtain ⟨hiff, hquiet, -⟩ := rerun_applies_nothing_iff hn (by decide) hscan hok (by cbv)
  have hall := hiff.mp (by cbv)
  exact ⟨_, hok, hall, hquiet hall⟩

/-- Two files that were changed to one content: the second one is skipped. -/
def twins : List Script := [Bench.live "a.sql" "second", Bench.live "b.sql" "second"]

/-- Both files have records of older contents. -/
def twinBench : Bench :=
  ⟨[(twins, [])], [], [Bench.applied "a.sql" "first of a", Bench.applied "b.sql" "first of b"],
    by decide⟩

/-- A changed file that is skipped for another changed file keeps the record of its
    old content, and the next run applies it. -/
theorem rerun_applies_twin :
    ((twins.map Script.path).Nodup ∧ (∀ x ∈ twins, x.hash ≠ "")
      ∧ (Bench.answer (.scan Bench.source) twinBench).1 = .ok (twins, []))
    ∧ ∃ t u, Bench.surroundings.perform (update Bench.source .standard) twinBench
        = (.ok ⟨1, 0, 0, 0⟩, t)
      ∧ (Bench.surroundings.planFor twins [] .standard t).pending
        = [⟨Bench.live "b.sql" "second", .pending .contentChanged⟩]
      ∧ Bench.surroundings.perform (update Bench.source .standard) t = (.ok ⟨1, 0, 0, 0⟩, u) := by
  refine ⟨⟨by decide, by decide, by rfl⟩, _, _, Prod.ext ?_ rfl, ?_, Prod.ext ?_ rfl⟩
  · cbv
  · cbv
  · cbv

end SchemaMigration.Update
