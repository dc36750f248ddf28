import Mathlib.Data.List.Perm.Subperm
import SchemaMigration.Proofs.Update.Outcome

/-! # Progress — how one run leaves less for the next

    A plan that is no no-op has live scripts to settle, records to archive, dead
    records to count or recovered ones to clear.  Over the same files and with the
    same options each kind of work wears out:

    * settling a live script leaves fewer unmatched ones (`unmatched_lt`), and where
      there was nothing to settle there is nothing afterwards (`LiveWork.before`);
    * archiving leaves fewer loose records (`loosePaths_lt`), and does not start
      again (`ArchiveWork.before`);
    * a record that is dead was dead before, with a smaller counter (`dead_before`);
    * a record is recovered only by other work (`recovered_before`). -/

namespace SchemaMigration.Update

open Ledger Plan

variable {σ : Type} {w : Surroundings σ} {s t : σ}
variable {live archived : List Script} {options : Options}

/-- A list without repetition is shorter than one that holds it and something else. -/
theorem length_lt_of_subset {α : Type} {l₁ l₂ : List α} (hn : l₁.Nodup) (hsub : l₁ ⊆ l₂) {a : α}
    (h₂ : a ∈ l₂) (h₁ : a ∉ l₁) : l₁.length < l₂.length :=
  ((List.nodup_cons.mpr ⟨h₁, hn⟩).subperm (List.cons_subset.mpr ⟨h₂, hsub⟩)).length_le

/-! ## Live scripts -/

/-- Some live script is run, renamed or rehashed. -/
def LiveWork (w : Surroundings σ) (live archived : List Script) (options : Options) (s : σ) :
    Prop :=
  ∃ e ∈ liveEntries (w.inputFor live archived options s), e.verdict.isQuiet = false

/-- The script has a record of its content. -/
def Matched (w : Surroundings σ) (s : σ) (x : Script) : Prop :=
  (stampAt (w.view s) x.path).map Prod.fst = some x.hash

instance (x : Script) : Decidable (Matched w s x) :=
  inferInstanceAs (Decidable (_ = some x.hash))

theorem matched_iff {x : Script} :
    Matched w s x ↔ ∃ r, w.view s x.path = some r ∧ r.hash = x.hash := by
  simp [Matched, stampAt, Record.stamp]

/-- The live scripts without a record of their content. -/
def unmatched (w : Surroundings σ) (live : List Script) (s : σ) : List Script :=
  live.filter fun x => ¬Matched w s x

theorem mem_unmatched {x : Script} : x ∈ unmatched w live s ↔ x ∈ live ∧ ¬Matched w s x := by
  simp [unmatched]

/-- A matched script is applied. -/
theorem applied_of_matched {e : PlannedFile}
    (he : e ∈ liveEntries (w.inputFor live archived options s)) (h : Matched w s e.script) :
    e.verdict = .applied := by
  obtain ⟨r, hr, hhash⟩ := matched_iff.mp h
  obtain ⟨l₁, l₂, -, hv⟩ := mem_liveEntries_iff.mp he
  rw [hv]
  exact liveVerdict_of_same (recordAt?_of_view hr) hhash

/-- A live script that is not skipped is matched afterwards. -/
theorem Outcome.matched (h : Outcome w live archived options s t)
    (hn : (live.map Script.path).Nodup) {e : PlannedFile}
    (he : e ∈ liveEntries (w.inputFor live archived options s))
    (hv : ∀ kept, e.verdict ≠ .redundant kept) : Matched w t e.script := by
  obtain ⟨state, hstamp⟩ := h.live_settled hn he hv
  rw [Matched, hstamp]
  rfl

/-- A script with a record of its content keeps one through every run. -/
theorem Outcome.matched_of_matched (h : Outcome w live archived options s t)
    (hn : (live.map Script.path).Nodup) {x : Script} (hx : x ∈ live) (hm : Matched w s x) :
    Matched w t x := by
  obtain ⟨e, he, rfl⟩ := exists_entry_of_live hx
  refine h.matched hn he fun kept hkept => ?_
  rw [applied_of_matched he hm] at hkept
  exact nomatch hkept

/-- Work on live scripts leaves fewer of them unmatched. -/
theorem unmatched_lt (h : Outcome w live archived options s t) (hn : (live.map Script.path).Nodup)
    (hwork : LiveWork w live archived options s) :
    (unmatched w live t).length < (unmatched w live s).length := by
  obtain ⟨e, he, hquiet⟩ := hwork
  have hlive : e.script ∈ live := live_of_mem_liveEntries he
  have hbefore : ¬Matched w s e.script := fun hm => by
    rw [applied_of_matched he hm] at hquiet
    exact nomatch hquiet
  have hafter : Matched w t e.script := h.matched hn he fun kept hkept => by
    rw [hkept] at hquiet
    exact nomatch hquiet
  refine length_lt_of_subset ((List.Nodup.of_map _ hn).filter _) (fun x hx => ?_)
    (mem_unmatched.mpr ⟨hlive, hbefore⟩) fun hx => (mem_unmatched.mp hx).2 hafter
  obtain ⟨hx, hnot⟩ := mem_unmatched.mp hx
  exact mem_unmatched.mpr ⟨hx, fun hm => hnot (h.matched_of_matched hn hx hm)⟩

/-- The script is skipped for its content, which live scripts alone have records of. -/
structure SkippedForLive (w : Surroundings σ) (live : List Script) (options : Options) (s : σ)
    (x : Script) : Prop where
  redundancy : options.redundancy = true
  unrecorded : stampAt (w.view s) x.path = none
  hashed : x.hash ≠ ""
  kept : ∃ path, stampAt (w.view s) path = some (x.hash, .active)
  owned : ∀ path, stampAt (w.view s) path = some (x.hash, .active) → isLive live path = true

theorem isQuiet_of_idle (hidle : ¬LiveWork w live archived options s) {e : PlannedFile}
    (he : e ∈ liveEntries (w.inputFor live archived options s)) : e.verdict.isQuiet = true := by
  by_contra hq
  exact hidle ⟨e, he, Bool.eq_false_iff.mpr hq⟩

/-- Without work on live scripts, none is run. -/
theorem pending_eq_nil_of_idle (hidle : ¬LiveWork w live archived options s) :
    (w.planFor live archived options s).pending = [] := by
  rw [List.eq_nil_iff_forall_not_mem]
  intro e he
  obtain ⟨hl, hp⟩ := mem_pending_iff.mp he
  exact hidle ⟨e, hl, isQuiet_of_isPending hp⟩

/-- Without work on live scripts, every live script is matched or skipped for live ones. -/
theorem matched_or_skipped (hidle : ¬LiveWork w live archived options s) {e : PlannedFile}
    (he : e ∈ liveEntries (w.inputFor live archived options s)) :
    Matched w s e.script ∨ SkippedForLive w live options s e.script := by
  -- Nothing is pending, so the verdict is not one for a duplicate among pending scripts.
  obtain ⟨l₁, l₂, hsplit, hv⟩ := mem_liveEntries_iff.mp he
  have hnot := pending_eq_nil_iff.mp (pending_eq_nil_of_idle hidle) l₁ e.script l₂ hsplit
  have hfirst := first_firstVerdict (w.inputFor live archived options s)
    (carriedAfter (w.inputFor live archived options s) l₁).taken e.script
  rw [← liveVerdict_of_not_pending hnot, ← hv] at hfirst
  have hq := isQuiet_of_idle hidle he
  cases hverdict : e.verdict with
  | applied =>
      rw [hverdict] at hfirst
      cases hfirst with
      | applied hrec hhash =>
          refine Or.inl (matched_iff.mpr ?_)
          obtain ⟨r, hr, rfl⟩ := exists_view_of_recordAt? hrec
          exact ⟨r, hr, hhash⟩
  | redundant kept =>
      rw [hverdict] at hfirst
      cases hfirst with
      | redundant hnone hr hfree ho =>
          obtain ⟨hne, hstamp⟩ := active_iff_stampAt.mp ⟨_, hr, rfl⟩
          refine Or.inr ⟨ho, recordAt?_eq_none_iff_stampAt.mp hnone, hne, ⟨_, hstamp⟩,
            fun path hstamp => ?_⟩
          -- Other records with the content are not free, and no live script takes one.
          obtain ⟨r', hr', rfl⟩ := active_iff_stampAt.mpr ⟨hne, hstamp⟩
          refine (free?_eq_none_iff.mp hfree r' hr').resolve_right fun htaken => ?_
          obtain ⟨e', he', hclaim⟩ := mem_claims.mp (claimed_of_taken hsplit htaken)
          have hq' := isQuiet_of_idle hidle he'
          rw [(claim_of_liveEntry he' hclaim).1] at hq'
          exact nomatch hq'
  | archived => rw [hverdict] at hfirst; exact nomatch hfirst
  | _ => rw [hverdict] at hq; exact nomatch hq

/-- A script that is skipped for live ones asks for nothing. -/
theorem SkippedForLive.isQuiet {e : PlannedFile} (h : SkippedForLive w live options s e.script)
    (he : e ∈ liveEntries (w.inputFor live archived options s)) : e.verdict.isQuiet = true := by
  by_cases hv : ∃ kept, e.verdict = .redundant kept
  · obtain ⟨kept, hv⟩ := hv
    rw [hv]
    rfl
  · obtain ⟨taken, hfirst⟩ := first_of_liveEntry he fun kept hkept => hv ⟨kept, hkept⟩
    have hnone : recordAt? (w.inputFor live archived options s).records e.script.path = none :=
      recordAt?_eq_none_iff_stampAt.mpr h.unrecorded
    have hfree : ∀ r, free? (w.inputFor live archived options s) taken e.script.hash ≠ some r := by
      intro r hr
      obtain ⟨hactive, hlive, -⟩ := of_free?_eq_some hr
      have := h.owned r.path (active_iff_stampAt.mp ⟨r, hactive, rfl⟩).2
      exact nomatch hlive.symm.trans this
    -- One case for each rule: the script has no record, its content is known, and no record is
    -- free.
    generalize e.verdict = verdict at hfirst
    cases hfirst with
    | applied hrec | rehash hrec | changed hrec => exact nomatch hnone.symm.trans hrec
    | new _ hempty =>
        obtain ⟨path, hstamp⟩ := h.kept
        obtain ⟨r, hr, -⟩ := active_iff_stampAt.mpr ⟨h.hashed, hstamp⟩
        change activeWith (w.listing s) _ = [] at hempty
        rw [hempty] at hr
        exact nomatch hr
    | renamed _ hf | notMoved _ hf => exact absurd hf (hfree _)
    | redundant => rfl
    | duplicate _ _ _ ho =>
        exact nomatch h.redundancy.symm.trans ho

/-- A script that is skipped for live ones still is after a run without work on these. -/
theorem SkippedForLive.after {x : Script} (hskip : SkippedForLive w live options s x)
    (h : Outcome w live archived options s t) (hn : (live.map Script.path).Nodup)
    (hidle : ¬LiveWork w live archived options s) (hx : x ∈ live) :
    SkippedForLive w live options t x := by
  -- Quiet entries touch nothing, so the records at live paths stay as they are.
  have hkept : ∀ y ∈ live, stampAt (w.view t) y.path = stampAt (w.view s) y.path := by
    intro y hy
    obtain ⟨e, he, rfl⟩ := exists_entry_of_live hy
    exact h.live_kept hn he (touched_of_isQuiet (isQuiet_of_idle hidle he))
  refine ⟨hskip.redundancy, (hkept x hx).trans hskip.unrecorded, hskip.hashed, ?_, ?_⟩
  · obtain ⟨path, hstamp⟩ := hskip.kept
    obtain ⟨y, hy, rfl⟩ := isLive_iff.mp (hskip.owned path hstamp)
    exact ⟨y.path, (hkept y hy).trans hstamp⟩
  · intro path hstamp
    by_contra hlive
    exact hlive (hskip.owned path (h.loose (Bool.eq_false_iff.mpr hlive) hstamp).1)

/-- Work on live scripts does not start again. -/
theorem LiveWork.before (hwork : LiveWork w live archived options t)
    (h : Outcome w live archived options s t) (hn : (live.map Script.path).Nodup) :
    LiveWork w live archived options s := by
  by_contra hidle
  obtain ⟨e', he', hloud⟩ := hwork
  have hlive : e'.script ∈ live := live_of_mem_liveEntries he'
  obtain ⟨e, he, hsame⟩ := exists_entry_of_live hlive
  have hquiet : e'.verdict.isQuiet = true := by
    rcases matched_or_skipped hidle he with hm | hskip
    · rw [hsame] at hm
      rw [applied_of_matched he' (h.matched_of_matched hn hlive hm)]
      rfl
    · rw [hsame] at hskip
      exact (hskip.after h hn hidle hlive).isQuiet he'
  rw [hquiet] at hloud
  exact nomatch hloud

/-! ## Archived scripts -/

/-- Some record is archived. -/
def ArchiveWork (w : Surroundings σ) (live archived : List Script) (options : Options) (s : σ) :
    Prop :=
  ∃ e ∈ archivedEntries (w.inputFor live archived options s), e.verdict.isQuiet = false

/-- The paths of active records that are not live. -/
def loosePaths (w : Surroundings σ) (live : List Script) (s : σ) : List String :=
  ((w.records s).filter fun r => r.state = .active ∧ isLive live r.path = false).map Record.path

theorem mem_loosePaths {path : String} :
    path ∈ loosePaths w live s
      ↔ isLive live path = false ∧ ∃ hash, stampAt (w.view s) path = some (hash, .active) := by
  simp only [loosePaths, List.mem_map, List.mem_filter, decide_eq_true_eq, stampAt_eq_some_iff]
  constructor
  · rintro ⟨r, ⟨hr, hstate, hlive⟩, rfl⟩
    exact ⟨hlive, r.hash, r, w.mem_records_iff.mp hr, rfl, hstate⟩
  · rintro ⟨hlive, hash, r, hr, -, hstate⟩
    have hpath : r.path = path := w.path_of_view hr
    subst hpath
    exact ⟨r, ⟨mem_of_viewOf hr, hstate, hlive⟩, rfl⟩

theorem length_loosePaths_le : (loosePaths w live s).length ≤ (w.records s).length := by
  rw [loosePaths, List.length_map]
  exact List.length_filter_le _ _

theorem archiveWork_iff : ArchiveWork w live archived options s
    ↔ ∃ e ∈ archivedEntries (w.inputFor live archived options s), ∃ path,
      e.verdict = .archivedRedundant path := by
  refine exists_congr fun e => and_congr_right fun he => ?_
  rcases archivedEntry_cases he with hv | ⟨path, hv⟩
  · rw [hv]
    exact iff_of_false (fun h => nomatch h) fun ⟨_, h⟩ => nomatch h
  · rw [hv]
    exact iff_of_true rfl ⟨path, rfl⟩

/-- Archiving leaves fewer loose records. -/
theorem loosePaths_lt (h : Outcome w live archived options s t)
    (hwork : ArchiveWork w live archived options s) :
    (loosePaths w live t).length < (loosePaths w live s).length := by
  obtain ⟨e, he, path, hv⟩ := archiveWork_iff.mp hwork
  have hclaim : claim? e = some path := claim?_of_archivedRedundant hv
  obtain ⟨-, -, hlive, hactive⟩ := claim_of_archivedEntry he hclaim
  have hunique : (loosePaths w live t).Nodup :=
    (w.unique t).sublist (List.filter_sublist.map Record.path)
  refine length_lt_of_subset hunique (fun q hq => ?_)
    (mem_loosePaths.mpr ⟨hlive, e.script.hash, (active_iff_stampAt.mp hactive).2⟩) fun hpath => ?_
  · obtain ⟨hq, hash, hstamp⟩ := mem_loosePaths.mp hq
    exact mem_loosePaths.mpr ⟨hq, hash, (h.loose hq hstamp).1⟩
  · obtain ⟨-, hash, hstamp⟩ := mem_loosePaths.mp hpath
    rw [h.shelved e (mem_entries_build.mpr (Or.inr he)) path hv] at hstamp
    exact nomatch hstamp

/-- Archiving does not start again. -/
theorem ArchiveWork.before (hwork : ArchiveWork w live archived options t)
    (h : Outcome w live archived options s t) : ArchiveWork w live archived options s := by
  obtain ⟨e', he', path, hv'⟩ := archiveWork_iff.mp hwork
  have hclaim : claim? e' = some path := claim?_of_archivedRedundant hv'
  obtain ⟨-, ha, hlive, hactive⟩ := claim_of_archivedEntry he' hclaim
  obtain ⟨hne, hstamp⟩ := active_iff_stampAt.mp hactive
  obtain ⟨hbefore, hunclaimed⟩ := h.loose hlive hstamp
  have hmem : e'.script ∈ archived := archived_of_mem_archivedEntries he'
  obtain ⟨e, he, hsame⟩ := exists_entry_of_archived hmem
  obtain ⟨l₁, l₂, hsplit, hv⟩ := mem_planArchived_iff.mp he
  -- The record was free for this script, or taken, and then claimed.
  obtain ⟨r, hr, rfl⟩ := active_iff_stampAt.mpr ⟨hne, hbefore⟩
  refine archiveWork_iff.mpr ⟨e, he, ?_⟩
  cases hfree : free? (w.inputFor live archived options s) (planArchived
      (w.inputFor live archived options s) (carriedAfter (w.inputFor live archived options s)
        (byPath (w.inputFor live archived options s).live)).taken l₁).2 e.script.hash with
  | some r' =>
      exact ⟨r'.path, hv.trans (archivedVerdict_eq_archivedRedundant_iff.mpr
        ⟨ha, r', hfree, rfl⟩)⟩
  | none =>
      rw [← hsame] at hr
      rcases free?_eq_none_iff.mp hfree r hr with hl | htaken
      · exact nomatch hlive.symm.trans hl
      · exact absurd (claimed_of_taken_archived hsplit htaken) hunclaimed

/-! ## Records without a file -/

/-- What accounts for a record, apart from entries that claim it, accounts for a record
    with its path and stamp in every plan for the same files. -/
theorem present_of_same {r₀ r : Record} (hpath : r₀.path = r.path) (hstamp : r₀.stamp = r.stamp)
    (hc : r₀.path ∉ claims (w.planFor live archived options s).entries)
    (hp : Present (w.inputFor live archived options s) r₀) :
    Present (w.inputFor live archived options t) r := by
  obtain ⟨hhash, hstate⟩ := Prod.mk.inj hstamp
  rcases hp with hl | ha | hclaimed | ⟨hs, x, hx, hxhash⟩
  · exact Or.inl (hpath ▸ hl)
  · exact Or.inr (Or.inl (hpath ▸ ha))
  · exact absurd hclaimed hc
  · exact Or.inr (Or.inr (Or.inr ⟨hstate ▸ hs, x, hx, hxhash.trans hhash⟩))

/-- A claimed record is not dead afterwards: it is gone, or archived with its file in
    the archive. -/
theorem not_claimed_of_dead (h : Outcome w live archived options s t) {path : String}
    (hd : path ∈ deadPaths w live archived options t) :
    path ∉ claims (w.planFor live archived options s).entries := by
  obtain ⟨r, hr, habsent⟩ := mem_dead_iff_view.mp hd
  intro hc
  obtain ⟨e, he, hclaim⟩ := mem_claims.mp hc
  rcases mem_entries_build.mp he with hl | ha
  · have hgone := stampAt_eq_none_iff.mp (h.moved e he path (claim_of_liveEntry hl hclaim).1).2
    rw [hr] at hgone
    exact absurd hgone (Option.some_ne_none r)
  · have hshelved := h.shelved e he path (claim_of_archivedEntry ha hclaim).1
    obtain ⟨r', hr', hhash, hstate⟩ := stampAt_eq_some_iff.mp hshelved
    obtain rfl := Option.some.inj (hr.symm.trans hr')
    have hmem : e.script ∈ archived := archived_of_mem_archivedEntries ha
    exact habsent (Or.inr (Or.inr (Or.inr ⟨hstate, e.script, hmem, hhash.symm⟩)))

/-- A record that is dead after a run was dead before, and has been counted. -/
theorem dead_before (h : Outcome w live archived options s t) {limit : Nat}
    (hlimit : options.limit? = some limit) {path : String}
    (hd : path ∈ deadPaths w live archived options t) :
    path ∈ deadPaths w live archived options s
      ∧ ∃ r, w.view s path = some r ∧ w.view t path = some r.counted
        ∧ readCounter (r.missingRuns + 1) ≤ limit := by
  obtain ⟨r, hr, habsent⟩ := mem_dead_iff_view.mp hd
  have hpath : r.path = path := w.path_of_view hr
  have hlive : isLive live path = false := by
    rw [← Bool.not_eq_true, ← hpath]
    exact fun hl => habsent (Or.inl hl)
  have hunclaimed : path ∉ claims (w.planFor live archived options s).entries :=
    not_claimed_of_dead h hd
  have hbefore : path ∈ deadPaths w live archived options s := by
    by_contra hnot
    -- The record was the same before, so what accounted for it still does.
    have hkept := h.loose_kept hlive hunclaimed hnot
    rw [stampAt, hr] at hkept
    obtain ⟨r₀, hr₀, hstamp⟩ := Option.map_eq_some_iff.mp hkept.symm
    have hpath₀ : r₀.path = path := w.path_of_view hr₀
    refine hnot (mem_dead_iff_view.mpr ⟨r₀, hr₀, fun hpresent => habsent ?_⟩)
    exact present_of_same (hpath₀.trans hpath.symm) hstamp (hpath₀ ▸ hunclaimed) hpresent
  obtain ⟨r₀, hr₀, -, rfl, hle⟩ := h.counted_of_dead hlimit hbefore hr
  exact ⟨hbefore, r₀, hr₀, hr, hle⟩

/-- A record is recovered after a run only by a script that takes it over. -/
theorem recovered_before (h : Outcome w live archived options s t) {limit : Nat}
    (hlimit : options.limit? = some limit) {path : String}
    (hrec : path ∈ (w.planFor live archived options t).recovered) :
    LiveWork w live archived options t ∨ ArchiveWork w live archived options t := by
  obtain ⟨r, hr, hpresent, hpos⟩ := mem_recovered_iff_view.mp hrec
  have hpath : r.path = path := w.path_of_view hr
  have hd : path ∈ deadPaths w live archived options s := by
    by_contra hnot
    rw [h.counter limit hlimit path r hr hnot] at hpos
    exact Nat.lt_irrefl 0 hpos
  obtain ⟨r₀, hr₀, habsent, rfl, -⟩ := h.counted_of_dead hlimit hd hr
  -- No file accounted for the record before, so an entry must take it over now.
  have hclaimed : path ∈ claims (w.planFor live archived options t).entries := by
    by_contra hunclaimed
    exact habsent (present_of_same rfl rfl (hpath ▸ hunclaimed) hpresent)
  obtain ⟨e, he, hclaim⟩ := mem_claims.mp hclaimed
  rcases mem_entries_build.mp he with hl | ha
  · refine Or.inl ⟨e, hl, ?_⟩
    rw [(claim_of_liveEntry hl hclaim).1]
    rfl
  · refine Or.inr ⟨e, ha, ?_⟩
    rw [(claim_of_archivedEntry ha hclaim).1]
    rfl

end SchemaMigration.Update
