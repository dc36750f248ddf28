import SchemaMigration.Proofs.Plan.Entries

/-! # Claims — a plan as a whole

    A plan lists the live scripts, then the archived ones.  The records that its
    entries take over are free ones and all different, so what the plan changes
    can be told path by path:

    * `touched_nodup`: no path is touched by two entries;
    * `mem_dead_iff`, `mem_recovered_iff`: what becomes of the remaining records;
    * `pending_eq_nil_iff`: nothing is run exactly if no script asks for it. -/

namespace SchemaMigration.Plan

open Ledger

variable {input : Input}

/-! ## Live and archived entries -/

/-- What the scripts before a live script leave behind. -/
def carriedAfter (input : Input) (earlier : List Script) : Carried :=
  (planLive input ⟨[], []⟩ earlier).2

/-- The entries of the live scripts. -/
def liveEntries (input : Input) : List PlannedFile :=
  (planLive input ⟨[], []⟩ (byPath input.live)).1

/-- The entries of the archived scripts. -/
def archivedEntries (input : Input) : List PlannedFile :=
  (planArchived input (carriedAfter input (byPath input.live)).taken (byPath input.archived)).1

/-- The entries of a plan: the live scripts first, then the archived ones. -/
theorem entries_build (input : Input) :
    (build input).entries = liveEntries input ++ archivedEntries input := rfl

theorem mem_entries_build {e : PlannedFile} :
    e ∈ (build input).entries ↔ e ∈ liveEntries input ∨ e ∈ archivedEntries input := by
  rw [entries_build, List.mem_append]

/-- A live entry is decided from what the scripts before it leave behind. -/
theorem mem_liveEntries_iff {e : PlannedFile} :
    e ∈ liveEntries input ↔ ∃ l₁ l₂, byPath input.live = l₁ ++ e.script :: l₂
      ∧ e.verdict = liveVerdict input (carriedAfter input l₁) e.script := mem_planLive_iff

/-- The live entries are about all live scripts, in path order. -/
theorem map_script_liveEntries (input : Input) :
    (liveEntries input).map PlannedFile.script = byPath input.live := map_script_planLive _ _

/-- Every live entry is about a live script. -/
theorem live_of_mem_liveEntries {e : PlannedFile} (h : e ∈ liveEntries input) :
    e.script ∈ input.live := by
  have : e.script ∈ (liveEntries input).map PlannedFile.script := List.mem_map_of_mem h
  rw [map_script_liveEntries] at this
  exact mem_byPath.mp this

/-- Every archived entry is about an archived script. -/
theorem archived_of_mem_archivedEntries {e : PlannedFile} (h : e ∈ archivedEntries input) :
    e.script ∈ input.archived := by
  have : e.script ∈ (archivedEntries input).map PlannedFile.script := List.mem_map_of_mem h
  rw [archivedEntries, map_script_planArchived] at this
  exact mem_byPath.mp this

/-- Every live script has an entry. -/
theorem exists_liveEntry {s : Script} (h : s ∈ input.live) :
    ∃ e ∈ liveEntries input, e.script = s := by
  have : s ∈ (liveEntries input).map PlannedFile.script := by
    rw [map_script_liveEntries]
    exact mem_byPath.mpr h
  exact List.mem_map.mp this

/-- Every archived script has an entry. -/
theorem exists_archivedEntry {s : Script} (h : s ∈ input.archived) :
    ∃ e ∈ archivedEntries input, e.script = s := by
  have : s ∈ (archivedEntries input).map PlannedFile.script := by
    rw [archivedEntries, map_script_planArchived]
    exact mem_byPath.mpr h
  exact List.mem_map.mp this

/-- Where no two live scripts share a path, no two live entries do. -/
theorem liveEntries_nodup (h : (input.live.map Script.path).Nodup) :
    ((liveEntries input).map fun e => e.script.path).Nodup := by
  have := byPath_nodup h
  rw [← map_script_liveEntries, List.map_map] at this
  exact this

/-- Where no live path repeats, a live path has one entry. -/
theorem liveEntry_unique (h : (input.live.map Script.path).Nodup) {e₁ e₂ : PlannedFile}
    (h₁ : e₁ ∈ liveEntries input) (h₂ : e₂ ∈ liveEntries input)
    (hp : e₁.script.path = e₂.script.path) : e₁ = e₂ :=
  List.inj_on_of_nodup_map (liveEntries_nodup h) h₁ h₂ hp

theorem isLive_script {e : PlannedFile} (h : e ∈ liveEntries input) :
    isLive input.live e.script.path = true :=
  isLive_iff.mpr ⟨e.script, live_of_mem_liveEntries h, rfl⟩

/-- Archived scripts are not run. -/
theorem archivedEntry_cases {e : PlannedFile} (h : e ∈ archivedEntries input) :
    e.verdict = .archived ∨ ∃ path, e.verdict = .archivedRedundant path := by
  obtain ⟨l₁, l₂, -, hv⟩ := mem_planArchived_iff.mp h
  rw [hv]
  exact archivedVerdict_cases input _ _

/-- Only live scripts can be pending. -/
theorem mem_pending_iff {e : PlannedFile} :
    e ∈ (build input).pending ↔ e ∈ liveEntries input ∧ e.verdict.isPending = true := by
  rw [Plan.pending, List.mem_filter, mem_entries_build]
  constructor
  · rintro ⟨hl | ha, hp⟩
    · exact ⟨hl, hp⟩
    · rcases archivedEntry_cases ha with hv | ⟨path, hv⟩
      · rw [hv] at hp; exact nomatch hp
      · rw [hv] at hp; exact nomatch hp
  · rintro ⟨hl, hp⟩
    exact ⟨Or.inl hl, hp⟩

/-- Only archived entries are decided in the ways of archived scripts. -/
theorem liveEntry_of_ne {e : PlannedFile} {v : Verdict} (he : e ∈ (build input).entries)
    (hv : e.verdict = v) (h : v ≠ .archived) (h' : ∀ path, v ≠ .archivedRedundant path) :
    e ∈ liveEntries input := by
  rcases mem_entries_build.mp he with hl | ha
  · exact hl
  · rcases archivedEntry_cases ha with heq | ⟨path, heq⟩
    · exact absurd (hv.symm.trans heq) h
    · exact absurd (hv.symm.trans heq) (h' path)

/-- Live entries are never decided in the ways of archived scripts. -/
theorem archivedEntry_of_eq {e : PlannedFile} {path : String} (he : e ∈ (build input).entries)
    (h : e.verdict = .archivedRedundant path) : e ∈ archivedEntries input := by
  rcases mem_entries_build.mp he with hl | ha
  · obtain ⟨l₁, l₂, -, hv⟩ := mem_liveEntries_iff.mp hl
    exact absurd (hv.symm.trans h) liveVerdict_ne_archivedRedundant
  · exact ha

/-! ## Scripts that ask to be run -/

theorem isQuiet_of_isPending {v : Verdict} (h : v.isPending = true) : v.isQuiet = false := by
  cases v with
  | pending reason => rfl
  | _ => exact nomatch h

/-- A content with a first pending script has a pending entry. -/
theorem lookup_firstPending {c : Carried} {l : List Script} {hash first : String}
    (h : (planLive input c l).2.firstPending.lookup hash = some first) :
    c.firstPending.lookup hash = some first
      ∨ ∃ e ∈ (planLive input c l).1, e.verdict.isPending = true := by
  induction l generalizing c with
  | nil => exact Or.inl h
  | cons s rest ih =>
      rw [planLive_cons] at h ⊢
      rcases ih h with hlook | ⟨e, he, hp⟩
      · cases hv : liveVerdict input c s with
        | pending reason => exact Or.inr ⟨_, List.mem_cons_self, rfl⟩
        | _ =>
            rw [hv] at hlook
            exact Or.inl hlook
      · exact Or.inr ⟨e, List.mem_cons_of_mem _ he, hp⟩

/-- Nothing is run exactly if no script asks for it, duplicates left aside. -/
theorem pending_eq_nil_iff : (build input).pending = [] ↔
    ∀ l₁ s l₂, byPath input.live = l₁ ++ s :: l₂ →
      (firstVerdict input (carriedAfter input l₁).taken s).isPending = false := by
  constructor
  · intro hnil l₁ s l₂ hsplit
    have hnone : ∀ e ∈ liveEntries input, e.verdict.isPending ≠ true := fun e he hp => by
      have := mem_pending_iff.mpr ⟨he, hp⟩
      rw [hnil] at this
      exact nomatch this
    -- A script gives way to an earlier pending one only, which has a pending entry of its own.
    rcases liveVerdict_cases input (carriedAfter input l₁) s with ⟨heq, -⟩ | ⟨-, -, f, hlook, -⟩
    · rw [← heq]
      have he : (⟨s, liveVerdict input (carriedAfter input l₁) s⟩ : PlannedFile)
          ∈ liveEntries input := mem_liveEntries_iff.mpr ⟨l₁, l₂, hsplit, rfl⟩
      exact Bool.eq_false_iff.mpr (hnone _ he)
    · rcases lookup_firstPending hlook with hempty | ⟨e, he, hp⟩
      · exact nomatch hempty
      · refine absurd hp (hnone e ?_)
        obtain ⟨k₁, k₂, rfl, hv⟩ := mem_planLive_iff.mp he
        exact mem_liveEntries_iff.mpr
          ⟨k₁, k₂ ++ s :: l₂, by rw [hsplit, List.append_assoc]; rfl, hv⟩
  · intro h
    rw [List.eq_nil_iff_forall_not_mem]
    intro e he
    obtain ⟨hl, hp⟩ := mem_pending_iff.mp he
    obtain ⟨l₁, l₂, hsplit, hv⟩ := mem_liveEntries_iff.mp hl
    have hfirst := h l₁ e.script l₂ hsplit
    rw [hv, liveVerdict_of_not_pending hfirst, hfirst] at hp
    exact nomatch hp

/-! ## Claimed records -/

/-- A record that a live entry claims is active, not live, and has the content of
    the script, which has no record of its own. -/
theorem claim_of_liveEntry {e : PlannedFile} {path : String} (he : e ∈ liveEntries input)
    (h : claim? e = some path) :
    e.verdict = .renamed path ∧ recordAt? input.records e.script.path = none
      ∧ input.options.allowRehash = true ∧ isLive input.live path = false
      ∧ ∃ r ∈ activeWith input.records e.script.hash, r.path = path := by
  obtain ⟨l₁, l₂, -, hv⟩ := mem_liveEntries_iff.mp he
  have h' : claim? ⟨e.script, liveVerdict input (carriedAfter input l₁) e.script⟩ = some path := by
    rw [← hv]; exact h
  obtain ⟨hr, hn, ha, r, hf, rfl⟩ := claim?_liveVerdict h'
  obtain ⟨hmem, hlive, -⟩ := of_free?_eq_some hf
  exact ⟨hv.trans hr, hn, ha, hlive, r, hmem, rfl⟩

/-- A record that an archived entry claims is active, not live, and has the
    content of the archived script. -/
theorem claim_of_archivedEntry {e : PlannedFile} {path : String} (he : e ∈ archivedEntries input)
    (h : claim? e = some path) :
    e.verdict = .archivedRedundant path ∧ input.options.archivedRedundancy = true
      ∧ isLive input.live path = false
      ∧ ∃ r ∈ activeWith input.records e.script.hash, r.path = path := by
  obtain ⟨l₁, l₂, -, hv⟩ := mem_planArchived_iff.mp he
  have h' := h
  rw [show e = ⟨e.script, e.verdict⟩ from rfl, hv] at h'
  obtain ⟨hr, ha, r, hf, rfl⟩ := claim?_archivedVerdict h'
  obtain ⟨hmem, hlive, -⟩ := of_free?_eq_some hf
  exact ⟨hv.trans hr, ha, hlive, r, hmem, rfl⟩

/-- What is taken when archived scripts are looked at is what live entries claim. -/
theorem mem_taken_live {path : String} :
    path ∈ (carriedAfter input (byPath input.live)).taken ↔ path ∈ claims (liveEntries input) := by
  rw [carriedAfter, mem_taken_planLive]
  simp [liveEntries]

/-- A record is claimed by a live or by an archived entry. -/
theorem mem_claims_build {path : String} :
    path ∈ claims (build input).entries
      ↔ path ∈ claims (liveEntries input) ∨ path ∈ claims (archivedEntries input) := by
  rw [entries_build, claims, List.filterMap_append, List.mem_append]
  rfl

/-- No live path is claimed. -/
theorem not_live_of_mem_claims {path : String} (h : path ∈ claims (build input).entries) :
    isLive input.live path = false := by
  obtain ⟨e, he, hc⟩ := mem_claims.mp h
  rcases mem_entries_build.mp he with hl | ha
  · exact (claim_of_liveEntry hl hc).2.2.2.1
  · exact (claim_of_archivedEntry ha hc).2.2.1

/-- What is taken before a live script is claimed by live entries. -/
theorem claimed_of_taken {l₁ l₂ : List Script} {path : String} (hl : byPath input.live = l₁ ++ l₂)
    (h : path ∈ (carriedAfter input l₁).taken) : path ∈ claims (liveEntries input) := by
  rcases mem_taken_planLive.mp h with hc | hempty
  · rw [liveEntries, hl, planLive_append, claims, List.filterMap_append]
    exact List.mem_append_left _ hc
  · exact absurd hempty List.not_mem_nil

/-- What is taken before an archived script is claimed. -/
theorem claimed_of_taken_archived {l₁ l₂ : List Script} {path : String}
    (hl : byPath input.archived = l₁ ++ l₂)
    (h : path ∈ (planArchived input (carriedAfter input (byPath input.live)).taken l₁).2) :
    path ∈ claims (build input).entries := by
  refine mem_claims_build.mpr ((mem_taken_planArchived.mp h).symm.imp mem_taken_live.mp fun hc => ?_)
  rw [archivedEntries, hl, planArchived_append, claims, List.filterMap_append]
  exact List.mem_append_left _ hc

/-- A live entry that is not skipped has its verdict for its own sake. -/
theorem first_of_liveEntry {e : PlannedFile} (he : e ∈ liveEntries input)
    (hv : ∀ kept, e.verdict ≠ .redundant kept) : ∃ taken, First input taken e.script e.verdict := by
  obtain ⟨l₁, l₂, -, heq⟩ := mem_liveEntries_iff.mp he
  exact ⟨_, first_of_liveVerdict heq.symm hv⟩

/-- A script is skipped only with redundancy, and asks to be skipped or to be run. -/
theorem first_of_redundant {e : PlannedFile} {kept : String} (he : e ∈ liveEntries input)
    (hv : e.verdict = .redundant kept) : input.options.redundancy = true
      ∧ ∃ taken, (∀ path ∈ taken, path ∈ claims (liveEntries input))
        ∧ ∃ v, First input taken e.script v ∧ (v = .redundant kept ∨ v.isPending = true) := by
  obtain ⟨l₁, l₂, hl, heq⟩ := mem_liveEntries_iff.mp he
  have htaken : ∀ path ∈ (carriedAfter input l₁).taken, path ∈ claims (liveEntries input) :=
    fun _ => claimed_of_taken hl
  have hfirst := first_firstVerdict input (carriedAfter input l₁).taken e.script
  rcases liveVerdict_cases input (carriedAfter input l₁) e.script with ⟨hsame, -⟩ | ⟨hp, hr, -⟩
  · have hred := hsame.symm.trans (heq.symm.trans hv)
    rw [hred] at hfirst
    refine ⟨?_, _, htaken, _, hfirst, Or.inl rfl⟩
    cases hfirst with
    | redundant _ _ _ ho => exact ho
  · exact ⟨hr, _, htaken, _, hfirst, Or.inr hp⟩

/-- A skipped script with a record of its own has another content than the record. -/
theorem changed_of_redundant {e : PlannedFile} {kept : String} (he : e ∈ liveEntries input)
    (hv : e.verdict = .redundant kept) {r : Record}
    (hr : recordAt? input.records e.script.path = some r) :
    r.hash ≠ e.script.hash ∧ ¬(r.hash = "" ∧ input.options.allowRehash) := by
  obtain ⟨-, taken, -, v, hfirst, hkind⟩ := first_of_redundant he hv
  cases hfirst with
  | changed h hh hb =>
      obtain rfl := Option.some.inj (hr.symm.trans h)
      exact ⟨hh, hb⟩
  | applied => rcases hkind with h | h <;> exact nomatch h
  | rehash => rcases hkind with h | h <;> exact nomatch h
  | renamed => rcases hkind with h | h <;> exact nomatch h
  | new h | notMoved h | redundant h | duplicate h =>
      rw [h] at hr
      exact nomatch hr

/-- Where records may be moved, a skipped script leaves no record with its content
    that could have been moved to it. -/
theorem unmoved_of_redundant {e : PlannedFile} {kept : String} (he : e ∈ liveEntries input)
    (hv : e.verdict = .redundant kept) (ha : input.options.allowRehash = true)
    (hn : recordAt? input.records e.script.path = none) :
    ∀ r ∈ activeWith input.records e.script.hash,
      isLive input.live r.path = true ∨ r.path ∈ claims (liveEntries input) := by
  obtain ⟨-, taken, htaken, v, hfirst, hkind⟩ := first_of_redundant he hv
  intro r hr
  -- Where nothing is free, every candidate is live or taken, and only live entries take.
  have hnone : free? input taken e.script.hash = none →
      isLive input.live r.path = true ∨ r.path ∈ claims (liveEntries input) := fun hf =>
    (free?_eq_none_iff.mp hf r hr).imp_right (htaken r.path)
  cases hfirst with
  | redundant _ _ hf => exact hnone hf
  | duplicate _ _ hf => exact hnone hf
  | new _ hempty => rw [hempty] at hr; exact nomatch hr
  | notMoved _ _ hnot => rw [ha] at hnot; exact nomatch hnot
  | changed h => rw [h] at hn; exact nomatch hn
  | applied => rcases hkind with h | h <;> exact nomatch h
  | rehash => rcases hkind with h | h <;> exact nomatch h
  | renamed => rcases hkind with h | h <;> exact nomatch h

/-! ## Touched paths -/

/-- The paths whose records an entry is about. -/
def touched (e : PlannedFile) : List String :=
  match e.verdict with
  | .pending _ => [e.script.path]
  | .renamed old => [old, e.script.path]
  | .rehash => [e.script.path]
  | .archivedRedundant record => [record]
  | _ => []

section

variable {e : PlannedFile}

/-- Running a script touches its own path. -/
theorem touched_of_isPending (h : e.verdict.isPending = true) : touched e = [e.script.path] := by
  rw [touched]
  cases hv : e.verdict with
  | pending reason => rfl
  | _ => simp [hv, Verdict.isPending] at h

/-- A move touches the path of the record and the new one. -/
theorem touched_of_renamed {old : String} (h : e.verdict = .renamed old) :
    touched e = [old, e.script.path] := by rw [touched, h]

theorem touched_of_rehash (h : e.verdict = .rehash) : touched e = [e.script.path] := by
  rw [touched, h]

/-- Shelving touches the record that goes to the archive, not the path of the script. -/
theorem touched_of_archivedRedundant {record : String}
    (h : e.verdict = .archivedRedundant record) : touched e = [record] := by rw [touched, h]

theorem mem_touched_of_isPending (h : e.verdict.isPending = true) : e.script.path ∈ touched e := by
  rw [touched_of_isPending h]
  exact List.mem_singleton_self _

theorem mem_touched_of_rehash (h : e.verdict = .rehash) : e.script.path ∈ touched e := by
  rw [touched_of_rehash h]
  exact List.mem_singleton_self _

theorem mem_touched_of_archivedRedundant {record : String}
    (h : e.verdict = .archivedRedundant record) : record ∈ touched e := by
  rw [touched_of_archivedRedundant h]
  exact List.mem_singleton_self _

/-- An entry that does nothing touches nothing. -/
theorem touched_of_isQuiet (h : e.verdict.isQuiet = true) : touched e = [] := by
  rw [touched]
  cases hv : e.verdict with
  | applied => rfl
  | redundant kept => rfl
  | archived => rfl
  | _ => rw [hv] at h; exact nomatch h

end

/-- A touched path is the script's own or claimed. -/
theorem mem_touched {e : PlannedFile} {path : String} (h : path ∈ touched e) :
    path = e.script.path ∨ claim? e = some path := by
  rw [touched] at h
  cases hv : e.verdict with
  | pending reason => rw [hv] at h; exact Or.inl (List.mem_singleton.mp h)
  | rehash => rw [hv] at h; exact Or.inl (List.mem_singleton.mp h)
  | renamed old =>
      rw [hv] at h
      rw [claim?_of_renamed hv]
      rcases List.mem_cons.mp h with hold | hnew
      · exact Or.inr (congrArg some hold.symm)
      · exact Or.inl (List.mem_singleton.mp hnew)
  | archivedRedundant record =>
      rw [hv] at h
      rw [claim?_of_archivedRedundant hv]
      exact Or.inr (congrArg some (List.mem_singleton.mp h).symm)
  | _ => rw [hv] at h; exact nomatch h

/-- A path that a plan touches is that of a live script or claimed. -/
theorem mem_touched_build {e : PlannedFile} {path : String} (he : e ∈ (build input).entries)
    (h : path ∈ touched e) :
    (e ∈ liveEntries input ∧ path = e.script.path) ∨ claim? e = some path := by
  rcases mem_entries_build.mp he with hl | ha
  · exact (mem_touched h).imp_left fun hown => ⟨hl, hown⟩
  · refine Or.inr ?_
    rcases archivedEntry_cases ha with hv | ⟨record, hv⟩
    · rw [touched_of_isQuiet (by rw [hv]; rfl)] at h
      exact nomatch h
    · rw [touched_of_archivedRedundant hv] at h
      rw [List.mem_singleton.mp h, claim?_of_archivedRedundant hv]

/-- The path of a live script is touched by its own entry only. -/
theorem eq_of_touched_live (hn : (input.live.map Script.path).Nodup) {e e' : PlannedFile}
    (he : e ∈ liveEntries input) (he' : e' ∈ (build input).entries)
    (h : e.script.path ∈ touched e') : e' = e := by
  rcases mem_touched_build he' h with ⟨hl, hown⟩ | hclaim
  · exact liveEntry_unique hn hl he hown.symm
  · have := not_live_of_mem_claims (mem_claims.mpr ⟨e', he', hclaim⟩)
    rw [isLive_script he] at this
    exact nomatch this

/-- Live entries touch live paths, and records that are free before them. -/
theorem mem_touched_planLive {c : Carried} {l : List Script} {path : String}
    (h : path ∈ (planLive input c l).1.flatMap touched) :
    (∃ s ∈ l, s.path = path) ∨ (isLive input.live path = false ∧ path ∉ c.taken) := by
  induction l generalizing c with
  | nil => exact nomatch h
  | cons s rest ih =>
      rw [planLive_cons, List.flatMap_cons, List.mem_append] at h
      rcases h with hhead | hrest
      · rcases mem_touched hhead with hown | hclaim
        · exact Or.inl ⟨s, List.mem_cons_self, hown.symm⟩
        · obtain ⟨-, -, -, r, hf, rfl⟩ := claim?_liveVerdict hclaim
          exact Or.inr (of_free?_eq_some hf).2
      · rcases ih hrest with ⟨s', hs', hp⟩ | ⟨hlive, htaken⟩
        · exact Or.inl ⟨s', List.mem_cons_of_mem _ hs', hp⟩
        · refine Or.inr ⟨hlive, fun hc => htaken ?_⟩
          rw [taken_after]
          exact List.mem_append_right _ hc

/-- No two live entries touch the same path, wherever in the list they stand. -/
theorem touched_planLive_nodup {c : Carried} {l : List Script}
    (hlive : ∀ s ∈ l, isLive input.live s.path = true) (hn : (l.map Script.path).Nodup) :
    ((planLive input c l).1.flatMap touched).Nodup := by
  induction l generalizing c with
  | nil => exact List.nodup_nil
  | cons s rest ih =>
      rw [List.map_cons, List.nodup_cons] at hn
      obtain ⟨hs, hrest⟩ := hn
      rw [planLive_cons, List.flatMap_cons, List.nodup_append']
      -- What this entry touches is its own live path, or is taken from the rest.
      have hhead : ∀ q ∈ touched ⟨s, liveVerdict input c s⟩, q ∉ (planLive input
          (c.after s (liveVerdict input c s)) rest).1.flatMap touched := by
        intro q hq hq'
        rcases mem_touched hq with hown | hclaim
        · rcases mem_touched_planLive hq' with ⟨s', hs', hp⟩ | ⟨hnot, -⟩
          · exact hs (List.mem_map.mpr ⟨s', hs', hp.trans hown⟩)
          · have := hlive s List.mem_cons_self
            rw [← hown, hnot] at this
            exact nomatch this
        · obtain ⟨-, -, -, r, hf, rfl⟩ := claim?_liveVerdict hclaim
          rcases mem_touched_planLive hq' with ⟨s', hs', hp⟩ | ⟨-, htaken⟩
          · have := hlive s' (List.mem_cons_of_mem _ hs')
            rw [hp, not_live_of_free? hf] at this
            exact nomatch this
          · rw [taken_after, hclaim] at htaken
            exact htaken List.mem_cons_self
      refine ⟨?_, ih (fun s' hs' => hlive s' (List.mem_cons_of_mem _ hs')) hrest, ?_⟩
      · cases hv : liveVerdict input c s with
        | renamed old =>
            -- The record that is moved is not live, so its path is not the script's own.
            have hclaim : claim? ⟨s, liveVerdict input c s⟩ = some old := by rw [hv]; rfl
            obtain ⟨-, -, -, r, hf, rfl⟩ := claim?_liveVerdict hclaim
            refine List.nodup_cons.mpr ⟨fun hmem => ?_, List.nodup_singleton _⟩
            have hl := hlive s List.mem_cons_self
            rw [← List.mem_singleton.mp hmem, not_live_of_free? hf] at hl
            exact nomatch hl
        | _ => simp [touched]
      · exact fun q hq hq' => hhead q hq hq'

/-- Archived entries touch records that are free before them. -/
theorem mem_touched_planArchived {taken : List String} {l : List Script} {path : String}
    (h : path ∈ (planArchived input taken l).1.flatMap touched) :
    isLive input.live path = false ∧ path ∉ taken := by
  -- By induction on the scripts, for any records taken before: a later script finds more of them
  -- taken.
  induction l generalizing taken with
  | nil => exact nomatch h
  | cons s rest ih =>
      rw [planArchived_cons, List.flatMap_cons, List.mem_append] at h
      rcases h with hhead | hrest
      · rcases archivedVerdict_cases input taken s with hv | ⟨record, hv⟩
        · rw [hv] at hhead; exact nomatch hhead
        · rw [hv] at hhead
          obtain ⟨-, r, hf, hr⟩ := archivedVerdict_eq_archivedRedundant_iff.mp hv
          rw [List.mem_singleton.mp hhead, ← hr]
          exact (of_free?_eq_some hf).2
      · obtain ⟨hlive, htaken⟩ := ih hrest
        refine ⟨hlive, fun hc => htaken ?_⟩
        rcases archivedVerdict_cases input taken s with hv | ⟨record, hv⟩
        · rw [hv]; exact hc
        · rw [hv]; exact List.mem_cons_of_mem _ hc

/-- No two archived entries touch the same path, since each takes the record that it shelves. -/
theorem touched_planArchived_nodup {taken : List String} {l : List Script} :
    ((planArchived input taken l).1.flatMap touched).Nodup := by
  induction l generalizing taken with
  | nil => exact List.nodup_nil
  | cons s rest ih =>
      rw [planArchived_cons, List.flatMap_cons]
      rcases archivedVerdict_cases input taken s with hv | ⟨record, hv⟩
      · rw [hv]; exact ih
      · rw [hv]
        refine List.nodup_cons.mpr ⟨fun hmem => ?_, ih⟩
        exact (mem_touched_planArchived hmem).2 List.mem_cons_self

/-- No path is touched by two entries of a plan, nor twice by one. -/
theorem touched_nodup (hn : (input.live.map Script.path).Nodup) :
    ((build input).entries.flatMap touched).Nodup := by
  rw [entries_build, List.flatMap_append, List.nodup_append']
  refine ⟨touched_planLive_nodup (fun s hs => ?_) (byPath_nodup hn),
    touched_planArchived_nodup, fun q hl ha => ?_⟩
  · exact isLive_iff.mpr ⟨s, mem_byPath.mp hs, rfl⟩
  · -- Archived entries touch neither live paths nor what live entries have taken.
    obtain ⟨hlive, htaken⟩ := mem_touched_planArchived ha
    obtain ⟨e, he, hq⟩ := List.mem_flatMap.mp hl
    rcases mem_touched hq with hown | hclaim
    · have := isLive_script he
      rw [← hown, hlive] at this
      exact nomatch this
    · exact htaken (mem_taken_live.mpr (mem_claims.mpr ⟨e, he, hclaim⟩))

/-- Entries touch no path that was touched by those before them. -/
theorem not_touched_before (hn : (input.live.map Script.path).Nodup)
    {done rest : List PlannedFile} {e : PlannedFile}
    (hsplit : (build input).entries = done ++ e :: rest) {path : String} (h : path ∈ touched e) :
    path ∉ done.flatMap touched := by
  have hnodup := touched_nodup hn
  rw [hsplit, List.flatMap_append, List.flatMap_cons, List.nodup_append'] at hnodup
  exact fun hdone => hnodup.2.2 hdone (List.mem_append_left _ h)

/-! ## Records without a file -/

/-- A file accounts for the record: by its path, by taking the record over, or,
    for an archived record, by its content in the archive. -/
def Present (input : Input) (r : Record) : Prop :=
  isLive input.live r.path = true ∨ isLive input.archived r.path = true
    ∨ r.path ∈ claims (build input).entries
    ∨ (r.state = .archived ∧ ∃ s ∈ input.archived, s.hash = r.hash)

/-- A file accounts for every record that an entry touches. -/
theorem present_of_touched {r : Record}
    (h : r.path ∈ (build input).entries.flatMap touched) : Present input r := by
  obtain ⟨e, he, hq⟩ := List.mem_flatMap.mp h
  rcases mem_touched_build he hq with ⟨hl, hown⟩ | hclaim
  · exact Or.inl (hown ▸ isLive_script hl)
  · exact Or.inr (Or.inr (Or.inl (mem_claims.mpr ⟨e, he, hclaim⟩)))

/-- The test of the plan for a record is the property: its path is live or archived, or it is
claimed. -/
theorem isPresent_iff {r : Record} :
    isPresent input (planArchived input (carriedAfter input (byPath input.live)).taken
        (byPath input.archived)).2 r = true ↔ Present input r := by
  have htaken : r.path ∈ (planArchived input (carriedAfter input (byPath input.live)).taken
      (byPath input.archived)).2 ↔ r.path ∈ claims (build input).entries := by
    rw [mem_taken_planArchived, mem_taken_live, mem_claims_build, or_comm]
    rfl
  rw [isPresent, Present, ← htaken]
  simp [or_assoc]

/-- A record is dead exactly if no file accounts for it. -/
theorem mem_dead_iff {d : DeadReference} :
    d ∈ (build input).dead
      ↔ ∃ r ∈ input.records, ¬Present input r ∧ (⟨r.path, r.missingRuns⟩ : DeadReference) = d := by
  show d ∈ List.map _ (List.filter _ _) ↔ _
  simp only [List.mem_map, List.mem_filter, Bool.not_eq_true', ← isPresent_iff,
    Bool.not_eq_true, and_assoc]
  rfl

/-- A record is recovered exactly if a file accounts for it after runs without one. -/
theorem mem_recovered_iff {path : String} :
    path ∈ (build input).recovered
      ↔ ∃ r ∈ input.records, Present input r ∧ 0 < r.missingRuns ∧ r.path = path := by
  show path ∈ List.map _ (List.filter _ _) ↔ _
  simp only [List.mem_map, List.mem_filter, Bool.and_eq_true, decide_eq_true_eq,
    ← isPresent_iff, and_assoc]
  rfl

/-- No dead reference is listed twice. -/
theorem dead_nodup (hn : (input.records.map Record.path).Nodup) :
    ((build input).dead.map DeadReference.path).Nodup := by
  show (List.map _ (List.map _ (List.filter _ _))).Nodup
  rw [List.map_map]
  exact hn.sublist (List.filter_sublist.map _)

end SchemaMigration.Plan
