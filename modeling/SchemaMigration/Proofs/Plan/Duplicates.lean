import SchemaMigration.Proofs.Plan.Demotion

/-! # Duplicates — scripts whose content is there already

    A script can be skipped for an earlier one that is run, or for an active record
    with its content.  A record is not a file: its own script may have been moved or
    changed.

    * `named_original_iff`: a skipped script names a live script with its content,
      unless the record that it names was moved in the same plan, or its file was
      changed (`redundant_without_original` shows both);
    * `settled_content_rerun_iff`: content that a plan finds applied, or moves, is run
      again for a script without a record exactly if records may not be moved and one
      with the content is loose (`settled_content_reruns` shows it, and that content
      whose hash is only now filled in is not found). -/

namespace SchemaMigration.Plan

open Ledger

variable {input : Input}

/-! ## What a skipped script names -/

/-- Another live script has the path, and brings the same content. -/
def HasOriginal (input : Input) (s : Script) (path : String) : Prop :=
  ∃ x ∈ input.live, x ≠ s ∧ x.path = path ∧ x.hash = s.hash

instance (input : Input) (s : Script) (path : String) : Decidable (HasOriginal input s path) :=
  inferInstanceAs (Decidable (∃ x ∈ input.live, x ≠ s ∧ x.path = path ∧ x.hash = s.hash))

/-- The record of the path is moved to a script with some content. -/
def MovedAway (input : Input) (hash path : String) : Prop :=
  ∃ e ∈ (build input).entries, e.verdict = .renamed path ∧ e.script.hash = hash

/-- The record of the path brings some content, and its live script another. -/
def Overwritten (input : Input) (hash path : String) : Prop :=
  (∃ r ∈ activeWith input.records hash, r.path = path)
    ∧ ∃ x ∈ input.live, x.path = path ∧ x.hash ≠ hash

/-- The path of an original is live, and the record of a live path is never moved. -/
theorem HasOriginal.not_movedAway {s : Script} {hash path : String}
    (h : HasOriginal input s path) : ¬MovedAway input hash path := by
  obtain ⟨x, hx, -, hpath, -⟩ := h
  rintro ⟨e, he, hv, -⟩
  have hlive := not_live_of_mem_claims (mem_claims.mpr ⟨e, he, claim?_of_renamed hv⟩)
  rw [isLive_iff.mpr ⟨x, hx, hpath⟩] at hlive
  cases hlive

/-- An original has the content on disk, so no file with another content has its path. -/
theorem HasOriginal.not_overwritten (hl : (input.live.map Script.path).Nodup) {s : Script}
    {path : String} (h : HasOriginal input s path) : ¬Overwritten input s.hash path := by
  obtain ⟨x, hx, -, hpath, hhash⟩ := h
  rintro ⟨-, y, hy, hy', hne⟩
  obtain rfl : x = y := List.inj_on_of_nodup_map hl hx hy (hpath.trans hy'.symm)
  exact hne hhash

/-- A script gives way to a candidate that stands before it. -/
theorem hasOriginal_of_lookup (ho : input.options.redundancy = true)
    (hl : (input.live.map Script.path).Nodup) {l₁ l₂ : List Script} {s : Script} {path : String}
    (hsplit : byPath input.live = l₁ ++ s :: l₂)
    (h : (carriedAfter input l₁).firstPending.lookup s.hash = some path) :
    HasOriginal input s path := by
  rw [lookup_firstPending_eq ho] at h
  obtain ⟨first, hhead, rfl⟩ := Option.map_eq_some_iff.mp h
  obtain ⟨hmem, hhash, -⟩ := mem_candidates.mp (List.mem_of_head? hhead)
  exact ⟨first, mem_byPath.mp (hsplit ▸ List.mem_append_left _ hmem),
    ne_of_mem_before hl hsplit hmem, rfl, hhash⟩

/-- A record that some live entry has taken was moved to a script with its content. -/
theorem movedAway_of_claimed (hn : (input.records.map Record.path).Nodup) {hash : String}
    {r : Record} (hr : r ∈ activeWith input.records hash)
    (h : r.path ∈ claims (liveEntries input)) : MovedAway input hash r.path := by
  obtain ⟨e, he, hclaim⟩ := mem_claims.mp h
  obtain ⟨hv, -, -, -, q, hq, hpath⟩ := claim_of_liveEntry he hclaim
  obtain ⟨hmem, -, -, hhash⟩ := mem_activeWith.mp hr
  obtain ⟨hmem', -, -, hhash'⟩ := mem_activeWith.mp hq
  obtain rfl : q = r := List.inj_on_of_nodup_map hn hmem' hmem hpath
  exact ⟨e, mem_entries_build.mpr (Or.inl he), hv, hhash'.symm.trans hhash⟩

/-- A record that is live has a live script with its content, unless that was overwritten. -/
theorem hasOriginal_of_live (hn : (input.records.map Record.path).Nodup) {s : Script} {r : Record}
    (hr : r ∈ activeWith input.records s.hash) (hown : recordAt? input.records s.path = none)
    (hlive : isLive input.live r.path = true) (hkept : ¬Overwritten input s.hash r.path) :
    HasOriginal input s r.path := by
  obtain ⟨x, hx, hpath⟩ := isLive_iff.mp hlive
  refine ⟨x, hx, fun heq => ?_, hpath, ?_⟩
  · have hat := viewOf_of_mem hn (mem_activeWith.mp hr).1
    rw [← hpath, heq, ← recordAt?_eq_viewOf hn] at hat
    cases hown.symm.trans hat
  · by_contra hne
    exact hkept ⟨⟨r, hr, rfl⟩, x, hx, hpath, hne⟩

/-- A skipped script names a live script with its content, but for two cases: the record
    of the path that it names is moved to another script in the same plan, or the file at
    that path was changed since it was recorded. -/
theorem named_original_iff (hn : (input.records.map Record.path).Nodup)
    (hl : (input.live.map Script.path).Nodup) {e : PlannedFile} {path : String}
    (he : e ∈ (build input).entries) (hv : e.verdict = .redundant path) :
    HasOriginal input e.script path
      ↔ ¬MovedAway input e.script.hash path ∧ ¬Overwritten input e.script.hash path := by
  refine ⟨fun h => ⟨h.not_movedAway, h.not_overwritten hl⟩, fun ⟨hstays, hkept⟩ => ?_⟩
  have hlive : e ∈ liveEntries input :=
    liveEntry_of_ne he hv Verdict.noConfusion fun _ => Verdict.noConfusion
  obtain ⟨l₁, l₂, hsplit, hdecided⟩ := mem_liveEntries_iff.mp hlive
  rcases liveVerdict_cases input (carriedAfter input l₁) e.script
    with ⟨hfirst, -⟩ | ⟨-, ho, first, hlookup, hred⟩
  · -- The script is skipped for a record, which is live or taken.
    have hv' := first_firstVerdict input (carriedAfter input l₁).taken e.script
    rw [← hfirst, ← hdecided, hv] at hv'
    cases hv' with
    | redundant hown hr hf _ =>
        rcases free?_eq_none_iff.mp hf _ hr with hlive' | htaken
        · exact hasOriginal_of_live hn hr hown hlive' hkept
        · exact absurd (movedAway_of_claimed hn hr (claimed_of_taken hsplit htaken)) hstays
  · -- The script is skipped for another one.
    rw [hdecided, hred] at hv
    obtain rfl := Verdict.redundant.inj hv
    exact hasOriginal_of_lookup ho hl hsplit hlookup

/-- A copy of a script that is up to date names it. -/
theorem named_original_of_copied :
    ⟨found "c" "y" .updates, .redundant "a"⟩ ∈ (build (copied true)).entries
      ∧ HasOriginal (copied true) (found "c" "y" .updates) "a"
      ∧ ¬MovedAway (copied true) "y" "a" ∧ ¬Overwritten (copied true) "y" "a" := by
  have hmem : ⟨found "c" "y" .updates, .redundant "a"⟩ ∈ (build (copied true)).entries := by
    rw [entries_build, liveEntries, byPath_copied]
    exact List.mem_append_left _ (by decide)
  have horiginal : HasOriginal (copied true) (found "c" "y" .updates) "a" := by decide
  exact ⟨hmem, horiginal, (named_original_iff (by decide) (by decide) hmem rfl).mp horiginal⟩

/-- What is decided on scripts that stand in path order is in the plan. -/
theorem mem_entries_of_sorted {input : Input} {e : PlannedFile}
    (hsorted : byPath input.live = input.live)
    (he : e ∈ (planLive input ⟨[], []⟩ input.live).1) : e ∈ (build input).entries := by
  rw [entries_build, liveEntries, hsorted]
  exact List.mem_append_left _ he

/-- Two copies of a script whose file is gone. -/
def twoHeirs : Input where
  live := [found "a" "x" .updates, found "b" "x" .updates]
  archived := []
  records := [recorded "gone" "x"]
  options := .standard

/-- A script that was changed, and one with its old content. -/
def outdated : Input where
  live := [found "a" "y" .updates, found "b" "x" .updates]
  archived := []
  records := [recorded "a" "x"]
  options := .standard

/-- A skipped script may name a path that is not on disk, since its record was moved to
    another script, and a script that has another content by now. -/
theorem redundant_without_original :
    ((twoHeirs.records.map Record.path).Nodup ∧ (twoHeirs.live.map Script.path).Nodup
        ∧ (∀ s ∈ twoHeirs.live, s.hash ≠ "")
        ∧ ⟨found "b" "x" .updates, .redundant "gone"⟩ ∈ (build twoHeirs).entries
        ∧ ¬HasOriginal twoHeirs (found "b" "x" .updates) "gone")
      ∧ (outdated.records.map Record.path).Nodup ∧ (outdated.live.map Script.path).Nodup
        ∧ (∀ s ∈ outdated.live, s.hash ≠ "")
        ∧ ⟨found "b" "x" .updates, .redundant "a"⟩ ∈ (build outdated).entries
        ∧ ¬HasOriginal outdated (found "b" "x" .updates) "a" := by
  refine ⟨⟨by decide, by decide, by decide, ?_, by decide⟩,
    by decide, by decide, by decide, ?_, by decide⟩
  · exact mem_entries_of_sorted (by cbv) (by decide)
  · exact mem_entries_of_sorted (by cbv) (by decide)

/-! ## Content that is settled -/

/-- The plan finds the content of an entry applied, moves a record with it, or fills the
    hash in. -/
def Settles (v : Verdict) : Prop := v = .applied ∨ (∃ old, v = .renamed old) ∨ v = .rehash

/-- Content that is settled is not run for a script without a record. -/
def SettledStays (input : Input) : Prop :=
  ∀ e ∈ (build input).entries, Settles e.verdict →
    ∀ e' ∈ (build input).entries, e'.script.hash = e.script.hash →
      recordAt? input.records e'.script.path = none → e'.verdict.isPending = false

/-- Settled content has an active record, unless its hash is only now filled in. -/
theorem activeWith_ne_nil_of_settles (hactive : ∀ r ∈ input.records, r.state = .active)
    (hne : ∀ s ∈ input.live, s.hash ≠ "") {e : PlannedFile} (he : e ∈ (build input).entries)
    (hs : Settles e.verdict)
    (hstored : e.verdict = .rehash → activeWith input.records e.script.hash ≠ []) :
    activeWith input.records e.script.hash ≠ [] := by
  -- Settled by its own record, by a moved one, or by one that is filled in.
  rcases hs with hv | ⟨old, hv⟩ | hv
  · have hlive : e ∈ liveEntries input :=
      liveEntry_of_ne he hv Verdict.noConfusion fun _ => Verdict.noConfusion
    obtain ⟨taken, hfirst⟩ :=
      first_of_liveEntry hlive fun kept h => Verdict.noConfusion (hv.symm.trans h)
    rw [hv] at hfirst
    cases hfirst with
    | applied hr hh =>
        have hmem := List.mem_reverse.mp (List.mem_of_find?_eq_some hr)
        refine List.ne_nil_of_mem (mem_activeWith.mpr ⟨hmem, hactive _ hmem, ?_, hh⟩)
        rw [hh]
        exact hne _ (live_of_mem_liveEntries hlive)
  · have hlive : e ∈ liveEntries input :=
      liveEntry_of_ne he hv Verdict.noConfusion fun _ => Verdict.noConfusion
    obtain ⟨-, -, -, -, r, hr, -⟩ := claim_of_liveEntry hlive (claim?_of_renamed hv)
    exact List.ne_nil_of_mem hr
  · exact hstored hv

/-- A script without a record whose content an active record holds is a candidate only if
    records may not be moved and one with the content is loose. -/
theorem candidacy?_eq_some_iff {s : Script} (hown : recordAt? input.records s.path = none)
    (hknown : activeWith input.records s.hash ≠ []) {reason : PendingReason} :
    candidacy? input s = some reason
      ↔ input.options.allowRehash = false
        ∧ (∃ r ∈ activeWith input.records s.hash, isLive input.live r.path = false)
        ∧ reason = .renameNotAllowed := by
  have hloose : loose input s.hash ≠ []
      ↔ ∃ r ∈ activeWith input.records s.hash, isLive input.live r.path = false := by
    constructor
    · intro hne
      obtain ⟨r, hr⟩ := List.exists_mem_of_ne_nil _ hne
      exact ⟨r, mem_loose.mp hr⟩
    · rintro ⟨r, hr, hlive⟩
      exact List.ne_nil_of_mem (mem_loose.mpr ⟨hr, hlive⟩)
  rw [candidacy?_of_none hown, if_neg hknown, ← hloose]
  by_cases h : input.options.allowRehash = false ∧ loose input s.hash ≠ []
  · rw [if_pos h]
    simp [h, eq_comm]
  · rw [if_neg h]
    exact iff_of_false (Option.some_ne_none reason).symm fun h' => h ⟨h'.1, h'.2.1⟩

/-- With redundancy, a script without a record whose content the plan settles elsewhere is
    run exactly if records may not be moved, one with the content is loose, and no other
    candidate with the content stands before it; then a move that is not allowed is the
    reason. -/
theorem settled_content_rerun_iff (hl : (input.live.map Script.path).Nodup)
    (hactive : ∀ r ∈ input.records, r.state = .active) (hne : ∀ s ∈ input.live, s.hash ≠ "")
    (ho : input.options.redundancy = true) {e e' : PlannedFile}
    (he : e ∈ (build input).entries) (hs : Settles e.verdict)
    (hstored : e.verdict = .rehash → activeWith input.records e.script.hash ≠ [])
    (he' : e' ∈ liveEntries input) (hhash : e'.script.hash = e.script.hash)
    (hown : recordAt? input.records e'.script.path = none) :
    (e'.verdict.isPending = true
        ↔ input.options.allowRehash = false
          ∧ (∃ r ∈ activeWith input.records e'.script.hash, isLive input.live r.path = false)
          ∧ (candidates input e'.script.hash (byPath input.live)).head? = some e'.script)
      ∧ (e'.verdict.isPending = true → e'.verdict = .pending .renameNotAllowed) := by
  have hknown : activeWith input.records e'.script.hash ≠ [] :=
    hhash ▸ activeWith_ne_nil_of_settles hactive hne he hs hstored
  -- A script without a record runs only as the first candidate, and is one only where moving is
  -- off.
  have hverdict : e'.verdict.isPending = true → input.options.allowRehash = false
      ∧ (∃ r ∈ activeWith input.records e'.script.hash, isLive input.live r.path = false)
      ∧ (candidates input e'.script.hash (byPath input.live)).head? = some e'.script
      ∧ e'.verdict = .pending .renameNotAllowed := by
    intro hp
    obtain ⟨hsome, hhead⟩ := first_of_isPending ho hl (mem_pending_iff.mpr ⟨he', hp⟩)
    obtain ⟨reason, hc⟩ := Option.isSome_iff_exists.mp hsome
    obtain ⟨ha, hloose, rfl⟩ := (candidacy?_eq_some_iff hown hknown).mp hc
    obtain ⟨first, hfirst, hv⟩ := verdict_of_candidacy ho hl he' hc
    rw [hhead] at hfirst
    rw [if_pos (Option.some.inj hfirst)] at hv
    exact ⟨ha, hloose, hhead, hv⟩
  refine ⟨⟨fun hp => ?_, fun ⟨ha, hloose, hhead⟩ => ?_⟩, fun hp => (hverdict hp).2.2.2⟩
  · obtain ⟨ha, hloose, hhead, -⟩ := hverdict hp
    exact ⟨ha, hloose, hhead⟩
  · have hc := (candidacy?_eq_some_iff hown hknown).mpr ⟨ha, hloose, rfl⟩
    obtain ⟨first, hfirst, hv⟩ := verdict_of_candidacy ho hl he' hc
    rw [hhead] at hfirst
    rw [if_pos (Option.some.inj hfirst)] at hv
    rw [hv]
    rfl

/-- A copy of a script that is up to date, beside a record whose file is gone. -/
def aside : Input where
  live := [found "a" "x" .updates, found "b" "x" .updates]
  archived := []
  records := [recorded "a" "x", recorded "gone" "x"]
  options := ⟨true, false, false, 3⟩

theorem applied_aside : ⟨found "a" "x" .updates, .applied⟩ ∈ (build aside).entries :=
  mem_entries_of_sorted (by cbv) (by decide)

theorem rerun_aside :
    ⟨found "b" "x" .updates, .pending .renameNotAllowed⟩ ∈ (build aside).entries :=
  mem_entries_of_sorted (by cbv) (by decide)

/-- The copy is run since the record whose file is gone may not be moved to it. -/
theorem settled_content_rerun_aside :
    (aside.options.redundancy = true ∧ Settles .applied)
      ∧ aside.options.allowRehash = false
      ∧ (∃ r ∈ activeWith aside.records "x", isLive aside.live r.path = false)
      ∧ (candidates aside "x" (byPath aside.live)).head? = some (found "b" "x" .updates) := by
  have hlive : ⟨found "b" "x" .updates, .pending .renameNotAllowed⟩ ∈ liveEntries aside :=
    (mem_pending_iff.mp (List.mem_filter.mpr ⟨rerun_aside, rfl⟩)).1
  have hl : (aside.live.map Script.path).Nodup := by decide
  obtain ⟨hiff, -⟩ := settled_content_rerun_iff hl (by decide) (by decide) rfl applied_aside
    (Or.inl rfl) Verdict.noConfusion hlive rfl rfl
  exact ⟨⟨rfl, Or.inl rfl⟩, hiff.mp rfl⟩

/-- A copy of a script whose record has no hash. -/
def unhashed : Input where
  live := [found "a" "x" .updates, found "b" "x" .updates]
  archived := []
  records := [recorded "a" ""]
  options := .standard

/-- Content that the plan finds applied is run again where a record with it is loose and may
    not be moved, and content whose hash is filled in, where no record holds it yet. -/
theorem settled_content_reruns :
    ((aside.records.map Record.path).Nodup ∧ (aside.live.map Script.path).Nodup
        ∧ (∀ r ∈ aside.records, r.state = .active) ∧ (∀ s ∈ aside.live, s.hash ≠ "")
        ∧ aside.options.redundancy = true ∧ ¬SettledStays aside)
      ∧ (unhashed.records.map Record.path).Nodup ∧ (unhashed.live.map Script.path).Nodup
        ∧ (∀ r ∈ unhashed.records, r.state = .active) ∧ (∀ s ∈ unhashed.live, s.hash ≠ "")
        ∧ unhashed.options.redundancy = true ∧ ¬SettledStays unhashed := by
  refine ⟨⟨by decide, by decide, by decide, by decide, rfl, fun hstays => ?_⟩,
    by decide, by decide, by decide, by decide, rfl, fun hstays => ?_⟩
  · cases hstays _ applied_aside (Or.inl rfl) _ rerun_aside rfl rfl
  · have hrehash : ⟨found "a" "x" .updates, .rehash⟩ ∈ (build unhashed).entries :=
      mem_entries_of_sorted (by cbv) (by decide)
    have hrun : ⟨found "b" "x" .updates, .pending .new⟩ ∈ (build unhashed).entries :=
      mem_entries_of_sorted (by cbv) (by decide)
    cases hstays _ hrehash (Or.inr (Or.inr rfl)) _ hrun rfl rfl

end SchemaMigration.Plan
