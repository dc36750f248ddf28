import SchemaMigration.Proofs.Plan.Takeovers

/-! # Demotion — which of several equal scripts is run

    Whether a live script asks to be run can be told without the scripts before it
    (`candidacy?`), but for one case: without redundancy, a script whose content an
    active record holds is run if no record is left for it to take over (`Stranded`).
    With redundancy, the scripts that ask are asked to agree on one of each content:

    * `firstVerdict_eq_pending_iff`: who asks to be run;
    * `lookup_firstPending_eq`: after some scripts, the first candidate of every
      content is remembered;
    * `equal_scripts_demoted`: with redundancy the first candidate of a content is run
      and the others give way to it, without redundancy all of them are run. -/

namespace SchemaMigration.Plan

open Ledger

variable {input : Input}

/-! ## Candidates -/

/-- Why a live script asks to be run, as far as it can be told from its own record and
    from the active records with its content. -/
def candidacy? (input : Input) (s : Script) : Option PendingReason :=
  match recordAt? input.records s.path with
  | some r =>
      if r.hash = s.hash ∨ (r.hash = "" ∧ input.options.allowRehash) then none
      else some .contentChanged
  | none =>
      if activeWith input.records s.hash = [] then some .new
      else if input.options.allowRehash = false ∧ loose input s.hash ≠ [] then
        some .renameNotAllowed
      else none

/-- The candidates with some content among some scripts, in order. -/
def candidates (input : Input) (hash : String) (scripts : List Script) : List Script :=
  scripts.filter fun s => decide (s.hash = hash) && (candidacy? input s).isSome

/-- The script has no record, and the active records with its content are all live or taken. -/
structure Stranded (input : Input) (taken : List String) (s : Script) : Prop where
  unrecorded : recordAt? input.records s.path = none
  known : activeWith input.records s.hash ≠ []
  left : ∀ r ∈ activeWith input.records s.hash,
    isLive input.live r.path = true ∨ r.path ∈ taken

/-- A script is stranded if its content is known to the ledger and no record is left for it. -/
theorem stranded_iff {taken : List String} {s : Script} :
    Stranded input taken s ↔ recordAt? input.records s.path = none
      ∧ activeWith input.records s.hash ≠ [] ∧ free? input taken s.hash = none := by
  rw [free?_eq_none_iff]
  exact ⟨fun h => ⟨h.unrecorded, h.known, h.left⟩, fun ⟨hn, ha, hf⟩ => ⟨hn, ha, hf⟩⟩

section

variable {taken : List String} {s : Script}

/-- With a record, a script is a candidate if its content has changed. -/
theorem candidacy?_of_some {r : Record} (hr : recordAt? input.records s.path = some r) :
    candidacy? input s
      = if r.hash = s.hash ∨ (r.hash = "" ∧ input.options.allowRehash) then none
        else some .contentChanged := by
  rw [candidacy?, hr]

/-- Without a record, a script is a candidate if its content is new, or known and not to be
moved. -/
theorem candidacy?_of_none (hn : recordAt? input.records s.path = none) :
    candidacy? input s
      = if activeWith input.records s.hash = [] then some .new
        else if input.options.allowRehash = false ∧ loose input s.hash ≠ [] then
          some .renameNotAllowed
        else none := by
  rw [candidacy?, hn]

/-- Where nothing is taken, nothing is free exactly if no record is loose. -/
theorem free?_nil_eq_none_iff {hash : String} :
    free? input [] hash = none ↔ loose input hash = [] := by
  rw [free?_eq_head?, untaken, List.head?_eq_none_iff]
  simp

/-- A script asks to be run if it is a candidate or, without redundancy, stranded. -/
theorem firstVerdict_eq_pending_iff (ht : input.options.allowRehash = false → taken = [])
    {reason : PendingReason} :
    firstVerdict input taken s = .pending reason
      ↔ candidacy? input s = some reason
        ∨ (reason = .duplicate ∧ input.options.redundancy = false ∧ Stranded input taken s) := by
  rw [stranded_iff]
  cases hown : recordAt? input.records s.path with
  | some r =>
      rw [candidacy?_of_some hown]
      by_cases hh : r.hash = s.hash
      · rw [firstVerdict_of_same hown hh, if_pos (Or.inl hh)]
        simp
      · by_cases hb : r.hash = "" ∧ input.options.allowRehash
        · rw [firstVerdict_of_blank hown hh hb, if_pos (Or.inr hb)]
          simp
        · rw [firstVerdict_of_changed hown hh hb, if_neg (not_or.mpr ⟨hh, hb⟩)]
          simp
  | none =>
      rw [firstVerdict_of_none hown, candidacy?_of_none hown, unrecorded]
      cases hactive : activeWith input.records s.hash with
      | nil => simp
      | cons kept rest =>
          rw [if_neg (List.cons_ne_nil _ _)]
          cases ha : input.options.allowRehash with
          | true =>
              rw [if_neg fun h => Bool.noConfusion h.1]
              cases hf : free? input taken s.hash with
              | some r => simp
              | none => cases ho : input.options.redundancy <;> simp [eq_comm]
          | false =>
              -- Without moves nothing is taken, and a loose record is a free one.
              obtain rfl := ht ha
              cases hf : free? input [] s.hash with
              | some r =>
                  have hloose : loose input s.hash ≠ [] := fun hnil => by
                    rw [free?_nil_eq_none_iff.mpr hnil] at hf
                    cases hf
                  rw [if_pos ⟨rfl, hloose⟩]
                  simp
              | none =>
                  rw [if_neg fun h => h.2 (free?_nil_eq_none_iff.mp hf)]
                  cases ho : input.options.redundancy <;> simp [eq_comm]

end

theorem candidates_concat {l : List Script} {s : Script} {hash : String} :
    candidates input hash (l ++ [s])
      = candidates input hash l ++ candidates input hash [s] := List.filter_append ..

theorem candidates_singleton {s : Script} (hc : (candidacy? input s).isSome = true) :
    candidates input s.hash [s] = [s] := by
  simp [candidates, hc]

/-- A candidate is a script of the list, with that content, that would be run. -/
theorem mem_candidates {hash : String} {scripts : List Script} {s : Script} :
    s ∈ candidates input hash scripts
      ↔ s ∈ scripts ∧ s.hash = hash ∧ (candidacy? input s).isSome = true := by
  simp [candidates]

/-! ## The first script of every content -/

/-- What a script that is not run leaves of the first scripts. -/
theorem firstPending_after_of_not_pending (c : Carried) (s : Script) {v : Verdict}
    (h : v.isPending = false) : (c.after s v).firstPending = c.firstPending := by
  cases v with
  | pending reason => cases h
  | _ => rfl

/-- A script that is run is remembered if it is the first with its content. -/
theorem firstPending_after_of_pending {c : Carried} {s : Script} (reason : PendingReason)
    (h : c.firstPending.lookup s.hash = none) :
    (c.after s (.pending reason)).firstPending = (s.hash, s.path) :: c.firstPending := by
  rw [Carried.after, h]

/-- With redundancy, a script asks to be run exactly if it is a candidate. -/
theorem firstVerdict_carriedAfter_iff (ho : input.options.redundancy = true) (l : List Script)
    {s : Script} {reason : PendingReason} :
    firstVerdict input (carriedAfter input l).taken s = .pending reason
      ↔ candidacy? input s = some reason := by
  rw [firstVerdict_eq_pending_iff fun ha => taken_carriedAfter_eq_nil ha l, ho]
  simp

/-- With redundancy, a candidate is run if no candidate with its content stands before it,
    and gives way to the one that is remembered otherwise. -/
theorem liveVerdict_of_candidacy (ho : input.options.redundancy = true) {l : List Script}
    {s : Script} {reason : PendingReason} (hc : candidacy? input s = some reason) :
    liveVerdict input (carriedAfter input l) s
      = match (carriedAfter input l).firstPending.lookup s.hash with
        | some first => .redundant first
        | none => .pending reason := by
  rw [liveVerdict, (firstVerdict_carriedAfter_iff ho l).mpr hc]
  exact if_pos ho

/-- With redundancy, a script that is no candidate is not run. -/
theorem isPending_of_candidacy_eq_none (ho : input.options.redundancy = true) {l : List Script}
    {s : Script} (hc : candidacy? input s = none) :
    (liveVerdict input (carriedAfter input l) s).isPending = false := by
  have hfirst : (firstVerdict input (carriedAfter input l).taken s).isPending = false := by
    cases hv : firstVerdict input (carriedAfter input l).taken s with
    | pending reason =>
        cases hc.symm.trans ((firstVerdict_carriedAfter_iff ho l).mp hv)
    | _ => rfl
  rw [liveVerdict_of_not_pending hfirst, hfirst]

/-- With redundancy, the first candidate of every content is remembered. -/
theorem lookup_firstPending_eq (ho : input.options.redundancy = true) (l : List Script)
    (hash : String) :
    (carriedAfter input l).firstPending.lookup hash
      = (candidates input hash l).head?.map Script.path := by
  -- Induction from the back: the last script counts only if none with its content came before.
  induction l using List.reverseRecOn generalizing hash with
  | nil => rfl
  | append_singleton l s ih =>
      rw [carriedAfter_concat, candidates_concat, List.head?_append]
      cases hc : candidacy? input s with
      | none =>
          have hnone : candidates input hash [s] = [] := by simp [candidates, hc]
          rw [firstPending_after_of_not_pending _ _ (isPending_of_candidacy_eq_none ho hc), ih,
            hnone, List.head?_nil, Option.or_none]
      | some reason =>
          rw [liveVerdict_of_candidacy ho hc]
          have hs := ih s.hash
          cases hhead : (candidates input s.hash l).head? with
          | some first =>
              rw [hhead, Option.map_some] at hs
              rw [hs]
              show (carriedAfter input l).firstPending.lookup hash = _
              rw [ih]
              by_cases hh : s.hash = hash
              · subst hh
                rw [hhead]
                rfl
              · have hnone : candidates input hash [s] = [] := by simp [candidates, hh]
                rw [hnone, List.head?_nil, Option.or_none]
          | none =>
              rw [hhead, Option.map_none] at hs
              rw [hs]
              show ((carriedAfter input l).after s (.pending reason)).firstPending.lookup hash = _
              rw [firstPending_after_of_pending reason hs, List.lookup_cons]
              by_cases hh : s.hash = hash
              · subst hh
                rw [hhead, candidates_singleton (by rw [hc]; rfl)]
                simp
              · have hnone : candidates input hash [s] = [] := by simp [candidates, hh]
                rw [hnone, List.head?_nil, Option.or_none, ← ih,
                  show (hash == s.hash) = false from beq_false_of_ne (Ne.symm hh)]

/-! ## Plans with redundancy -/

/-- With redundancy, the first candidate of a content is run, and the others give way to it. -/
theorem verdict_of_candidacy (ho : input.options.redundancy = true)
    (hl : (input.live.map Script.path).Nodup) {e : PlannedFile} (he : e ∈ liveEntries input)
    {reason : PendingReason} (hc : candidacy? input e.script = some reason) :
    ∃ first, (candidates input e.script.hash (byPath input.live)).head? = some first
      ∧ e.verdict = if e.script = first then .pending reason else .redundant first.path := by
  obtain ⟨l₁, l₂, hsplit, hv⟩ := mem_liveEntries_iff.mp he
  have hself : e.script ∈ candidates input e.script.hash [e.script] := by
    rw [candidates_singleton (by rw [hc]; rfl)]
    exact List.mem_singleton_self _
  rw [hv, liveVerdict_of_candidacy ho hc, lookup_firstPending_eq ho, hsplit,
    ← List.singleton_append, ← List.append_assoc, candidates, List.filter_append]
  rw [← candidates, candidates_concat, candidates_singleton (by rw [hc]; rfl)]
  cases hhead : candidates input e.script.hash l₁ with
  | nil => exact ⟨e.script, rfl, (if_pos rfl).symm⟩
  | cons first rest =>
      have hmem : first ∈ candidates input e.script.hash l₁ := hhead ▸ List.mem_cons_self
      have hne := ne_of_mem_before hl hsplit (mem_candidates.mp hmem).1
      exact ⟨first, rfl, (if_neg hne.symm).symm⟩

/-- With redundancy, the scripts that are run are first candidates of their content. -/
theorem first_of_isPending (ho : input.options.redundancy = true)
    (hl : (input.live.map Script.path).Nodup) {e : PlannedFile}
    (he : e ∈ (build input).pending) :
    (candidacy? input e.script).isSome = true
      ∧ (candidates input e.script.hash (byPath input.live)).head? = some e.script := by
  obtain ⟨hlive, hp⟩ := mem_pending_iff.mp he
  cases hc : candidacy? input e.script with
  | none =>
      obtain ⟨l₁, l₂, -, hv⟩ := mem_liveEntries_iff.mp hlive
      rw [hv, isPending_of_candidacy_eq_none ho hc] at hp
      cases hp
  | some reason =>
      obtain ⟨first, hhead, hv⟩ := verdict_of_candidacy ho hl hlive hc
      by_cases heq : e.script = first
      · exact ⟨rfl, heq ▸ hhead⟩
      · rw [hv, if_neg heq] at hp
        cases hp

/-- With redundancy, no two scripts with the same content are run. -/
theorem pending_hash_nodup (ho : input.options.redundancy = true)
    (hl : (input.live.map Script.path).Nodup) :
    ((build input).pending.map fun e => e.script.hash).Nodup := by
  refine List.Nodup.map_on (fun e₁ h₁ e₂ h₂ hhash => ?_) (List.Nodup.of_map _ (pending_nodup hl))
  have hhead₁ := (first_of_isPending ho hl h₁).2
  have hhead₂ := (first_of_isPending ho hl h₂).2
  rw [hhash, hhead₂] at hhead₁
  refine liveEntry_unique hl (mem_pending_iff.mp h₁).1 (mem_pending_iff.mp h₂).1 ?_
  rw [Option.some.inj hhead₁]

/-- One script of each content is run: the first candidate. -/
structure OneRuns (input : Input) : Prop where
  /-- The first candidate is run, and the others are skipped for it. -/
  first : ∀ {hash : String} {first : Script} {rest : List Script},
    candidates input hash (byPath input.live) = first :: rest →
      (∃ reason, candidacy? input first = some reason
          ∧ ⟨first, .pending reason⟩ ∈ (build input).entries)
        ∧ ∀ s ∈ rest, ⟨s, .redundant first.path⟩ ∈ (build input).entries
  /-- Nothing else is run. -/
  only : ∀ e ∈ (build input).pending, (candidacy? input e.script).isSome = true
  /-- No content is run twice. -/
  once : ((build input).pending.map fun e => e.script.hash).Nodup

/-- With redundancy on, the first candidate for each content runs and the others are demoted to
it. -/
theorem oneRuns (ho : input.options.redundancy = true)
    (hl : (input.live.map Script.path).Nodup) : OneRuns input where
  first := by
    intro hash first rest hlist
    have hentry : ∀ s ∈ candidates input hash (byPath input.live), ∃ reason,
        candidacy? input s = some reason
          ∧ ⟨s, if s = first then .pending reason else .redundant first.path⟩
            ∈ (build input).entries := by
      intro s hs
      obtain ⟨hmem, rfl, hsome⟩ := mem_candidates.mp hs
      obtain ⟨reason, hc⟩ := Option.isSome_iff_exists.mp hsome
      obtain ⟨e, he, rfl⟩ := exists_liveEntry (mem_byPath.mp hmem)
      obtain ⟨head, hhead, hv⟩ := verdict_of_candidacy ho hl he hc
      rw [hlist] at hhead
      obtain rfl := Option.some.inj hhead
      refine ⟨reason, hc, ?_⟩
      rw [← hv]
      exact mem_entries_build.mpr (Or.inl he)
    have hnodup : (first :: rest).Nodup := hlist ▸ (byPath_nodup_self hl).filter _
    refine ⟨?_, fun s hs => ?_⟩
    · obtain ⟨reason, hc, hmem⟩ := hentry first (hlist ▸ List.mem_cons_self)
      rw [if_pos rfl] at hmem
      exact ⟨reason, hc, hmem⟩
    · obtain ⟨reason, -, hmem⟩ := hentry s (hlist ▸ List.mem_cons_of_mem _ hs)
      have hne : s ≠ first := fun heq => (List.nodup_cons.mp hnodup).1 (heq ▸ hs)
      rw [if_neg hne] at hmem
      exact hmem
  only := fun _ he => (first_of_isPending ho hl he).1
  once := pending_hash_nodup ho hl

/-! ## Plans without redundancy -/

/-- A live entry is decided from the entries before it: from the records that they take. -/
theorem verdict_of_split {done rest : List PlannedFile} {e : PlannedFile}
    (h : liveEntries input = done ++ e :: rest) :
    e.verdict = liveVerdict input (carriedAfter input (done.map PlannedFile.script)) e.script
      ∧ ∀ path, path ∈ (carriedAfter input (done.map PlannedFile.script)).taken
          ↔ path ∈ claims done := by
  have hscripts := map_script_liveEntries input
  rw [h, List.map_append, List.map_cons] at hscripts
  rw [liveEntries, ← hscripts, planLive_append, planLive_cons] at h
  have hlength : (planLive input ⟨[], []⟩ (done.map PlannedFile.script)).1.length
      = done.length := by
    rw [← List.length_map (f := PlannedFile.script), map_script_planLive, List.length_map]
  obtain ⟨hdone, hcons⟩ := List.append_inj h hlength
  refine ⟨?_, fun path => ?_⟩
  · rw [← (List.cons.inj hcons).1]
    rfl
  · rw [carriedAfter, mem_taken_planLive, hdone]
    simp

/-- All candidates are run, and every script that finds no record left for its content. -/
def AllRun (input : Input) : Prop :=
  ∀ done e rest, liveEntries input = done ++ e :: rest → ∀ reason,
    e.verdict = .pending reason
      ↔ candidacy? input e.script = some reason
        ∨ (reason = .duplicate ∧ Stranded input (claims done) e.script)

/-- With redundancy off, every candidate runs, and so does every stranded script. -/
theorem allRun (ho : input.options.redundancy = false) : AllRun input := by
  intro done e rest hsplit reason
  obtain ⟨hv, htaken⟩ := verdict_of_split hsplit
  have hfirst : e.verdict
      = firstVerdict input (carriedAfter input (done.map PlannedFile.script)).taken e.script := by
    rcases liveVerdict_cases input (carriedAfter input (done.map PlannedFile.script)) e.script
      with ⟨heq, -⟩ | ⟨-, hred, -⟩
    · exact hv.trans heq
    · cases ho.symm.trans hred
  -- What is taken before a script is what the entries before it claim.
  have hstranded : Stranded input (carriedAfter input (done.map PlannedFile.script)).taken e.script
      ↔ Stranded input (claims done) e.script := by
    constructor
    · exact fun h => ⟨h.unrecorded, h.known, fun r hr => (h.left r hr).imp_right (htaken _).mp⟩
    · exact fun h => ⟨h.unrecorded, h.known, fun r hr => (h.left r hr).imp_right (htaken _).mpr⟩
  rw [hfirst, firstVerdict_eq_pending_iff fun ha => taken_carriedAfter_eq_nil ha _, ho, hstranded]
  simp

/-! ## Both together -/

/-- With redundancy one candidate of each content is run, the first one in path order;
    without it all candidates are run, and the scripts for which no record is left. -/
theorem equal_scripts_demoted (hl : (input.live.map Script.path).Nodup) :
    (input.options.redundancy = true → OneRuns input)
      ∧ (input.options.redundancy = false → AllRun input) :=
  ⟨fun ho => oneRuns ho hl, allRun⟩

/-- A changed script and a copy of it, and a script that is up to date and a copy of it. -/
def copied (redundancy : Bool) : Input where
  live := [found "d" "x" .updates, found "c" "y" .updates, found "b" "x" .updates,
    found "a" "y" .updates]
  archived := []
  records := [recorded "a" "y", recorded "b" "z"]
  options := ⟨redundancy, true, false, 3⟩

theorem byPath_copied (redundancy : Bool) : byPath (copied redundancy).live
    = [found "a" "y" .updates, found "b" "x" .updates, found "c" "y" .updates,
        found "d" "x" .updates] := by
  show byPath [found "d" "x" .updates, found "c" "y" .updates, found "b" "x" .updates,
    found "a" "y" .updates] = _
  cbv

/-- With redundancy, the changed script is run and its copy is skipped; without it, the
    copy of the script that is up to date is run too, since no record is left for it. -/
theorem equal_scripts_demoted_copied :
    ((copied true).live.map Script.path).Nodup ∧ ((copied false).live.map Script.path).Nodup
      ∧ ⟨found "b" "x" .updates, .pending .contentChanged⟩ ∈ (build (copied true)).entries
      ∧ ⟨found "d" "x" .updates, .redundant "b"⟩ ∈ (build (copied true)).entries
      ∧ liveEntries (copied false)
        = [⟨found "a" "y" .updates, .applied⟩, ⟨found "b" "x" .updates, .pending .contentChanged⟩,
            ⟨found "c" "y" .updates, .pending .duplicate⟩, ⟨found "d" "x" .updates, .pending .new⟩]
      ∧ Stranded (copied false) [] (found "c" "y" .updates) := by
  have hl : ((copied true).live.map Script.path).Nodup := by decide
  have hl' : ((copied false).live.map Script.path).Nodup := by decide
  have hcandidates : candidates (copied true) "x" (byPath (copied true).live)
      = [found "b" "x" .updates, found "d" "x" .updates] := by
    rw [byPath_copied]
    rfl
  obtain ⟨⟨reason, hreason, hfirst⟩, hrest⟩ := ((equal_scripts_demoted hl).1 rfl).first hcandidates
  obtain rfl : .contentChanged = reason := Option.some.inj hreason
  have hentries : liveEntries (copied false)
      = [⟨found "a" "y" .updates, .applied⟩, ⟨found "b" "x" .updates, .pending .contentChanged⟩,
          ⟨found "c" "y" .updates, .pending .duplicate⟩,
          ⟨found "d" "x" .updates, .pending .new⟩] := by
    rw [liveEntries, byPath_copied]
    rfl
  have hduplicate := ((equal_scripts_demoted hl').2 rfl [_, _] _ [_] hentries .duplicate).mp rfl
  refine ⟨hl, hl', hfirst, hrest _ List.mem_cons_self, hentries, ?_⟩
  rcases hduplicate with hcandidate | ⟨-, hstranded⟩
  · cases hcandidate
  · exact hstranded

end SchemaMigration.Plan
