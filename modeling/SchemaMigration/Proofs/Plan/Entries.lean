import SchemaMigration.Proofs.Plan.Verdicts

/-! # Entries — what the files of a plan have to do with each other

    A plan looks at one file after another and carries along which records are
    taken.  Seen as a whole:

    * every file has one entry, decided from what the files before it left behind
      (`mem_planLive_iff`, `mem_planArchived_iff`);
    * what is taken is what entries claim (`mem_taken_planLive`,
      `mem_taken_planArchived`);
    * a record that is claimed was free (`claim?_liveVerdict`,
      `claim?_archivedVerdict`). -/

namespace SchemaMigration.Plan

open Ledger

variable {input : Input}

/-! ## Files in path order -/

theorem byPath_perm (scripts : List Script) : (byPath scripts).Perm scripts :=
  List.mergeSort_perm scripts _

theorem mem_byPath {scripts : List Script} {s : Script} : s ∈ byPath scripts ↔ s ∈ scripts :=
  (byPath_perm scripts).mem_iff

theorem byPath_nodup {scripts : List Script} (h : (scripts.map Script.path).Nodup) :
    ((byPath scripts).map Script.path).Nodup :=
  ((byPath_perm scripts).map Script.path).nodup_iff.mpr h

/-! ## Live scripts one after another -/

/-- The first script is decided from what is carried, the rest from what it leaves. -/
theorem planLive_cons (c : Carried) (s : Script) (rest : List Script) :
    planLive input c (s :: rest)
      = (⟨s, liveVerdict input c s⟩ :: (planLive input (c.after s (liveVerdict input c s)) rest).1,
          (planLive input (c.after s (liveVerdict input c s)) rest).2) := rfl

/-- Planning a list goes on where planning its front has ended. -/
theorem planLive_append (c : Carried) (l₁ l₂ : List Script) :
    planLive input c (l₁ ++ l₂)
      = ((planLive input c l₁).1 ++ (planLive input (planLive input c l₁).2 l₂).1,
          (planLive input (planLive input c l₁).2 l₂).2) := by
  induction l₁ generalizing c with
  | nil => rfl
  | cons s rest ih =>
      rw [List.cons_append, planLive_cons, planLive_cons, ih]
      rfl

/-- Every live script gets exactly one entry, in the order of the list. -/
theorem map_script_planLive (c : Carried) (l : List Script) :
    (planLive input c l).1.map PlannedFile.script = l := by
  induction l generalizing c with
  | nil => rfl
  | cons s rest ih =>
      rw [planLive_cons, List.map_cons, ih]

/-- An entry is decided from what the scripts before it leave behind. -/
theorem mem_planLive_iff {c : Carried} {l : List Script} {e : PlannedFile} :
    e ∈ (planLive input c l).1
      ↔ ∃ l₁ l₂, l = l₁ ++ e.script :: l₂
        ∧ e.verdict = liveVerdict input (planLive input c l₁).2 e.script := by
  constructor
  · intro he
    induction l generalizing c with
    | nil => exact nomatch he
    | cons s rest ih =>
        rw [planLive_cons] at he
        rcases List.mem_cons.mp he with heq | hmem
        · exact ⟨[], rest, by rw [heq]; rfl, by rw [heq]; rfl⟩
        · obtain ⟨l₁, l₂, hl, hv⟩ := ih hmem
          exact ⟨s :: l₁, l₂, by rw [hl]; rfl, hv⟩
  · rintro ⟨l₁, l₂, rfl, hv⟩
    rw [planLive_append, planLive_cons]
    refine List.mem_append_right _ (List.mem_cons.mpr (Or.inl ?_))
    rw [← hv]

/-- A live script is never decided as an archived one. -/
theorem liveVerdict_ne_archivedRedundant {c : Carried} {s : Script} {path : String} :
    liveVerdict input c s ≠ .archivedRedundant path := by
  intro h
  exact nomatch first_of_liveVerdict h fun _ => Verdict.noConfusion

/-! ## The records that entries take over -/

/-- The record that an entry takes over. -/
def claim? (e : PlannedFile) : Option String :=
  match e.verdict with
  | .renamed old => some old
  | .archivedRedundant record => some record
  | _ => none

theorem claim?_of_renamed {e : PlannedFile} {old : String} (h : e.verdict = .renamed old) :
    claim? e = some old := by rw [claim?, h]

theorem claim?_of_archivedRedundant {e : PlannedFile} {record : String}
    (h : e.verdict = .archivedRedundant record) : claim? e = some record := by rw [claim?, h]

/-- The records that entries take over, in order. -/
def claims (entries : List PlannedFile) : List String := entries.filterMap claim?

theorem mem_claims {entries : List PlannedFile} {path : String} :
    path ∈ claims entries ↔ ∃ e ∈ entries, claim? e = some path := List.mem_filterMap

/-- A live entry takes over a record by renaming it. -/
theorem taken_after (c : Carried) (s : Script) :
    (c.after s (liveVerdict input c s)).taken
      = (claim? ⟨s, liveVerdict input c s⟩).toList ++ c.taken := by
  cases hv : liveVerdict input c s with
  | renamed old => rfl
  | archivedRedundant record => exact absurd hv liveVerdict_ne_archivedRedundant
  | pending reason =>
      -- The first script of a content is remembered, but takes no record.
      simp only [Carried.after]
      cases c.firstPending.lookup s.hash <;> rfl
  | _ => rfl

/-- What is taken after live scripts is what was taken, and what they claim. -/
theorem mem_taken_planLive {c : Carried} {l : List Script} {path : String} :
    path ∈ (planLive input c l).2.taken
      ↔ path ∈ claims (planLive input c l).1 ∨ path ∈ c.taken := by
  induction l generalizing c with
  | nil => simp [planLive, claims]
  | cons s rest ih =>
      rw [planLive_cons, ih, taken_after, List.mem_append]
      rw [claims, claims, List.filterMap_cons]
      cases claim? ⟨s, liveVerdict input c s⟩ <;> simp [or_assoc, or_left_comm]

/-- A record that a live entry claims is free, and its hash is that of the script. -/
theorem claim?_liveVerdict {c : Carried} {s : Script} {path : String}
    (h : claim? ⟨s, liveVerdict input c s⟩ = some path) :
    liveVerdict input c s = .renamed path ∧ recordAt? input.records s.path = none
      ∧ input.options.allowRehash = true
      ∧ ∃ r, free? input c.taken s.hash = some r ∧ r.path = path := by
  rw [claim?] at h
  cases hv : liveVerdict input c s with
  | renamed old =>
      rw [hv] at h
      obtain rfl := Option.some.inj h
      cases first_of_liveVerdict hv fun _ => Verdict.noConfusion with
      | renamed hn hf ha => exact ⟨rfl, hn, ha, _, hf, rfl⟩
  | archivedRedundant record => exact absurd hv liveVerdict_ne_archivedRedundant
  | _ => rw [hv] at h; exact nomatch h

/-- A record that is handed out has no live path. -/
theorem not_live_of_free? {taken : List String} {hash : String} {r : Record}
    (h : free? input taken hash = some r) : isLive input.live r.path = false :=
  (of_free?_eq_some h).2.1

/-! ## Archived scripts one after another -/

/-- The first archived script is judged by what is taken, and adds what it takes itself. -/
theorem planArchived_cons (taken : List String) (s : Script) (rest : List Script) :
    planArchived input taken (s :: rest)
      = (⟨s, archivedVerdict input taken s⟩
            :: (planArchived input (takenAfter taken (archivedVerdict input taken s)) rest).1,
          (planArchived input (takenAfter taken (archivedVerdict input taken s)) rest).2) := rfl

/-- Planning a list of archived scripts goes on where planning its front has ended. -/
theorem planArchived_append (taken : List String) (l₁ l₂ : List Script) :
    planArchived input taken (l₁ ++ l₂)
      = ((planArchived input taken l₁).1
            ++ (planArchived input (planArchived input taken l₁).2 l₂).1,
          (planArchived input (planArchived input taken l₁).2 l₂).2) := by
  induction l₁ generalizing taken with
  | nil => rfl
  | cons s rest ih =>
      rw [List.cons_append, planArchived_cons, planArchived_cons, ih]
      rfl

/-- Every archived script gets exactly one entry, in the order of the list. -/
theorem map_script_planArchived (taken : List String) (l : List Script) :
    (planArchived input taken l).1.map PlannedFile.script = l := by
  induction l generalizing taken with
  | nil => rfl
  | cons s rest ih => rw [planArchived_cons, List.map_cons, ih]

/-- An archived entry is decided from what the files before it leave behind. -/
theorem mem_planArchived_iff {taken : List String} {l : List Script} {e : PlannedFile} :
    e ∈ (planArchived input taken l).1
      ↔ ∃ l₁ l₂, l = l₁ ++ e.script :: l₂
        ∧ e.verdict = archivedVerdict input (planArchived input taken l₁).2 e.script := by
  constructor
  · intro he
    induction l generalizing taken with
    | nil => exact nomatch he
    | cons s rest ih =>
        rw [planArchived_cons] at he
        rcases List.mem_cons.mp he with heq | hmem
        · exact ⟨[], rest, by rw [heq]; rfl, by rw [heq]; rfl⟩
        · obtain ⟨l₁, l₂, hl, hv⟩ := ih hmem
          exact ⟨s :: l₁, l₂, by rw [hl]; rfl, hv⟩
  · rintro ⟨l₁, l₂, rfl, hv⟩
    rw [planArchived_append, planArchived_cons]
    refine List.mem_append_right _ (List.mem_cons.mpr (Or.inl ?_))
    rw [← hv]

/-- What is taken in the end was taken before or is claimed by an entry. -/
theorem mem_taken_planArchived {taken : List String} {l : List Script} {path : String} :
    path ∈ (planArchived input taken l).2
      ↔ path ∈ claims (planArchived input taken l).1 ∨ path ∈ taken := by
  induction l generalizing taken with
  | nil => simp [planArchived, claims]
  | cons s rest ih =>
      rw [planArchived_cons, ih]
      rcases archivedVerdict_cases input taken s with hv | ⟨record, hv⟩
      · rw [hv]
        rfl
      · rw [hv]
        simp [claims, claim?, takenAfter, or_assoc, or_left_comm]

/-- A record that an archived entry claims is free. -/
theorem claim?_archivedVerdict {taken : List String} {s : Script} {path : String}
    (h : claim? ⟨s, archivedVerdict input taken s⟩ = some path) :
    archivedVerdict input taken s = .archivedRedundant path
      ∧ input.options.archivedRedundancy = true
      ∧ ∃ r, free? input taken s.hash = some r ∧ r.path = path := by
  rcases archivedVerdict_cases input taken s with hv | ⟨record, hv⟩
  · rw [hv] at h
    exact nomatch h
  · rw [hv] at h
    obtain rfl := Option.some.inj h
    exact ⟨hv, archivedVerdict_eq_archivedRedundant_iff.mp hv⟩

end SchemaMigration.Plan
