import SchemaMigration.Plan.Build
import SchemaMigration.Proofs.Ledger.View

/-! # Verdicts — when a file is decided in which way

    The decision for one file looks at the record of its own path, at the active
    records with its content, and at what earlier files left behind.  Here every
    decision is characterised by these alone, so that nothing later has to open
    the rules again. -/

namespace SchemaMigration.Plan

open Ledger

variable {input : Input} {taken : List String} {c : Carried} {s : Script}

/-! ## Looking records up -/

/-- Where no path repeats, the record of a path is the one that the ledger holds there. -/
theorem recordAt?_eq_viewOf {records : List Record} (hn : (records.map Record.path).Nodup)
    (path : String) : recordAt? records path = viewOf records path := by
  show viewOf records.reverse path = viewOf records path
  have hrev : (records.reverse.map Record.path).Nodup := by
    rw [List.map_reverse]
    exact List.nodup_reverse.mpr hn
  cases hv : viewOf records path with
  | none =>
      rw [viewOf_eq_none_iff] at hv ⊢
      intro r hr
      exact hv r (List.mem_reverse.mp hr)
  | some r =>
      have := viewOf_of_mem hrev (List.mem_reverse.mpr (mem_of_viewOf hv))
      rwa [path_of_viewOf hv] at this

theorem mem_activeWith {records : List Record} {hash : String} {r : Record} :
    r ∈ activeWith records hash
      ↔ r ∈ records ∧ r.state = .active ∧ r.hash ≠ "" ∧ r.hash = hash := by
  simp [activeWith]

theorem isLive_iff {live : List Script} {path : String} :
    isLive live path = true ↔ ∃ s ∈ live, s.path = path := by
  simp [isLive]

/-- A record that is free is active, brings the content, and is neither live nor taken. -/
theorem of_free?_eq_some {hash : String} {r : Record} (h : free? input taken hash = some r) :
    r ∈ activeWith input.records hash ∧ isLive input.live r.path = false ∧ r.path ∉ taken := by
  have hmem := List.mem_of_find?_eq_some h
  have hfree := List.find?_some h
  simp only [Bool.and_eq_true, Bool.not_eq_true', List.contains_eq_mem,
    decide_eq_false_iff_not] at hfree
  exact ⟨hmem, hfree.1, hfree.2⟩

/-- Nothing is free exactly if all active records with the content are live or taken. -/
theorem free?_eq_none_iff {hash : String} :
    free? input taken hash = none ↔ ∀ r ∈ activeWith input.records hash,
      isLive input.live r.path = true ∨ r.path ∈ taken := by
  rw [free?, List.find?_eq_none]
  refine forall₂_congr fun r _ => ?_
  cases hl : isLive input.live r.path <;> simp

/-! ## Verdicts before duplicates are looked at -/

/-- A script without a record is run if its content is new, if a record with it
    may not be moved, or if duplicates are run. -/
theorem unrecorded_isPending_iff :
    (unrecorded input taken s).isPending = true
      ↔ activeWith input.records s.hash = []
        ∨ ((free? input taken s.hash).isSome ∧ input.options.allowRehash = false)
        ∨ (activeWith input.records s.hash ≠ [] ∧ free? input taken s.hash = none
            ∧ input.options.redundancy = false) := by
  rw [unrecorded]
  cases ha : activeWith input.records s.hash with
  | nil => simp [Verdict.isPending]
  | cons kept rest =>
      cases hf : free? input taken s.hash with
      | none => cases hr : input.options.redundancy <;> simp [Verdict.isPending]
      | some r => cases hr : input.options.allowRehash <;> simp [Verdict.isPending]

/-- A recorded script is applied if the record has its content. -/
theorem firstVerdict_of_same {r : Record} (h : recordAt? input.records s.path = some r)
    (hh : r.hash = s.hash) : firstVerdict input taken s = .applied := by
  rw [firstVerdict, h]
  exact if_pos hh

/-- A recorded script is rehashed if the record has no hash and this is allowed. -/
theorem firstVerdict_of_blank {r : Record} (h : recordAt? input.records s.path = some r)
    (hh : r.hash ≠ s.hash) (hb : r.hash = "" ∧ input.options.allowRehash) :
    firstVerdict input taken s = .rehash := by
  rw [firstVerdict, h]
  show (if r.hash = s.hash then _ else _) = _
  rw [if_neg hh]
  exact if_pos hb

/-- A recorded script is run again if the record has another content. -/
theorem firstVerdict_of_changed {r : Record} (h : recordAt? input.records s.path = some r)
    (hh : r.hash ≠ s.hash) (hb : ¬(r.hash = "" ∧ input.options.allowRehash)) :
    firstVerdict input taken s = .pending .contentChanged := by
  rw [firstVerdict, h]
  show (if r.hash = s.hash then _ else _) = _
  rw [if_neg hh]
  exact if_neg hb

theorem firstVerdict_of_none (h : recordAt? input.records s.path = none) :
    firstVerdict input taken s = unrecorded input taken s := by
  rw [firstVerdict, h]

/-- The ways in which a live script can be decided before duplicates are looked at. -/
inductive First (input : Input) (taken : List String) (s : Script) : Verdict → Prop where
  | applied {r : Record} (h : recordAt? input.records s.path = some r) (hh : r.hash = s.hash) :
      First input taken s .applied
  | rehash {r : Record} (h : recordAt? input.records s.path = some r) (hh : r.hash ≠ s.hash)
      (hb : r.hash = "") (ha : input.options.allowRehash = true) : First input taken s .rehash
  | changed {r : Record} (h : recordAt? input.records s.path = some r) (hh : r.hash ≠ s.hash)
      (hb : ¬(r.hash = "" ∧ input.options.allowRehash)) :
      First input taken s (.pending .contentChanged)
  | new (h : recordAt? input.records s.path = none)
      (ha : activeWith input.records s.hash = []) : First input taken s (.pending .new)
  | renamed {r : Record} (h : recordAt? input.records s.path = none)
      (hf : free? input taken s.hash = some r) (ha : input.options.allowRehash = true) :
      First input taken s (.renamed r.path)
  | notMoved {r : Record} (h : recordAt? input.records s.path = none)
      (hf : free? input taken s.hash = some r) (ha : input.options.allowRehash = false) :
      First input taken s (.pending .renameNotAllowed)
  | redundant {r : Record} (h : recordAt? input.records s.path = none)
      (hr : r ∈ activeWith input.records s.hash) (hf : free? input taken s.hash = none)
      (ho : input.options.redundancy = true) : First input taken s (.redundant r.path)
  | duplicate {r : Record} (h : recordAt? input.records s.path = none)
      (hr : r ∈ activeWith input.records s.hash) (hf : free? input taken s.hash = none)
      (ho : input.options.redundancy = false) : First input taken s (.pending .duplicate)

/-- The first verdict on a script follows the rules, whatever is taken. -/
theorem first_firstVerdict (input : Input) (taken : List String) (s : Script) :
    First input taken s (firstVerdict input taken s) := by
  -- The cases follow the rules: the own record first, then the records with the content.
  cases h : recordAt? input.records s.path with
  | some r =>
      by_cases hh : r.hash = s.hash
      · rw [firstVerdict_of_same h hh]
        exact .applied h hh
      · by_cases hb : r.hash = "" ∧ input.options.allowRehash
        · rw [firstVerdict_of_blank h hh hb]
          exact .rehash h hh hb.1 hb.2
        · rw [firstVerdict_of_changed h hh hb]
          exact .changed h hh hb
  | none =>
      rw [firstVerdict_of_none h, unrecorded]
      cases ha : activeWith input.records s.hash with
      | nil => exact .new h ha
      | cons kept rest =>
          have hkept : kept ∈ activeWith input.records s.hash := ha ▸ List.mem_cons_self
          cases hf : free? input taken s.hash with
          | some r =>
              cases hr : input.options.allowRehash with
              | true => exact .renamed h hf hr
              | false => exact .notMoved h hf hr
          | none =>
              cases ho : input.options.redundancy with
              | true => exact .redundant h hkept hf ho
              | false => exact .duplicate h hkept hf ho

/-! ## Verdicts of live scripts -/

/-- A live script keeps its first verdict, unless it would be run and, with
    redundancy, an earlier script with the same content is run. -/
theorem liveVerdict_cases (input : Input) (c : Carried) (s : Script) :
    (liveVerdict input c s = firstVerdict input c.taken s
        ∧ ((firstVerdict input c.taken s).isPending = true → input.options.redundancy = true →
            c.firstPending.lookup s.hash = none))
      ∨ ((firstVerdict input c.taken s).isPending = true ∧ input.options.redundancy = true
          ∧ ∃ first, c.firstPending.lookup s.hash = some first
            ∧ liveVerdict input c s = .redundant first) := by
  rw [liveVerdict]
  cases hv : firstVerdict input c.taken s with
  | pending reason =>
      cases hr : input.options.redundancy with
      | false => exact .inl ⟨rfl, fun _ h => nomatch h⟩
      | true =>
          cases hl : c.firstPending.lookup s.hash with
          | none => exact .inl ⟨rfl, fun _ _ => rfl⟩
          | some first => exact .inr ⟨rfl, rfl, first, rfl, rfl⟩
  | _ => exact .inl ⟨rfl, fun h => nomatch h⟩

/-- A verdict that is not redundant is the first one. -/
theorem first_of_liveVerdict {v : Verdict} (h : liveVerdict input c s = v)
    (hv : ∀ kept, v ≠ .redundant kept) : First input c.taken s v := by
  rcases liveVerdict_cases input c s with ⟨heq, -⟩ | ⟨-, -, first, -, heq⟩
  · rw [← h, heq]
    exact first_firstVerdict input c.taken s
  · exact absurd (h.symm.trans heq) (hv first)

/-- A script whose first verdict does not run it keeps that verdict. -/
theorem liveVerdict_of_not_pending (h : (firstVerdict input c.taken s).isPending = false) :
    liveVerdict input c s = firstVerdict input c.taken s := by
  rcases liveVerdict_cases input c s with ⟨heq, -⟩ | ⟨hp, -⟩
  · exact heq
  · rw [h] at hp
    exact nomatch hp

/-- A script with a record of its own content is applied. -/
theorem liveVerdict_of_same {r : Record} (h : recordAt? input.records s.path = some r)
    (hh : r.hash = s.hash) : liveVerdict input c s = .applied := by
  have hv : firstVerdict input c.taken s = .applied := firstVerdict_of_same h hh
  rw [liveVerdict_of_not_pending (by rw [hv]; rfl), hv]

/-! ## Verdicts of archived scripts -/

/-- An archived script archives a free record with its content, where this is wanted. -/
theorem archivedVerdict_eq_archivedRedundant_iff {path : String} :
    archivedVerdict input taken s = .archivedRedundant path
      ↔ input.options.archivedRedundancy = true
        ∧ ∃ r, free? input taken s.hash = some r ∧ r.path = path := by
  rw [archivedVerdict]
  cases ho : input.options.archivedRedundancy with
  | false => simp
  | true => cases hf : free? input taken s.hash <;> simp

/-- An archived script is never decided in another way. -/
theorem archivedVerdict_cases (input : Input) (taken : List String) (s : Script) :
    archivedVerdict input taken s = .archived
      ∨ ∃ path, archivedVerdict input taken s = .archivedRedundant path := by
  rw [archivedVerdict]
  cases input.options.archivedRedundancy with
  | false => exact .inl rfl
  | true =>
      cases free? input taken s.hash with
      | none => exact .inl rfl
      | some r => exact .inr ⟨r.path, rfl⟩

end SchemaMigration.Plan
