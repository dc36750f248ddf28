import Mathlib.Data.List.Induction
import Mathlib.Data.List.Nodup
import SchemaMigration.Proofs.Plan.Claims

/-! # Matching — which records go to which scripts

    Where records may be moved, live scripts without a record take the loose
    records of their content, first come first served.  Nothing but the order of
    both lists matters:

    * `free?_carriedAfter`: after some scripts, the next loose record has the number
      of those among them that have no record;
    * `isPending_iff`: without redundancy, a script is run if it is `Due`: its record
      has another content, or too many scripts stand before it (`waiting`). -/

namespace SchemaMigration.Plan

open Ledger

variable {input : Input}

/-! ## Loose records and homeless scripts -/

/-- The active records with some content whose paths are not live, in ledger order. -/
def loose (input : Input) (hash : String) : List Record :=
  (activeWith input.records hash).filter fun r => !isLive input.live r.path

/-- Those of some scripts that have a content and no record of their own. -/
def homeless (input : Input) (hash : String) (scripts : List Script) : List Script :=
  scripts.filter fun s => decide (s.hash = hash) && (recordAt? input.records s.path).isNone

theorem mem_loose {hash : String} {r : Record} :
    r ∈ loose input hash ↔ r ∈ activeWith input.records hash ∧ isLive input.live r.path = false := by
  simp [loose]

theorem mem_homeless {hash : String} {scripts : List Script} {s : Script} :
    s ∈ homeless input hash scripts
      ↔ s ∈ scripts ∧ s.hash = hash ∧ recordAt? input.records s.path = none := by
  simp [homeless]

/-- The loose records with some content that are not taken. -/
def untaken (input : Input) (taken : List String) (hash : String) : List Record :=
  (loose input hash).filter fun r => !taken.contains r.path

/-- The free record is the first loose one that is not taken. -/
theorem free?_eq_head? (taken : List String) (hash : String) :
    free? input taken hash = (untaken input taken hash).head? := by
  rw [untaken, List.head?_filter, loose, List.find?_filter]
  refine congrArg (fun p => List.find? p _) (funext fun r => ?_)
  cases isLive input.live r.path <;> simp

/-- A record is loose for its own content only. -/
theorem path_ne_of_loose (hn : (input.records.map Record.path).Nodup) {h₁ h₂ : String}
    (hne : h₁ ≠ h₂) {r₁ r₂ : Record} (hr₁ : r₁ ∈ loose input h₁) (hr₂ : r₂ ∈ loose input h₂) :
    r₁.path ≠ r₂.path := by
  intro hp
  obtain ⟨hmem₁, -, -, hhash₁⟩ := mem_activeWith.mp (mem_loose.mp hr₁).1
  obtain ⟨hmem₂, -, -, hhash₂⟩ := mem_activeWith.mp (mem_loose.mp hr₂).1
  have := List.inj_on_of_nodup_map hn hmem₁ hmem₂ hp
  exact hne (by rw [← hhash₁, ← hhash₂, this])

/-- A script without a record takes the record that is free for it, if it may be moved. -/
theorem liveVerdict_of_free {c : Carried} {s : Script} {r : Record}
    (hn : recordAt? input.records s.path = none) (ha : input.options.allowRehash = true)
    (hf : free? input c.taken s.hash = some r) : liveVerdict input c s = .renamed r.path := by
  have hfirst : firstVerdict input c.taken s = .renamed r.path := by
    have hactive := (of_free?_eq_some hf).1
    rw [firstVerdict_of_none hn, unrecorded]
    cases hw : activeWith input.records s.hash with
    | nil => rw [hw] at hactive; cases hactive
    | cons kept rest =>
        rw [hf]
        exact if_pos ha
  rw [liveVerdict_of_not_pending (by rw [hfirst]; rfl), hfirst]

/-- What is carried grows by one script at the end of the list. -/
theorem carriedAfter_concat (input : Input) (l : List Script) (s : Script) :
    carriedAfter input (l ++ [s])
      = (carriedAfter input l).after s (liveVerdict input (carriedAfter input l) s) := by
  rw [carriedAfter, planLive_append]
  rfl

/-- Where no name repeats, dropping the name of the first element drops that element. -/
theorem filter_name_ne_head {α β : Type} [DecidableEq β] {name : α → β} {l : List α}
    (hn : (l.map name).Nodup) {a : α} (h : l.head? = some a) :
    (l.filter fun b => decide (name b ≠ name a)) = l.tail := by
  cases l with
  | nil => exact nomatch h
  | cons first rest =>
      obtain rfl := Option.some.inj h
      rw [List.filter_cons_of_neg (by simp), List.tail_cons, List.filter_eq_self]
      intro b hb
      have hne : name b ≠ name first := fun heq =>
        (List.nodup_cons.mp hn).1 (heq ▸ List.mem_map_of_mem hb)
      exact decide_eq_true hne

section

variable {s : Script} {hash : String} {l : List Script}

theorem homeless_concat (hnone : recordAt? input.records s.path = none) :
    (homeless input s.hash (l ++ [s])).length = (homeless input s.hash l).length + 1 := by
  simp [homeless, hnone]

theorem homeless_concat_of_not (h : ¬(s.hash = hash ∧ recordAt? input.records s.path = none)) :
    homeless input hash (l ++ [s]) = homeless input hash l := by
  simpa [homeless] using h

end

/-- A file that takes the free record of its content takes the first of those that are
    left; where none is left, nothing changes. -/
theorem untaken_free (hn : (input.records.map Record.path).Nodup) {taken : List String}
    {count : String → Nat}
    (hleft : ∀ hash, untaken input taken hash = (loose input hash).drop (count hash))
    (asked hash : String) :
    untaken input (((free? input taken asked).map Record.path).toList ++ taken) hash
      = (loose input hash).drop (count hash + if asked = hash then 1 else 0) := by
  have hfree : free? input taken asked = ((loose input asked).drop (count asked)).head? := by
    rw [free?_eq_head?, hleft asked]
  cases hf : free? input taken asked with
  | none =>
      rw [Option.map_none, Option.toList_none, List.nil_append, hleft hash]
      by_cases hh : asked = hash
      · rw [hf, hh] at hfree
        rw [if_pos hh, ← List.tail_drop, List.head?_eq_none_iff.mp hfree.symm]
        rfl
      · rw [if_neg hh, Nat.add_zero]
  | some r =>
      rw [hf] at hfree
      -- Taking a record out of what is left is a filter on what was left.
      have hmore : untaken input (r.path :: taken) hash
          = (untaken input taken hash).filter fun q => decide (q.path ≠ r.path) := by
        rw [untaken, untaken, List.filter_filter]
        exact List.filter_congr fun q _ => by simp [Bool.not_or]
      show untaken input (r.path :: taken) hash = _
      rw [hmore, hleft hash]
      by_cases hh : asked = hash
      · -- The first record that is left is the one that goes.
        subst hh
        rw [if_pos rfl, ← List.tail_drop]
        refine filter_name_ne_head (hn.sublist (List.Sublist.map _ ?_)) hfree.symm
        exact (List.drop_sublist _ _).trans (List.filter_sublist.trans List.filter_sublist)
      · -- A record with another content goes.
        rw [if_neg hh, Nat.add_zero, List.filter_eq_self]
        intro q hq
        have hr : r ∈ loose input asked := List.mem_of_mem_drop (List.mem_of_head? hfree.symm)
        exact decide_eq_true
          (path_ne_of_loose hn (Ne.symm hh) (List.mem_of_mem_drop hq) hr)

/-- Where records may be moved, a script without a record takes the free one. -/
theorem taken_after_of_none {c : Carried} {s : Script}
    (hnone : recordAt? input.records s.path = none) (ha : input.options.allowRehash = true) :
    (c.after s (liveVerdict input c s)).taken
      = ((free? input c.taken s.hash).map Record.path).toList ++ c.taken := by
  rw [taken_after]
  refine congrArg (fun o : Option String => o.toList ++ c.taken) ?_
  cases hf : free? input c.taken s.hash with
  | some r => exact claim?_of_renamed (liveVerdict_of_free hnone ha hf)
  | none =>
      rw [Option.map_none, Option.eq_none_iff_forall_ne_some]
      intro path hclaim
      obtain ⟨-, -, -, r, hr, -⟩ := claim?_liveVerdict hclaim
      exact nomatch hf.symm.trans hr

/-- A script with a record of its own takes no other. -/
theorem taken_after_of_some {c : Carried} {s : Script} {r : Record}
    (hr : recordAt? input.records s.path = some r) :
    (c.after s (liveVerdict input c s)).taken = c.taken := by
  rw [taken_after]
  cases hclaim : claim? ⟨s, liveVerdict input c s⟩ with
  | none => rfl
  | some path =>
      obtain ⟨-, hnone, -⟩ := claim?_liveVerdict hclaim
      exact nomatch hr.symm.trans hnone

/-- The loose records of a content that are not taken after some scripts. -/
theorem loose_untaken (hn : (input.records.map Record.path).Nodup)
    (ha : input.options.allowRehash = true) (l : List Script) (hash : String) :
    untaken input (carriedAfter input l).taken hash
      = (loose input hash).drop (homeless input hash l).length := by
  -- Induction from the back: the last script takes the first record that is left, or none is.
  induction l using List.reverseRecOn generalizing hash with
  | nil => simp [carriedAfter, planLive, homeless, untaken]
  | append_singleton l s ih =>
      rw [carriedAfter_concat]
      cases hown : recordAt? input.records s.path with
      | some r =>
          rw [taken_after_of_some hown, ih hash, homeless_concat_of_not]
          exact fun h => Option.some_ne_none r (hown.symm.trans h.2)
      | none =>
          rw [taken_after_of_none hown ha, untaken_free hn ih]
          by_cases hh : s.hash = hash
          · subst hh
            rw [if_pos rfl, homeless_concat hown]
          · rw [if_neg hh, Nat.add_zero, homeless_concat_of_not fun h => hh h.1]

/-- The record that is free after some scripts has the number of those that have none. -/
theorem free?_carriedAfter (hn : (input.records.map Record.path).Nodup)
    (ha : input.options.allowRehash = true) (l : List Script) (hash : String) :
    free? input (carriedAfter input l).taken hash
      = (loose input hash)[(homeless input hash l).length]? := by
  rw [free?_eq_head?, loose_untaken hn ha, List.head?_drop]

/-! ## Scripts that are run -/

/-- The loose records that may be moved. -/
def movable (input : Input) (hash : String) : List Record :=
  if input.options.allowRehash then loose input hash else []

/-- The live scripts with some content that have no record, and are left without one. -/
def waiting (input : Input) (hash : String) : List Script :=
  (homeless input hash (byPath input.live)).drop (movable input hash).length

/-- The record of the script has another content, and is not to be filled in. -/
def Changed (input : Input) (s : Script) : Prop :=
  ∃ r, recordAt? input.records s.path = some r ∧ r.hash ≠ s.hash
    ∧ ¬(r.hash = "" ∧ input.options.allowRehash)

/-- The script has changed, or no record is left for it. -/
def Due (input : Input) (s : Script) : Prop := Changed input s ∨ s ∈ waiting input s.hash

/-- What stands behind a number of elements. -/
theorem mem_drop_iff {α : Type} {l₁ l₂ : List α} {a : α} (hn : (l₁ ++ a :: l₂).Nodup) (n : Nat) :
    a ∈ (l₁ ++ a :: l₂).drop n ↔ n ≤ l₁.length := by
  constructor
  · intro hmem
    by_contra hlt
    have hlen : l₁.length + 1 ≤ n := by omega
    rw [List.drop_append, List.drop_of_length_le (by omega), List.nil_append] at hmem
    obtain ⟨k, hk⟩ : ∃ k, n - l₁.length = k + 1 := ⟨n - l₁.length - 1, by omega⟩
    rw [hk, List.drop_succ_cons] at hmem
    obtain ⟨-, hcons, -⟩ := List.nodup_append.mp hn
    exact (List.nodup_cons.mp hcons).1 (List.mem_of_mem_drop hmem)
  · intro hle
    rw [List.drop_append_of_le_length hle]
    exact List.mem_append_right _ List.mem_cons_self

theorem byPath_nodup_self (hn : (input.live.map Script.path).Nodup) : (byPath input.live).Nodup :=
  List.Nodup.of_map _ (byPath_nodup hn)

/-- No live script stands before itself. -/
theorem ne_of_mem_before (hn : (input.live.map Script.path).Nodup) {l₁ l₂ : List Script}
    {s x : Script} (hl : byPath input.live = l₁ ++ s :: l₂) (hx : x ∈ l₁) : x ≠ s := by
  have hnodup := byPath_nodup_self hn
  rw [hl] at hnodup
  exact (List.nodup_append.mp hnodup).2.2 x hx s List.mem_cons_self

/-- A script without a record waits if too many of them stand before it. -/
theorem mem_waiting_iff (hn : (input.live.map Script.path).Nodup) {l₁ l₂ : List Script}
    {s : Script} (hl : byPath input.live = l₁ ++ s :: l₂)
    (hnone : recordAt? input.records s.path = none) :
    s ∈ waiting input s.hash
      ↔ (movable input s.hash).length ≤ (homeless input s.hash l₁).length := by
  have hsplit : homeless input s.hash (byPath input.live)
      = homeless input s.hash l₁ ++ s :: homeless input s.hash l₂ := by
    rw [hl]
    simp [homeless, hnone]
  have hnodup := (byPath_nodup_self hn).filter
    fun x => decide (x.hash = s.hash) && (recordAt? input.records x.path).isNone
  rw [waiting, hsplit]
  refine mem_drop_iff ?_ _
  rw [← hsplit]
  exact hnodup

/-- A live script without a record asks to be run, duplicates left aside, if it waits. -/
theorem unrecorded_isPending_iff_waiting (hr : (input.records.map Record.path).Nodup)
    (hn : (input.live.map Script.path).Nodup) (ho : input.options.redundancy = false)
    {l₁ l₂ : List Script} {s : Script} (hl : byPath input.live = l₁ ++ s :: l₂)
    (hnone : recordAt? input.records s.path = none) :
    (unrecorded input (carriedAfter input l₁).taken s).isPending = true
      ↔ s ∈ waiting input s.hash := by
  rw [unrecorded_isPending_iff, mem_waiting_iff hn hl hnone, movable, ho]
  cases ha : input.options.allowRehash with
  | false =>
      cases free? input (carriedAfter input l₁).taken s.hash with
      | none => simp [em]
      | some r => simp
  | true =>
      -- Where no record has the content, none is free.
      have hempty : activeWith input.records s.hash = []
          → free? input (carriedAfter input l₁).taken s.hash = none := fun h => by
        rw [free?, h]
        rfl
      rw [if_pos rfl, ← List.getElem?_eq_none_iff, ← free?_carriedAfter hr ha]
      constructor
      · rintro (h | ⟨-, h⟩ | ⟨-, h, -⟩)
        · exact hempty h
        · cases h
        · exact h
      · intro h
        by_cases hactive : activeWith input.records s.hash = []
        · exact Or.inl hactive
        · exact Or.inr (Or.inr ⟨hactive, h, rfl⟩)

/-- A recorded script asks to be run if it has changed. -/
theorem firstVerdict_isPending_iff_changed {taken : List String} {s : Script} {r : Record}
    (hr : recordAt? input.records s.path = some r) :
    (firstVerdict input taken s).isPending = true ↔ Changed input s := by
  have hiff : Changed input s ↔ r.hash ≠ s.hash ∧ ¬(r.hash = "" ∧ input.options.allowRehash) := by
    rw [Changed, hr]
    simp
  rw [hiff]
  by_cases hh : r.hash = s.hash
  · rw [firstVerdict_of_same hr hh]
    exact iff_of_false Bool.noConfusion fun h => h.1 hh
  · by_cases hb : r.hash = "" ∧ input.options.allowRehash
    · rw [firstVerdict_of_blank hr hh hb]
      exact iff_of_false Bool.noConfusion fun h => h.2 hb
    · rw [firstVerdict_of_changed hr hh hb]
      exact iff_of_true rfl ⟨hh, hb⟩

/-- Without redundancy, a live script is run exactly if it is due. -/
theorem isPending_iff (hr : (input.records.map Record.path).Nodup)
    (hn : (input.live.map Script.path).Nodup) (ho : input.options.redundancy = false)
    {e : PlannedFile} (he : e ∈ liveEntries input) :
    e.verdict.isPending = true ↔ Due input e.script := by
  obtain ⟨l₁, l₂, hl, hv⟩ := mem_liveEntries_iff.mp he
  -- Without redundancy no script gives way to another.
  have hverdict : e.verdict = firstVerdict input (carriedAfter input l₁).taken e.script := by
    rw [hv]
    rcases liveVerdict_cases input (carriedAfter input l₁) e.script with ⟨heq, -⟩ | ⟨-, hred, -⟩
    · exact heq
    · exact nomatch ho.symm.trans hred
  rw [hverdict, Due]
  cases hrec : recordAt? input.records e.script.path with
  | some r =>
      have hnot : e.script ∉ waiting input e.script.hash := fun hmem => by
        have := (mem_homeless.mp (List.mem_of_mem_drop hmem)).2.2
        exact nomatch hrec.symm.trans this
      rw [firstVerdict_isPending_iff_changed hrec, or_iff_left hnot]
  | none =>
      have hnot : ¬Changed input e.script := by
        rintro ⟨r, hr', -⟩
        exact nomatch hrec.symm.trans hr'
      rw [firstVerdict_of_none hrec, unrecorded_isPending_iff_waiting hr hn ho hl hrec,
        or_iff_right hnot]

/-- Only live scripts are run. -/
theorem pending_build (input : Input) :
    (build input).pending = (liveEntries input).filter fun e => e.verdict.isPending := by
  rw [Plan.pending, entries_build, List.filter_append]
  refine (congrArg _ (List.filter_eq_nil_iff.mpr fun e he => ?_)).trans (List.append_nil _)
  rcases archivedEntry_cases he with hv | ⟨path, hv⟩
  · rw [hv]; exact Bool.false_ne_true
  · rw [hv]; exact Bool.false_ne_true

/-- No script is run twice. -/
theorem pending_nodup (hn : (input.live.map Script.path).Nodup) :
    ((build input).pending.map PlannedFile.script).Nodup := by
  rw [pending_build]
  refine List.Nodup.sublist (List.filter_sublist.map _) ?_
  rw [map_script_liveEntries]
  exact byPath_nodup_self hn

open Classical in
/-- Without redundancy, the scripts that are run are the live ones that are due, in path
    order. -/
theorem pending_scripts (hr : (input.records.map Record.path).Nodup)
    (hn : (input.live.map Script.path).Nodup) (ho : input.options.redundancy = false) :
    (build input).pending.map PlannedFile.script
      = (byPath input.live).filter fun s => Due input s := by
  rw [pending_build, ← map_script_liveEntries, List.filter_map]
  refine congrArg _ (List.filter_congr fun e he => ?_)
  rw [Bool.eq_iff_iff, isPending_iff hr hn ho he]
  simp

end SchemaMigration.Plan
