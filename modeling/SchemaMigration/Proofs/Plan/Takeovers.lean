import Mathlib.Data.List.Permutation
import SchemaMigration.Proofs.Plan.Matching

/-! # Takeovers — which files take which records

    A record whose file is not live can be taken over by one file with its content:
    by a live script that has no record, or else by an archived file.  Both loops of
    a plan take from the same list, the loose records of a content in ledger order,
    and what was taken is always a first part of it (`loose_untaken` for the live
    scripts, `untaken_planArchived` for the archived files).  So the plan can be told
    without its loops:

    * `filter_movesFrom_planLive`: live scripts and records are paired one by one;
    * `filter_hash_planArchived`: archived files go on where the live scripts stopped;
    * `takeovers_in_order`: both together, and that no record is taken twice. -/

namespace SchemaMigration.Plan

open Ledger

variable {input : Input}

/-! ## Pairs and remainders -/

/-- An entry that moves a record to a live script. -/
def moved (s : Script) (r : Record) : PlannedFile := ⟨s, .renamed r.path⟩

/-- The scripts without a record, each with the loose record of its number. -/
def moves (input : Input) (hash : String) : List PlannedFile :=
  List.zipWith moved (homeless input hash (byPath input.live)) (movable input hash)

/-- The loose records that may be archived. -/
def shelvable (input : Input) (hash : String) : List Record :=
  if input.options.archivedRedundancy then loose input hash else []

/-- What becomes of an archived file for which the loose record of some number is next. -/
def shelfAt (input : Input) (hash : String) (n : Nat) : Verdict :=
  ((shelvable input hash)[n]?).elim .archived fun r => .archivedRedundant r.path

/-- The archived files with some content, each with the loose record of its number,
    counted on from those that were moved. -/
def shelves (input : Input) (hash : String) : List PlannedFile :=
  ((byPath input.archived).filter fun s => s.hash = hash).mapIdx fun j s =>
    ⟨s, shelfAt input hash ((moves input hash).length + j)⟩

/-- Whether an entry moves a record with some content. -/
def movesFrom (input : Input) (hash : String) (e : PlannedFile) : Bool :=
  match e.verdict with
  | .renamed old => (recordAt? input.records old).any fun r => r.hash = hash
  | _ => false

/-- One more element on the left is paired with the next one on the right, if there is one. -/
theorem zipWith_concat {α β γ : Type} (f : α → β → γ) (l₁ : List α) (a : α) (l₂ : List β) :
    List.zipWith f (l₁ ++ [a]) l₂
      = List.zipWith f l₁ l₂ ++ (l₂[l₁.length]?.map (f a)).toList := by
  induction l₁ generalizing l₂ with
  | nil => cases l₂ <;> rfl
  | cons b rest ih =>
      cases l₂ with
      | nil => rfl
      | cons c l₂ => simp [ih]

/-! ## Live scripts -/

/-- Where no record may be moved, none is taken by live scripts. -/
theorem taken_carriedAfter_eq_nil (ha : input.options.allowRehash = false) (l : List Script) :
    (carriedAfter input l).taken = [] := by
  rw [List.eq_nil_iff_forall_not_mem]
  intro path hpath
  rcases mem_taken_planLive.mp hpath with hclaim | hempty
  · obtain ⟨e, he, hc⟩ := mem_claims.mp hclaim
    obtain ⟨l₁, l₂, -, hv⟩ := mem_planLive_iff.mp he
    rw [show e = ⟨e.script, e.verdict⟩ from rfl, hv] at hc
    obtain ⟨-, -, hallowed, -⟩ := claim?_liveVerdict hc
    cases ha.symm.trans hallowed
  · cases hempty

/-- A script takes a record over exactly if it has none, and a movable one has its number. -/
theorem renamed_iff (hn : (input.records.map Record.path).Nodup) {l : List Script} {s : Script}
    {path : String} :
    liveVerdict input (carriedAfter input l) s = .renamed path
      ↔ recordAt? input.records s.path = none
        ∧ ∃ r, (movable input s.hash)[(homeless input s.hash l).length]? = some r
          ∧ r.path = path := by
  rw [movable]
  constructor
  · intro hv
    obtain ⟨-, hnone, ha, r, hf, hr⟩ := claim?_liveVerdict (claim?_of_renamed hv)
    rw [free?_carriedAfter hn ha] at hf
    rw [if_pos ha]
    exact ⟨hnone, r, hf, hr⟩
  -- The number of homeless scripts in front is the number of records that are gone.
  · rintro ⟨hnone, r, hr, rfl⟩
    cases ha : input.options.allowRehash with
    | false =>
        rw [ha, if_neg Bool.false_ne_true, List.getElem?_nil] at hr
        cases hr
    | true =>
        rw [if_pos ha] at hr
        exact liveVerdict_of_free hnone ha ((free?_carriedAfter hn ha l s.hash).trans hr)

theorem loose_of_mem_movable {hash : String} {r : Record} (h : r ∈ movable input hash) :
    r ∈ loose input hash := by
  rw [movable] at h
  split at h
  · exact h
  · cases h

/-- A loose record is found under its path, with its content. -/
theorem movesFrom_moved (hn : (input.records.map Record.path).Nodup) {s : Script} {r : Record}
    {h hash : String} (hr : r ∈ loose input h) :
    movesFrom input hash (moved s r) = decide (h = hash) := by
  obtain ⟨hmem, -, -, rfl⟩ := mem_activeWith.mp (mem_loose.mp hr).1
  have hat : recordAt? input.records r.path = some r := by
    rw [recordAt?_eq_viewOf hn, viewOf_of_mem hn hmem]
  show (recordAt? input.records r.path).any (fun q => decide (q.hash = hash)) = _
  rw [hat]
  rfl

/-- A live script moves records of its own content only. -/
theorem movesFrom_liveVerdict_iff (hn : (input.records.map Record.path).Nodup) {l : List Script}
    {s : Script} {hash : String} :
    movesFrom input hash ⟨s, liveVerdict input (carriedAfter input l) s⟩ = true
      ↔ s.hash = hash
        ∧ ∃ path, liveVerdict input (carriedAfter input l) s = .renamed path := by
  constructor
  · intro hmoves
    cases hv : liveVerdict input (carriedAfter input l) s with
    | renamed path =>
        obtain ⟨-, r, hr, rfl⟩ := (renamed_iff hn).mp hv
        -- Whatever is moved has the script's content, so it is loose for no other.
        have hloose := loose_of_mem_movable (List.mem_of_getElem? hr)
        rw [hv] at hmoves
        rw [show (⟨s, .renamed r.path⟩ : PlannedFile) = moved s r from rfl,
          movesFrom_moved hn hloose, decide_eq_true_eq] at hmoves
        exact ⟨hmoves, r.path, rfl⟩
    | _ =>
        rw [hv] at hmoves
        cases hmoves
  · rintro ⟨rfl, path, hv⟩
    obtain ⟨-, r, hr, rfl⟩ := (renamed_iff hn).mp hv
    rw [hv]
    exact (movesFrom_moved hn (loose_of_mem_movable (List.mem_of_getElem? hr))).trans
      (decide_eq_true rfl)

/-- The entries that move a record with some content pair scripts and records. -/
theorem filter_movesFrom_planLive (hn : (input.records.map Record.path).Nodup) (l : List Script)
    (hash : String) :
    (planLive input ⟨[], []⟩ l).1.filter (movesFrom input hash)
      = List.zipWith moved (homeless input hash l) (movable input hash) := by
  -- Induction from the back: the last script takes the record with the number of those before it.
  induction l using List.reverseRecOn with
  | nil => rfl
  | append_singleton l s ih =>
      rw [planLive_append, List.filter_append, ih]
      show _ ++ List.filter (movesFrom input hash)
        [⟨s, liveVerdict input (carriedAfter input l) s⟩] = _
      by_cases hhome : s.hash = hash ∧ recordAt? input.records s.path = none
      · obtain ⟨rfl, hnone⟩ := hhome
        have hmore : homeless input s.hash (l ++ [s]) = homeless input s.hash l ++ [s] := by
          simp [homeless, hnone]
        rw [hmore, zipWith_concat]
        refine congrArg _ ?_
        cases hr : (movable input s.hash)[(homeless input s.hash l).length]? with
        | some r =>
            have hv := (renamed_iff hn).mpr ⟨hnone, r, hr, rfl⟩
            rw [List.filter_cons_of_pos ((movesFrom_liveVerdict_iff hn).mpr ⟨rfl, _, hv⟩), hv]
            rfl
        | none =>
            rw [List.filter_cons_of_neg fun hmoves => ?_]
            · rfl
            · obtain ⟨-, path, hv⟩ := (movesFrom_liveVerdict_iff hn).mp hmoves
              obtain ⟨-, r, hr', -⟩ := (renamed_iff hn).mp hv
              cases hr.symm.trans hr'
      · rw [homeless_concat_of_not hhome, List.filter_cons_of_neg fun hmoves => ?_]
        · exact List.append_nil _
        · obtain ⟨hh, path, hv⟩ := (movesFrom_liveVerdict_iff hn).mp hmoves
          exact hhome ⟨hh, ((renamed_iff hn).mp hv).1⟩

/-- What live scripts leave is what stands behind the records that were moved. -/
theorem untaken_live (hn : (input.records.map Record.path).Nodup) (hash : String) :
    untaken input (carriedAfter input (byPath input.live)).taken hash
      = (loose input hash).drop (moves input hash).length := by
  rw [moves, List.length_zipWith, movable]
  cases ha : input.options.allowRehash with
  | false =>
      rw [taken_carriedAfter_eq_nil ha, untaken]
      simp
  | true =>
      rw [loose_untaken hn ha, if_pos rfl]
      rcases Nat.le_total (homeless input hash (byPath input.live)).length
        (loose input hash).length with hle | hge
      · rw [Nat.min_eq_left hle]
      · rw [Nat.min_eq_right hge, List.drop_length, List.drop_of_length_le hge]

/-! ## Archived files -/

section

variable {taken : List String} {count : String → Nat}

/-- Where records may be archived, an archived file takes the free one. -/
theorem takenAfter_archivedVerdict (ho : input.options.archivedRedundancy = true) (s : Script) :
    takenAfter taken (archivedVerdict input taken s)
      = ((free? input taken s.hash).map Record.path).toList ++ taken := by
  rw [archivedVerdict, if_pos ho]
  cases free? input taken s.hash <;> rfl

/-- The loose records of a content that are not taken after some archived files. -/
theorem untaken_planArchived (hn : (input.records.map Record.path).Nodup)
    (ho : input.options.archivedRedundancy = true)
    (hleft : ∀ hash, untaken input taken hash = (loose input hash).drop (count hash))
    (l : List Script) (hash : String) :
    untaken input (planArchived input taken l).2 hash
      = (loose input hash).drop (count hash + (l.filter fun s => s.hash = hash).length) := by
  -- Induction from the back: the last file takes the first record that is left.
  induction l using List.reverseRecOn generalizing hash with
  | nil => exact hleft hash
  | append_singleton l s ih =>
      rw [planArchived_append]
      show untaken input (takenAfter (planArchived input taken l).2
        (archivedVerdict input (planArchived input taken l).2 s)) hash = _
      rw [takenAfter_archivedVerdict ho, untaken_free hn ih, List.filter_append,
        List.length_append, ← Nat.add_assoc]
      by_cases hh : s.hash = hash
      · rw [if_pos hh, List.filter_cons_of_pos (by simpa using hh)]
        rfl
      · rw [if_neg hh, List.filter_cons_of_neg (by simpa using hh)]
        rfl

/-- An archived file takes the loose record whose number comes next. -/
theorem archivedVerdict_eq_shelfAt (hn : (input.records.map Record.path).Nodup)
    (hleft : ∀ hash, untaken input taken hash = (loose input hash).drop (count hash))
    (l : List Script) (s : Script) :
    archivedVerdict input (planArchived input taken l).2 s
      = shelfAt input s.hash (count s.hash + (l.filter fun x => x.hash = s.hash).length) := by
  rw [archivedVerdict, shelfAt, shelvable]
  cases ho : input.options.archivedRedundancy with
  | false => rfl
  | true =>
      have hnext : free? input (planArchived input taken l).2 s.hash
          = (loose input s.hash)[count s.hash + (l.filter fun x => x.hash = s.hash).length]? := by
        rw [free?_eq_head?, untaken_planArchived hn ho hleft, List.head?_drop]
      rw [if_pos rfl, if_pos rfl, ← hnext]
      cases free? input (planArchived input taken l).2 s.hash <;> rfl

/-- The archived files with some content take the records with the numbers that follow. -/
theorem filter_hash_planArchived (hn : (input.records.map Record.path).Nodup)
    (hleft : ∀ hash, untaken input taken hash = (loose input hash).drop (count hash))
    (l : List Script) (hash : String) :
    ((planArchived input taken l).1.filter fun e => e.script.hash = hash)
      = (l.filter fun s => s.hash = hash).mapIdx fun j s =>
          (⟨s, shelfAt input hash (count hash + j)⟩ : PlannedFile) := by
  induction l using List.reverseRecOn with
  | nil => rfl
  | append_singleton l s ih =>
      rw [planArchived_append, List.filter_append, List.filter_append, ih]
      show _ ++ List.filter (fun e : PlannedFile => decide (e.script.hash = hash))
        [⟨s, archivedVerdict input (planArchived input taken l).2 s⟩] = _
      -- From the back: the last script counts if it has the content, and leaves the others'
      -- numbers alone.
      by_cases hh : s.hash = hash
      · subst hh
        rw [List.filter_cons_of_pos (by simp), List.filter_cons_of_pos (by simp),
          List.filter_nil, List.filter_nil, List.mapIdx_concat,
          archivedVerdict_eq_shelfAt hn hleft]
      · rw [List.filter_cons_of_neg (by simpa using hh),
          List.filter_cons_of_neg (by simpa using hh)]
        simp

end

/-! ## Plans -/

/-- The records that entries take over are among the paths that they touch. -/
theorem claims_sublist_touched (entries : List PlannedFile) :
    (claims entries).Sublist (entries.flatMap touched) := by
  induction entries with
  | nil => exact List.Sublist.refl _
  | cons e rest ih =>
      rw [claims, List.filterMap_cons, List.flatMap_cons]
      cases hc : claim? e with
      | none => exact ih.trans (List.sublist_append_right _ _)
      | some path =>
          refine List.Sublist.append (List.singleton_sublist.mpr ?_) ih
          rw [claim?] at hc
          rw [touched]
          cases hv : e.verdict with
          | renamed old =>
              rw [hv] at hc
              exact List.mem_cons.mpr (Or.inl (Option.some.inj hc).symm)
          | archivedRedundant record =>
              rw [hv] at hc
              exact List.mem_singleton.mpr (Option.some.inj hc).symm
          | _ =>
              rw [hv] at hc
              cases hc

/-- No record is taken over twice. -/
theorem claims_nodup (hl : (input.live.map Script.path).Nodup) :
    (claims (build input).entries).Nodup :=
  (touched_nodup hl).sublist (claims_sublist_touched _)

/-- The files with some content take over the loose records with it, first come first
    served: the live scripts without a record from the first record on, the archived
    files from where these stop. -/
structure TakenInOrder (input : Input) (hash : String) : Prop where
  /-- Of all entries, those that move a record with the content pair scripts and records. -/
  live : (build input).entries.filter (movesFrom input hash) = moves input hash
  /-- The archived files with the content take the records behind those. -/
  archived : ((archivedEntries input).filter fun e => e.script.hash = hash) = shelves input hash

/-- Both loops take the loose records of a content in order, the second where the first has
stopped. -/
theorem takenInOrder (hn : (input.records.map Record.path).Nodup) (hash : String) :
    TakenInOrder input hash where
  live := by
    rw [entries_build, List.filter_append, liveEntries, filter_movesFrom_planLive hn]
    refine (congrArg _ (List.filter_eq_nil_iff.mpr fun e he => ?_)).trans (List.append_nil _)
    rcases archivedEntry_cases he with hv | ⟨path, hv⟩
    · rw [movesFrom, hv]; exact Bool.false_ne_true
    · rw [movesFrom, hv]; exact Bool.false_ne_true
  archived := filter_hash_planArchived hn (untaken_live hn) (byPath input.archived) hash

/-- Every record that is loose goes to the file with its number, if there is one; none
    is taken twice, none whose path is live, and none at all where the options do not
    allow it. -/
theorem takeovers_in_order (hn : (input.records.map Record.path).Nodup)
    (hl : (input.live.map Script.path).Nodup) :
    (∀ hash, TakenInOrder input hash)
      ∧ (claims (build input).entries).Nodup
      ∧ (∀ path ∈ claims (build input).entries, isLive input.live path = false)
      ∧ (input.options.allowRehash = false →
          ∀ e ∈ (build input).entries, ∀ old, e.verdict ≠ .renamed old)
      ∧ (input.options.archivedRedundancy = false →
          ∀ e ∈ archivedEntries input, e.verdict = .archived) := by
  refine ⟨takenInOrder hn, claims_nodup hl, fun _ => not_live_of_mem_claims,
    fun ha e he old hv => ?_, fun ho e he => ?_⟩
  · have hlive : e ∈ liveEntries input :=
      liveEntry_of_ne he hv Verdict.noConfusion fun _ => Verdict.noConfusion
    obtain ⟨-, -, hallowed, -⟩ := claim_of_liveEntry hlive (claim?_of_renamed hv)
    cases ha.symm.trans hallowed
  · rcases archivedEntry_cases he with hv | ⟨path, hv⟩
    · exact hv
    · obtain ⟨-, hallowed, -⟩ := claim_of_archivedEntry he (claim?_of_archivedRedundant hv)
      cases ho.symm.trans hallowed

/-! ## A plan with several takeovers -/

/-- A script as it is found in a directory. -/
def found (path hash : String) (directory : DirectoryClass) : Script :=
  ⟨path, hash, ⟨path⟩, directory⟩

/-- An active record whose file was never missing. -/
def recorded (path hash : String) : Record := ⟨path, hash, .epoch, 0, .active, 0⟩

/-- Three loose records of one content between others; two live scripts and two archived
    files have that content. -/
def shuffled : Input where
  live := [found "d" "x" .updates, found "c" "y" .updates, found "a" "x" .updates,
    found "b" "x" .updates]
  archived := [found "q" "x" .archived, found "p" "x" .archived]
  records := [recorded "gone 1" "x", recorded "gone 2" "y", recorded "b" "x",
    recorded "gone 3" "x", recorded "gone 4" "x"]
  options := ⟨true, true, true, 3⟩

/-- The live scripts take the first two records in path order, the first archived file the
    third, and nothing is left for the second. -/
theorem takeovers_in_order_shuffled :
    ((shuffled.records.map Record.path).Nodup ∧ (shuffled.live.map Script.path).Nodup)
      ∧ (build shuffled).entries.filter (movesFrom shuffled "x")
        = [⟨found "a" "x" .updates, .renamed "gone 1"⟩,
            ⟨found "d" "x" .updates, .renamed "gone 3"⟩]
      ∧ ((archivedEntries shuffled).filter fun e => e.script.hash = "x")
        = [⟨found "p" "x" .archived, .archivedRedundant "gone 4"⟩,
            ⟨found "q" "x" .archived, .archived⟩] := by
  have hn : (shuffled.records.map Record.path).Nodup := by decide
  have hl : (shuffled.live.map Script.path).Nodup := by decide
  obtain ⟨htaken, -⟩ := takeovers_in_order hn hl
  have hlive : byPath shuffled.live = [found "a" "x" .updates, found "b" "x" .updates,
      found "c" "y" .updates, found "d" "x" .updates] := by cbv
  have harchived : byPath shuffled.archived
      = [found "p" "x" .archived, found "q" "x" .archived] := by cbv
  have hmoves : moves shuffled "x" = [⟨found "a" "x" .updates, .renamed "gone 1"⟩,
      ⟨found "d" "x" .updates, .renamed "gone 3"⟩] := by
    rw [moves, hlive]
    rfl
  refine ⟨⟨hn, hl⟩, (htaken "x").live.trans hmoves, (htaken "x").archived.trans ?_⟩
  rw [shelves, harchived, hmoves]
  rfl

end SchemaMigration.Plan
