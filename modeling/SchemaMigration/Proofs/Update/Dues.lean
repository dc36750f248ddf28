import SchemaMigration.Proofs.Plan.Matching
import SchemaMigration.Proofs.Update.Progress

/-! # Dues — what a change of the ledger does to the scripts that are due

    Which scripts are due depends on the stamps in the ledger only, and on how many
    loose records there are, not on which.  So the changes of a run can be looked
    at one by one:

    * `due_rename`: moving a record to a script that is not due changes nothing,
      for the script stops to look for a record when a record is gone;
    * `due_rehash`: filling in a hash changes nothing;
    * `due_record`: recording a script that is due makes it the only one not due;
    * `due_of_shrunk`: once every script is matched or due, whatever happens to
      records of other paths changes nothing. -/

namespace SchemaMigration.Update

open Ledger Plan

variable {σ : Type} {w : Surroundings σ} {s u : σ}
variable {live archived : List Script} {options : Options} {hash q : String} {x y : Script}

/-! ## Dues in terms of stamps -/

/-- A path is loose for a content if it is not live and its stamp is that content, active. -/
theorem mem_loose_view :
    q ∈ (loose (w.inputFor live archived options s) hash).map Record.path
      ↔ isLive live q = false ∧ hash ≠ "" ∧ stampAt (w.view s) q = some (hash, .active) := by
  rw [← active_iff_stampAt, List.mem_map]
  constructor
  · rintro ⟨r, hr, rfl⟩
    obtain ⟨hactive, hlive⟩ := mem_loose.mp hr
    exact ⟨hlive, r, hactive, rfl⟩
  · rintro ⟨hlive, r, hactive, rfl⟩
    exact ⟨r, mem_loose.mpr ⟨hactive, hlive⟩, rfl⟩

theorem loose_nodup :
    ((loose (w.inputFor live archived options s) hash).map Record.path).Nodup :=
  (w.listing_unique s).sublist ((List.filter_sublist.trans List.filter_sublist).map _)

/-- A script is homeless if it is live and its path has no stamp. -/
theorem mem_homeless_view :
    x ∈ homeless (w.inputFor live archived options s) hash (byPath live)
      ↔ x ∈ live ∧ x.hash = hash ∧ stampAt (w.view s) x.path = none := by
  rw [mem_homeless, mem_byPath]
  exact and_congr_right fun _ => and_congr_right fun _ => recordAt?_eq_none_iff_stampAt

theorem homeless_nodup (hn : (live.map Script.path).Nodup) :
    (homeless (w.inputFor live archived options s) hash (byPath live)).Nodup :=
  (List.Nodup.of_map _ (byPath_nodup hn)).filter _

/-- A script has changed if its stamp has another content. -/
theorem changed_iff_stampAt : Changed (w.inputFor live archived options s) x
    ↔ ∃ h state, stampAt (w.view s) x.path = some (h, state) ∧ h ≠ x.hash
      ∧ ¬(h = "" ∧ options.allowRehash) := by
  constructor
  · rintro ⟨r, hr, hne, hblank⟩
    obtain ⟨stored, hstored, rfl⟩ := exists_view_of_recordAt? hr
    exact ⟨stored.hash, stored.state, stampAt_eq_some_iff.mpr ⟨stored, hstored, rfl, rfl⟩,
      hne, hblank⟩
  · rintro ⟨h, state, hstamp, hne, hblank⟩
    obtain ⟨r, hr, rfl, -⟩ := stampAt_eq_some_iff.mp hstamp
    exact ⟨r.asRead, recordAt?_of_view hr, hne, hblank⟩

/-- Whether a script has changed depends on the stamp of its path only. -/
theorem changed_congr (h : stampAt (w.view u) x.path = stampAt (w.view s) x.path) :
    Changed (w.inputFor live archived options u) x
      ↔ Changed (w.inputFor live archived options s) x := by
  rw [changed_iff_stampAt, changed_iff_stampAt, h]

/-- A script that waits has no record. -/
theorem stampAt_of_waiting (h : x ∈ waiting (w.inputFor live archived options s) hash) :
    x ∈ live ∧ x.hash = hash ∧ stampAt (w.view s) x.path = none :=
  mem_homeless_view.mp (List.mem_of_mem_drop h)

/-- A matched script is not due. -/
theorem not_due_of_matched (h : Matched w s x) : ¬Due (w.inputFor live archived options s) x := by
  obtain ⟨r, hr, hhash⟩ := matched_iff.mp h
  rintro (hchanged | hwaits)
  · obtain ⟨r', hr', hne, -⟩ := hchanged
    obtain rfl := Option.some.inj ((recordAt?_of_view hr).symm.trans hr')
    exact hne hhash
  · have := stampAt_eq_none_iff.mp (stampAt_of_waiting hwaits).2.2
    exact nomatch hr.symm.trans this

/-- Which scripts with a content are homeless depends on which of their paths have a stamp. -/
theorem homeless_congr
    (h : ∀ y ∈ live, y.hash = hash →
      (stampAt (w.view u) y.path = none ↔ stampAt (w.view s) y.path = none)) :
    homeless (w.inputFor live archived options u) hash (byPath live)
      = homeless (w.inputFor live archived options s) hash (byPath live) := by
  refine List.filter_congr fun y hy => ?_
  by_cases hh : y.hash = hash
  · have hiff := h y (mem_byPath.mp hy) hh
    rw [← recordAt?_eq_none_iff_stampAt, ← recordAt?_eq_none_iff_stampAt] at hiff
    rw [Bool.eq_iff_iff]
    simpa [hh, Surroundings.inputFor] using hiff
  · simp [hh]

theorem movable_inputFor : movable (w.inputFor live archived options s) hash
    = if options.allowRehash then loose (w.inputFor live archived options s) hash else [] := rfl

/-- How many records may be moved depends on which paths have loose ones. -/
theorem length_movable_congr
    (h : ∀ q, isLive live q = false → (stampAt (w.view u) q = some (hash, .active)
      ↔ stampAt (w.view s) q = some (hash, .active))) :
    (movable (w.inputFor live archived options u) hash).length
      = (movable (w.inputFor live archived options s) hash).length := by
  have hperm : ((loose (w.inputFor live archived options u) hash).map Record.path).Perm
      ((loose (w.inputFor live archived options s) hash).map Record.path) := by
    refine (List.perm_ext_iff_of_nodup loose_nodup loose_nodup).mpr fun q => ?_
    rw [mem_loose_view, mem_loose_view]
    exact and_congr_right fun hq => and_congr_right fun _ => h q hq
  have hlength := hperm.length_eq
  rw [List.length_map, List.length_map] at hlength
  rw [movable_inputFor, movable_inputFor]
  cases options.allowRehash with
  | true => exact hlength
  | false => rfl

/-- The homeless scripts beyond the movable records are waiting. -/
theorem waiting_inputFor : waiting (w.inputFor live archived options s) hash
    = (homeless (w.inputFor live archived options s) hash (byPath live)).drop
        (movable (w.inputFor live archived options s) hash).length := rfl

/-- Scripts wait as before if the same ones look for a record and as many are loose. -/
theorem waiting_congr
    (hhome : ∀ y ∈ live, y.hash = hash →
      (stampAt (w.view u) y.path = none ↔ stampAt (w.view s) y.path = none))
    (hloose : ∀ q, isLive live q = false → (stampAt (w.view u) q = some (hash, .active)
      ↔ stampAt (w.view s) q = some (hash, .active))) :
    waiting (w.inputFor live archived options u) hash
      = waiting (w.inputFor live archived options s) hash := by
  rw [waiting_inputFor, waiting_inputFor, homeless_congr hhome, length_movable_congr hloose]

/-! ## One script less that looks for a record -/

section

variable {α : Type} [DecidableEq α] {l : List α} {a : α} {n : Nat}

/-- Without repetition, dropping one element leaves those before and behind it. -/
theorem filter_ne_of_nodup {l₁ l₂ : List α} (hn : (l₁ ++ a :: l₂).Nodup) :
    ((l₁ ++ a :: l₂).filter fun b => decide (b ≠ a)) = l₁ ++ l₂ := by
  obtain ⟨-, hcons, hdisj⟩ := List.nodup_append'.mp hn
  have h₁ : (l₁.filter fun b => decide (b ≠ a)) = l₁ := List.filter_eq_self.mpr fun b hb =>
    decide_eq_true fun heq => hdisj (heq ▸ hb) List.mem_cons_self
  have h₂ : (l₂.filter fun b => decide (b ≠ a)) = l₂ := List.filter_eq_self.mpr fun b hb =>
    decide_eq_true fun heq => (List.nodup_cons.mp hcons).1 (heq ▸ hb)
  rw [List.filter_append, List.filter_cons_of_neg (by simp), h₁, h₂]

/-- Where an element and a place before the rest go, the rest stays. -/
theorem drop_filter_ne (hn : l.Nodup) (hmem : a ∈ l) (hnot : a ∉ l.drop (n + 1)) :
    (l.filter fun b => decide (b ≠ a)).drop n = l.drop (n + 1) := by
  obtain ⟨l₁, l₂, rfl⟩ := List.mem_iff_append.mp hmem
  rw [mem_drop_iff hn] at hnot
  obtain ⟨k, hk⟩ : ∃ k, n = l₁.length + k := ⟨n - l₁.length, by omega⟩
  rw [filter_ne_of_nodup hn, hk, Nat.add_assoc, List.drop_length_add_append,
    List.drop_length_add_append, List.drop_succ_cons]

/-- An element of the rest is dropped from the rest. -/
theorem drop_filter_ne_of_mem (hn : l.Nodup) (hmem : a ∈ l.drop n) :
    (l.filter fun b => decide (b ≠ a)).drop n = (l.drop n).filter fun b => decide (b ≠ a) := by
  obtain ⟨l₁, l₂, rfl⟩ := List.mem_iff_append.mp (List.mem_of_mem_drop hmem)
  have hle := (mem_drop_iff hn n).mp hmem
  have hdrop := hn.sublist (List.drop_sublist n (l₁ ++ a :: l₂))
  rw [List.drop_append_of_le_length hle] at hdrop ⊢
  rw [filter_ne_of_nodup hn, filter_ne_of_nodup hdrop, List.drop_append_of_le_length hle]

end

/-- A script that gets a record does not look for one any more. -/
theorem homeless_placed (hplaced : stampAt (w.view u) x.path ≠ none)
    (hsame : ∀ y ∈ live, y ≠ x → stampAt (w.view u) y.path = stampAt (w.view s) y.path) :
    homeless (w.inputFor live archived options u) x.hash (byPath live)
      = (homeless (w.inputFor live archived options s) x.hash (byPath live)).filter
          fun y => decide (y ≠ x) := by
  rw [homeless, homeless, List.filter_filter]
  refine List.filter_congr fun y hy => ?_
  show (_ && (recordAt? (w.listing u) y.path).isNone)
    = (_ && (_ && (recordAt? (w.listing s) y.path).isNone))
  by_cases hyx : y = x
  · subst hyx
    have hrecord : recordAt? (w.listing u) y.path ≠ none :=
      fun hnone => hplaced (recordAt?_eq_none_iff_stampAt.mp hnone)
    simpa using Option.isSome_iff_ne_none.mpr hrecord
  · have hiff : recordAt? (w.listing u) y.path = none ↔ recordAt? (w.listing s) y.path = none := by
      rw [recordAt?_eq_none_iff_stampAt, recordAt?_eq_none_iff_stampAt, hsame y (mem_byPath.mp hy) hyx]
    rw [Bool.eq_iff_iff]
    simp [hyx, hiff]

/-- A record that is loose no more leaves one less. -/
theorem length_movable_succ (ha : options.allowRehash = true) (hhash : hash ≠ "")
    (hlive : isLive live q = false) (hbefore : stampAt (w.view s) q = some (hash, .active))
    (hafter : stampAt (w.view u) q ≠ some (hash, .active))
    (hsame : ∀ q', isLive live q' = false → q' ≠ q →
      stampAt (w.view u) q' = stampAt (w.view s) q') :
    (movable (w.inputFor live archived options s) hash).length
      = (movable (w.inputFor live archived options u) hash).length + 1 := by
  have hgone : q ∉ (loose (w.inputFor live archived options u) hash).map Record.path :=
    fun hmem => hafter (mem_loose_view.mp hmem).2.2
  -- As lists of paths, the loose records before are those after and the one that went.
  have hperm : ((loose (w.inputFor live archived options s) hash).map Record.path).Perm
      (q :: (loose (w.inputFor live archived options u) hash).map Record.path) := by
    refine (List.perm_ext_iff_of_nodup loose_nodup (List.nodup_cons.mpr ⟨hgone, loose_nodup⟩)).mpr
      fun q' => ?_
    rw [List.mem_cons]
    by_cases hq : q' = q
    · subst hq
      exact iff_of_true (mem_loose_view.mpr ⟨hlive, hhash, hbefore⟩) (Or.inl rfl)
    · rw [or_iff_right hq, mem_loose_view, mem_loose_view]
      refine and_congr_right fun hlive' => and_congr_right fun _ => ?_
      rw [hsame q' hlive' hq]
  have hlength := hperm.length_eq
  rw [List.length_cons, List.length_map, List.length_map] at hlength
  rw [movable_inputFor, movable_inputFor, if_pos ha, if_pos ha]
  exact hlength

/-! ## Changes -/

/-- A path that is not live is not the path of a live script. -/
theorem ne_path_of_live (hlive : isLive live q = false) (hx : x ∈ live) : x.path ≠ q := by
  rintro rfl
  have := isLive_iff.mpr ⟨x, hx, rfl⟩
  exact nomatch hlive.symm.trans this

theorem path_ne_of_ne (hn : (live.map Script.path).Nodup) (hx : x ∈ live) (hy : y ∈ live)
    (hne : y ≠ x) : y.path ≠ x.path := fun hp => hne (List.inj_on_of_nodup_map hn hy hx hp)

/-- Moving a record to a script that is not due leaves the others due as they are. -/
theorem due_rename (hn : (live.map Script.path).Nodup) (ha : options.allowRehash = true)
    (hx : x ∈ live) (hlive : isLive live q = false) (hhash : x.hash ≠ "")
    (hnone : stampAt (w.view s) x.path = none)
    (hold : stampAt (w.view s) q = some (x.hash, .active))
    (hdue : ¬Due (w.inputFor live archived options s) x)
    {time : Timestamp} (hview : w.view u = (Change.rename q x.path).onto time (w.view s)) :
    Matched w u x ∧ ∀ y ∈ live, Due (w.inputFor live archived options u) y
      ↔ Due (w.inputFor live archived options s) y := by
  obtain ⟨r, hr, hrhash, hrstate⟩ := stampAt_eq_some_iff.mp hold
  rw [Change.onto_rename_of_some hr] at hview
  have hnew : stampAt (w.view u) x.path = some (x.hash, .active) := by
    rw [hview, stampAt, Function.update_self]
    exact congrArg some (Prod.ext hrhash hrstate)
  have hgone : stampAt (w.view u) q = none := by
    rw [hview, stampAt, Function.update_of_ne (ne_path_of_live hlive hx).symm,
      Function.update_self]
    rfl
  have hsame : ∀ p, p ≠ q → p ≠ x.path → stampAt (w.view u) p = stampAt (w.view s) p := by
    intro p hpq hpx
    rw [hview, stampAt, Function.update_of_ne hpx, Function.update_of_ne hpq]
    rfl
  have hlives : ∀ y ∈ live, y ≠ x → stampAt (w.view u) y.path = stampAt (w.view s) y.path :=
    fun y hy hne => hsame _ (ne_path_of_live hlive hy) (path_ne_of_ne hn hx hy hne)
  -- The script has found its record, so it is not due any more, and was not before.
  have hmatched : Matched w u x := by
    rw [Matched, hnew]
    rfl
  refine ⟨hmatched, fun y hy => ?_⟩
  by_cases hyx : y = x
  · rw [hyx]
    exact iff_of_false (not_due_of_matched hmatched) hdue
  refine or_congr (changed_congr (hlives y hy hyx)) ?_
  by_cases hcontent : y.hash = x.hash
  · -- One script less looks for a record, and one record less is loose.
    have hwaits : x ∉ waiting (w.inputFor live archived options s) x.hash :=
      fun hmem => hdue (Or.inr hmem)
    have hfew : x ∈ homeless (w.inputFor live archived options s) x.hash (byPath live) :=
      mem_homeless_view.mpr ⟨hx, rfl, hnone⟩
    have hone : (movable (w.inputFor live archived options s) x.hash).length
        = (movable (w.inputFor live archived options u) x.hash).length + 1 :=
      length_movable_succ ha hhash hlive hold (by rw [hgone]; exact (Option.some_ne_none _).symm)
        fun q' hlive' hq => hsame q' hq (ne_path_of_live hlive' hx).symm
    rw [waiting_inputFor, hone] at hwaits
    rw [hcontent, waiting_inputFor, waiting_inputFor, hone,
      homeless_placed (by rw [hnew]; exact Option.some_ne_none _) hlives,
      drop_filter_ne (homeless_nodup hn) hfew hwaits]
  · rw [waiting_congr]
    · intro z hz hzhash
      rw [hlives z hz fun heq => hcontent (heq ▸ hzhash.symm)]
    · intro p hp
      by_cases hpq : p = q
      · rw [hpq, hgone, hold]
        simp [Ne.symm hcontent]
      · rw [hsame p hpq (ne_path_of_live hp hx).symm]

section

variable (hn : (live.map Script.path).Nodup) (hx : x ∈ live)
variable (hother : ∀ p, p ≠ x.path → stampAt (w.view u) p = stampAt (w.view s) p)

include hx hother in
/-- What happens at a live path makes no record loose, and none less. -/
theorem loose_same (hlive : isLive live q = false) :
    stampAt (w.view u) q = some (hash, .active) ↔ stampAt (w.view s) q = some (hash, .active) := by
  rw [hother q (ne_path_of_live hlive hx).symm]

include hn hx hother in
/-- Filling in the hash of a record leaves scripts due as they are. -/
theorem due_rehash (ha : options.allowRehash = true) {state : RecordState}
    (hblank : stampAt (w.view s) x.path = some ("", state)) (hmatched : Matched w u x) :
    ∀ y ∈ live, Due (w.inputFor live archived options u) y
      ↔ Due (w.inputFor live archived options s) y := by
  intro y hy
  obtain ⟨r, hr, -⟩ := matched_iff.mp hmatched
  have hplaced : stampAt (w.view u) x.path ≠ none := by
    rw [stampAt, hr]
    exact Option.some_ne_none _
  by_cases hyx : y = x
  · subst hyx
    refine iff_of_false (not_due_of_matched hmatched) ?_
    -- A record without content is no change where rehashing is allowed, and its script is not
    -- waiting.
    rintro (hchanged | hwaits)
    · obtain ⟨h, state', hstamp, -, hnot⟩ := changed_iff_stampAt.mp hchanged
      obtain ⟨rfl, -⟩ := Prod.mk.inj (Option.some.inj (hblank.symm.trans hstamp))
      exact hnot ⟨rfl, ha⟩
    · cases hblank.symm.trans (stampAt_of_waiting hwaits).2.2
  · refine or_congr (changed_congr (hother _ (path_ne_of_ne hn hx hy hyx))) ?_
    rw [waiting_congr (fun z hz _ => ?_) fun q hq => loose_same hx hother hq]
    by_cases hzx : z = x
    · rw [hzx, hblank]
      exact iff_of_false hplaced (Option.some_ne_none _)
    · rw [hother _ (path_ne_of_ne hn hx hz hzx)]

include hn hx hother in
/-- Recording a script that is due leaves the other ones due as they are. -/
theorem due_record (hdue : Due (w.inputFor live archived options s) x)
    (hmatched : Matched w u x) :
    ∀ y ∈ live, Due (w.inputFor live archived options u) y
      ↔ Due (w.inputFor live archived options s) y ∧ y ≠ x := by
  intro y hy
  obtain ⟨r, hr, -⟩ := matched_iff.mp hmatched
  have hplaced : stampAt (w.view u) x.path ≠ none := by
    rw [stampAt, hr]
    exact Option.some_ne_none _
  have hlives : ∀ y ∈ live, y ≠ x → stampAt (w.view u) y.path = stampAt (w.view s) y.path :=
    fun y hy hne => hother _ (path_ne_of_ne hn hx hy hne)
  have hloose : ∀ h q, isLive live q = false → (stampAt (w.view u) q = some (h, .active)
      ↔ stampAt (w.view s) q = some (h, .active)) := fun h q hq => loose_same hx hother hq
  -- The script that was recorded is not due any more; the others are as due as before.
  by_cases hyx : y = x
  · subst hyx
    exact iff_of_false (not_due_of_matched hmatched) fun h => h.2 rfl
  rw [and_iff_left hyx]
  refine or_congr (changed_congr (hlives y hy hyx)) ?_
  by_cases hwaited : y.hash = x.hash ∧ stampAt (w.view s) x.path = none
  · -- The script was waiting; it is the one that goes.
    obtain ⟨hcontent, hnone⟩ := hwaited
    have hwaits : x ∈ waiting (w.inputFor live archived options s) x.hash := by
      refine hdue.resolve_left fun hchanged => ?_
      obtain ⟨h, state, hstamp, -⟩ := changed_iff_stampAt.mp hchanged
      cases hnone.symm.trans hstamp
    rw [hcontent, waiting_inputFor, waiting_inputFor, homeless_placed hplaced hlives,
      length_movable_congr (hloose x.hash), drop_filter_ne_of_mem (homeless_nodup hn) hwaits,
      List.mem_filter]
    exact and_iff_left (decide_eq_true hyx)
  · rw [waiting_congr (fun z hz hzhash => ?_) (hloose y.hash)]
    by_cases hzx : z = x
    · subst hzx
      exact iff_of_false hplaced fun hnone => hwaited ⟨hzhash.symm, hnone⟩
    · rw [hlives z hz hzx]

end

/-- Where every live script is matched or due, scripts look for records only if none is loose. -/
theorem homeless_eq_nil (hn : (live.map Script.path).Nodup)
    (hplaced : ∀ y ∈ live, Matched w s y ∨ Due (w.inputFor live archived options s) y)
    (hloose : movable (w.inputFor live archived options s) hash ≠ []) :
    homeless (w.inputFor live archived options s) hash (byPath live) = [] := by
  rw [List.eq_nil_iff_forall_not_mem]
  intro z hz
  have hnodup : (homeless (w.inputFor live archived options s) hash (byPath live)).Nodup :=
    homeless_nodup hn
  -- The first of them would have to wait behind as many scripts as there are loose records.
  cases hfirst : homeless (w.inputFor live archived options s) hash (byPath live) with
  | nil => rw [hfirst] at hz; exact nomatch hz
  | cons first rest =>
      obtain ⟨hmem, rfl, hnone⟩ := mem_homeless_view.mp (hfirst ▸ List.mem_cons_self)
      have hwaits : first ∈ waiting (w.inputFor live archived options s) first.hash := by
        rcases hplaced first hmem with hmatched | hchanged | hwaits
        · obtain ⟨r, hr, -⟩ := matched_iff.mp hmatched
          exact nomatch hr.symm.trans (stampAt_eq_none_iff.mp hnone)
        · obtain ⟨h, state, hstamp, -⟩ := changed_iff_stampAt.mp hchanged
          exact nomatch hnone.symm.trans hstamp
        · exact hwaits
      rw [waiting_inputFor, hfirst] at hwaits
      rw [hfirst] at hnodup
      rw [← List.nil_append (first :: rest)] at hwaits hnodup
      have hle := (mem_drop_iff hnodup _).mp hwaits
      exact hloose (List.length_eq_zero_iff.mp (Nat.le_zero.mp hle))

/-- Where every live script is matched or due, nothing that happens to records of other
    paths changes this, unless a record becomes loose. -/
theorem due_of_shrunk (hn : (live.map Script.path).Nodup)
    (hplaced : ∀ y ∈ live, Matched w s y ∨ Due (w.inputFor live archived options s) y)
    (hsame : ∀ y ∈ live, stampAt (w.view u) y.path = stampAt (w.view s) y.path)
    (hshrunk : ∀ q h, isLive live q = false → stampAt (w.view u) q = some (h, .active) →
      stampAt (w.view s) q = some (h, .active)) :
    ∀ y ∈ live, Due (w.inputFor live archived options u) y
      ↔ Due (w.inputFor live archived options s) y := by
  intro y hy
  refine or_congr (changed_congr (hsame y hy)) ?_
  have hhome : homeless (w.inputFor live archived options u) y.hash (byPath live)
      = homeless (w.inputFor live archived options s) y.hash (byPath live) :=
    homeless_congr fun z hz _ => by rw [hsame z hz]
  rw [waiting_inputFor, waiting_inputFor, hhome]
  by_cases hloose : movable (w.inputFor live archived options s) y.hash = []
  · -- Where no record is loose, none has become so.
    have hnone : movable (w.inputFor live archived options u) y.hash = [] := by
      rw [movable_inputFor] at hloose ⊢
      cases ha : options.allowRehash with
      | false => rfl
      | true =>
          rw [ha, if_pos rfl] at hloose
          rw [if_pos rfl, ← List.map_eq_nil_iff, List.eq_nil_iff_forall_not_mem]
          intro q hq
          obtain ⟨hlive, hne, hstamp⟩ := mem_loose_view.mp hq
          have hbefore : q ∈ (loose (w.inputFor live archived options s) y.hash).map Record.path :=
            mem_loose_view.mpr ⟨hlive, hne, hshrunk q _ hlive hstamp⟩
          rw [hloose] at hbefore
          exact nomatch hbefore
    rw [hnone, hloose]
  · rw [homeless_eq_nil hn hplaced hloose, List.drop_nil, List.drop_nil]

end SchemaMigration.Update
