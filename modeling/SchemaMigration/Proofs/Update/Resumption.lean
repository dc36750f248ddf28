import SchemaMigration.Proofs.Update.Bench
import SchemaMigration.Proofs.Update.Course
import SchemaMigration.Proofs.Update.Dues

/-! # Resumption — planning again after a run was interrupted

    A run may be cut off at any moment, by a failure or from outside, and leaves a
    ledger that is changed half.  Without redundancy the next plan over the same
    files goes on where the run stopped: it runs what the first plan would have
    run, but for the scripts that were recorded.

    * `Resumable` is the invariant: a script is due exactly if it was due at the
      start and is not recorded since;
    * `Position` tells for every phase what keeps the invariant going;
    * `interrupted_run_resumes`: both hold at every moment, so the pending scripts
      of the next plan are those of the first that were not recorded. -/

namespace SchemaMigration.Update

open Ledger Plan Program

variable {σ : Type} {w : Surroundings σ} {s t u : σ}
variable {live archived : List Script} {options : Options}
variable {past : List (Exchange interface)} {m : Exchange interface} {e : PlannedFile}

/-! ## Recorded scripts -/

/-- Whether an exchange records a script with its content. -/
def notes (x : Script) : Exchange interface → Bool
  | ⟨.ledger (.change (.record path hash _)), .ok _⟩ => decide (path = x.path ∧ hash = x.hash)
  | _ => false

/-- Whether a script was recorded so far. -/
def wasRecorded (past : List (Exchange interface)) (x : Script) : Bool := past.any (notes x)

theorem wasRecorded_append (x : Script) :
    wasRecorded (past ++ [m]) x = (wasRecorded past x || notes x m) := by
  simp [wasRecorded]

/-- An exchange that records nothing leaves every script as it was. -/
theorem wasRecorded_of_not_notes (h : ∀ x, notes x m = false) (x : Script) :
    wasRecorded (past ++ [m]) x = wasRecorded past x := by
  rw [wasRecorded_append, h x, Bool.or_false]

/-! ## Where a run stands -/

/-- Every live script has a record of its content, or is due. -/
def Ready (w : Surroundings σ) (live archived : List Script) (options : Options) (u : σ) : Prop :=
  ∀ x ∈ live, Matched w u x ∨ Due (w.inputFor live archived options u) x

/-- Some entries were settled: nothing else was touched or recorded, and what is done with
    live ones is done. -/
structure Settling (w : Surroundings σ) (live archived : List Script) (options : Options) (s : σ)
    (done : List PlannedFile) (past : List (Exchange interface)) (u : σ) : Prop where
  untouched : ∀ q, q ∉ done.flatMap touched → w.view u q = w.view s q
  ready : ∀ e ∈ done, e ∈ liveEntries (w.inputFor live archived options s) →
    Matched w u e.script ∨ Due (w.inputFor live archived options u) e.script
  unrecorded : ∀ x, wasRecorded past x = false

/-- What is true in each phase of a run, beside the scripts that are due. -/
def Position (w : Surroundings σ) (live archived : List Script) (options : Options) (s : σ) :
    Phase → List (Exchange interface) → σ → Prop
  | .settling rest, past, u => ∃ done,
      (w.planFor live archived options s).entries = done ++ rest
        ∧ Settling w live archived options s done past u
  | .applying rest, past, u => Ready w live archived options u ∧ ∃ done,
      (w.planFor live archived options s).pending = done ++ rest
        ∧ ∀ x ∈ live, wasRecorded past x = true ↔ x ∈ done.map PlannedFile.script
  | .recording e rest, past, u => Ready w live archived options u ∧ ∃ done,
      (w.planFor live archived options s).pending = done ++ e :: rest
        ∧ ∀ x ∈ live, wasRecorded past x = true ↔ x ∈ done.map PlannedFile.script
  | .tidying, _, u => ∀ x ∈ live, Matched w u x
  | .stopped _ _, _, _ => True

/-- A script is due exactly if it was due at the start and was not recorded since. -/
def Resumable (w : Surroundings σ) (live archived : List Script) (options : Options) (s : σ)
    (past : List (Exchange interface)) (u : σ) : Prop :=
  ∀ x ∈ live, Due (w.inputFor live archived options u) x
    ↔ Due (w.inputFor live archived options s) x ∧ wasRecorded past x = false

/-! ## Exchanges that leave the ledger alone -/

theorem matched_congr (h : w.records t = w.records u) {x : Script} :
    Matched w t x ↔ Matched w u x := by
  rw [Matched, Matched, w.view_eq_of_records_eq h]

theorem Resumable.quiet (h : Resumable w live archived options s past u)
    (hrecords : w.records t = w.records u) (hm : ∀ x, notes x m = false) :
    Resumable w live archived options s (past ++ [m]) t := by
  intro x hx
  rw [w.inputFor_eq_of_records_eq hrecords, wasRecorded_of_not_notes hm]
  exact h x hx

theorem Ready.quiet (h : Ready w live archived options u) (hrecords : w.records t = w.records u) :
    Ready w live archived options t := by
  intro x hx
  rw [w.inputFor_eq_of_records_eq hrecords, matched_congr hrecords]
  exact h x hx

theorem Position.quiet {phase : Phase} (h : Position w live archived options s phase past u)
    (hrecords : w.records t = w.records u) (hm : ∀ x, notes x m = false) :
    Position w live archived options s phase (past ++ [m]) t := by
  have hview : w.view t = w.view u := w.view_eq_of_records_eq hrecords
  -- What each phase claims is about the records and the recordings, and neither has changed.
  cases phase with
  | settling rest =>
      obtain ⟨done, hsplit, hdone⟩ := h
      refine ⟨done, hsplit, ?_, ?_, ?_⟩
      · rw [hview]
        exact hdone.untouched
      · intro e he hl
        rw [w.inputFor_eq_of_records_eq hrecords, matched_congr hrecords]
        exact hdone.ready e he hl
      · intro x
        rw [wasRecorded_of_not_notes hm]
        exact hdone.unrecorded x
  | applying rest =>
      obtain ⟨hready, done, hsplit, hdone⟩ := h
      refine ⟨hready.quiet hrecords, done, hsplit, fun x hx => ?_⟩
      rw [wasRecorded_of_not_notes hm]
      exact hdone x hx
  | recording e rest =>
      obtain ⟨hready, done, hsplit, hdone⟩ := h
      refine ⟨hready.quiet hrecords, done, hsplit, fun x hx => ?_⟩
      rw [wasRecorded_of_not_notes hm]
      exact hdone x hx
  | tidying => exact fun x hx => (matched_congr hrecords).mpr (h x hx)
  | stopped before error => trivial

/-! ## Settling entries -/

section

variable (hn : (live.map Script.path).Nodup) (ho : options.redundancy = false)

include hn ho in
/-- The script of a live entry is due if the entry is pending. -/
theorem due_iff_pending (he : e ∈ liveEntries (w.inputFor live archived options s)) :
    Due (w.inputFor live archived options s) e.script ↔ e.verdict.isPending = true :=
  (isPending_iff (w.listing_unique s) hn ho he).symm

include ho in
/-- Without redundancy, a live script that needs no change in the ledger is matched or pending. -/
theorem matched_or_pending (he : e ∈ liveEntries (w.inputFor live archived options s))
    (hc : ledgerChange e = none) :
    (Matched w s e.script ∧ touched e = []) ∨ e.verdict.isPending = true := by
  have hnot : ∀ kept, e.verdict ≠ .redundant kept := fun kept hv =>
    nomatch ho.symm.trans (first_of_redundant he hv).1
  obtain ⟨taken, hfirst⟩ := first_of_liveEntry he hnot
  cases hv : e.verdict with
  | pending reason => exact Or.inr rfl
  -- The verdict was given because the record has the content already.
  | applied =>
      rw [hv] at hfirst
      cases hfirst with
      | applied hrec hhash =>
          obtain ⟨stored, hstored, rfl⟩ := exists_view_of_recordAt? hrec
          exact Or.inl ⟨matched_iff.mpr ⟨stored, hstored, hhash⟩,
            touched_of_isQuiet (by rw [hv]; rfl)⟩
  | renamed old => exact nomatch (ledgerChange_of_renamed hv).symm.trans hc
  | rehash => exact nomatch (ledgerChange_of_rehash hv).symm.trans hc
  | redundant kept => exact absurd hv (hnot kept)
  | archivedRedundant record => rw [hv] at hfirst; exact nomatch hfirst
  | archived => rw [hv] at hfirst; exact nomatch hfirst

variable {done rest : List PlannedFile}

/-- The path of a live entry that touches nothing is not touched at all. -/
theorem not_touched_of_quiet (hn : (live.map Script.path).Nodup)
    (hsplit : (w.planFor live archived options s).entries = done ++ rest)
    (he : e ∈ liveEntries (w.inputFor live archived options s)) (hquiet : touched e = []) :
    e.script.path ∉ done.flatMap touched := by
  intro hmem
  obtain ⟨e', he', hq⟩ := List.mem_flatMap.mp hmem
  have hentry : e' ∈ (w.planFor live archived options s).entries :=
    hsplit ▸ List.mem_append_left _ he'
  obtain rfl := eq_of_touched_live hn he hentry hq
  rw [hquiet] at hq
  exact nomatch hq

/-- An entry that needs no change in the ledger can be passed over. -/
theorem Settling.skip (h : Settling w live archived options s done past u)
    (hresume : Resumable w live archived options s past u) (hn : (live.map Script.path).Nodup)
    (ho : options.redundancy = false)
    (hsplit : (w.planFor live archived options s).entries = done ++ e :: rest)
    (hc : ledgerChange e = none) : Settling w live archived options s (done ++ [e]) past u := by
  refine ⟨fun q hq => h.untouched q fun hdone => hq ?_, fun e' he' hl => ?_, h.unrecorded⟩
  · rw [List.flatMap_append]
    exact List.mem_append_left _ hdone
  · rcases List.mem_append.mp he' with hdone | hlast
    · exact h.ready e' hdone hl
    · obtain rfl := List.mem_singleton.mp hlast
      rcases matched_or_pending ho hl hc with ⟨hmatched, hquiet⟩ | hpending
      · left
        rw [Matched, stampAt, h.untouched _ (not_touched_of_quiet hn hsplit hl hquiet)]
        exact hmatched
      · right
        refine (hresume e'.script (live_of_mem_liveEntries hl)).mpr ⟨?_, h.unrecorded _⟩
        exact (due_iff_pending hn ho hl).mpr hpending

/-- An entry that is settled joins those that are done. -/
theorem Settling.settle (h : Settling w live archived options s done past u)
    (hn : (live.map Script.path).Nodup)
    (hsplit : (w.planFor live archived options s).entries = done ++ e :: rest) {c : Change}
    (hc : ledgerChange e = some c) {time : Timestamp} (hview : w.view t = c.onto time (w.view u))
    (hdue : ∀ y ∈ live, Due (w.inputFor live archived options t) y
      ↔ Due (w.inputFor live archived options u) y)
    (hown : e ∈ liveEntries (w.inputFor live archived options s) → Matched w t e.script)
    (hm : ∀ x, notes x m = false) :
    Settling w live archived options s (done ++ [e]) (past ++ [m]) t := by
  have hpaths : c.paths = touched e := paths_of_ledgerChange hc
  refine ⟨fun q hq => ?_, fun e' he' hl => ?_, fun x => ?_⟩
  · rw [List.flatMap_append, List.mem_append, not_or] at hq
    rw [hview, Change.onto_of_notMem (by rw [hpaths]; simpa using hq.2)]
    exact h.untouched q hq.1
  · rcases List.mem_append.mp he' with hdone | hlast
    · -- The change is about other paths than those of entries that are done.
      have hlive : e'.script ∈ live := live_of_mem_liveEntries hl
      have hother : e'.script.path ∉ touched e := by
        intro hq
        have hentry : e ∈ (w.planFor live archived options s).entries :=
          hsplit ▸ List.mem_append_right _ List.mem_cons_self
        obtain rfl := eq_of_touched_live hn hl hentry hq
        exact not_touched_before hn hsplit hq (List.mem_flatMap.mpr ⟨e, hdone, hq⟩)
      refine (h.ready e' hdone hl).imp (fun hmatched => ?_) (hdue _ hlive).mpr
      rw [Matched, hview, Change.stampAt_onto_of_notMem (hpaths ▸ hother)]
      exact hmatched
    · obtain rfl := List.mem_singleton.mp hlast
      exact Or.inl (hown hl)
  · rw [wasRecorded_of_not_notes hm]
    exact h.unrecorded x

/-- When an archived entry is settled, all live ones are done. -/
theorem ready_of_archived (h : Settling w live archived options s done past u)
    (hsplit : (w.planFor live archived options s).entries = done ++ rest)
    (hrest : ∀ e ∈ rest.head?, e ∉ liveEntries (w.inputFor live archived options s)) :
    Ready w live archived options u := by
  intro x hx
  obtain ⟨e, he, rfl⟩ := exists_entry_of_live hx
  refine h.ready e ?_ he
  -- The live entries come first, so that they end before one that is not live.
  have hentries : done ++ rest = liveEntries (w.inputFor live archived options s)
      ++ archivedEntries (w.inputFor live archived options s) := by
    rw [← hsplit]
    exact entries_build _
  rcases List.append_eq_append_iff.mp hentries with ⟨more, hlive, hmore⟩ | ⟨more, hdone, -⟩
  · cases more with
    | nil => rw [hlive, List.append_nil] at he; exact he
    | cons first more =>
        refine absurd ?_ (hrest first (by rw [hmore]; rfl))
        rw [hlive]
        exact List.mem_append_right _ List.mem_cons_self
  · rw [hdone]
    exact List.mem_append_left _ he

variable (hn : (live.map Script.path).Nodup)
variable (hsplit : (w.planFor live archived options s).entries = done ++ e :: rest)
variable (h : Settling w live archived options s done past u) {time : Timestamp}

include hn hsplit h

/-- Until it is settled, what an entry touches is as it was at the start. -/
theorem stampAt_of_touched {q : String} (hq : q ∈ touched e) :
    stampAt (w.view u) q = stampAt (w.view s) q := by
  rw [stampAt, h.untouched q (not_touched_before hn hsplit hq)]
  rfl

/-- Moving a record matches the script that takes it, and makes none due. -/
theorem due_of_renamed (hresume : Resumable w live archived options s past u)
    (ho : options.redundancy = false) {old : String} (hv : e.verdict = .renamed old)
    (hview : w.view t = (Change.rename old e.script.path).onto time (w.view u)) :
    Matched w t e.script ∧ ∀ y ∈ live, Due (w.inputFor live archived options t) y
      ↔ Due (w.inputFor live archived options u) y := by
  have hl : e ∈ liveEntries (w.inputFor live archived options s) :=
    liveEntry_of_ne (hsplit ▸ List.mem_append_right _ List.mem_cons_self) hv Verdict.noConfusion
      fun _ => Verdict.noConfusion
  obtain ⟨-, hnone, ha, hlive, hactive⟩ := claim_of_liveEntry hl (claim?_of_renamed hv)
  obtain ⟨hne, hold⟩ := active_iff_stampAt.mp hactive
  have hboth : ∀ q ∈ [old, e.script.path], stampAt (w.view u) q = stampAt (w.view s) q := by
    intro q hq
    refine stampAt_of_touched hn hsplit h ?_
    rw [touched_of_renamed hv]
    exact hq
  -- The script was not pending, so it was not due, before and after.
  have hundue : ¬Due (w.inputFor live archived options u) e.script := by
    intro hdue
    have hpending := ((hresume e.script (live_of_mem_liveEntries hl)).mp hdue).1
    rw [due_iff_pending hn ho hl, hv] at hpending
    exact Bool.noConfusion hpending
  exact due_rename hn ha (live_of_mem_liveEntries hl) hlive hne
    ((hboth _ (by simp)).trans (recordAt?_eq_none_iff_stampAt.mp hnone))
    ((hboth _ (by simp)).trans hold) hundue hview

/-- Filling in a hash matches the script that has it, and makes none due. -/
theorem due_of_filled (hv : e.verdict = .rehash)
    (hview : w.view t = (Change.rehash e.script.path e.script.hash).onto time (w.view u)) :
    Matched w t e.script ∧ ∀ y ∈ live, Due (w.inputFor live archived options t) y
      ↔ Due (w.inputFor live archived options u) y := by
  obtain ⟨hl, ha, stored, hstored, hblank⟩ :=
    blank_of_rehash (hsplit ▸ List.mem_append_right _ List.mem_cons_self) hv
  have hown : e.script.path ∈ touched e := mem_touched_of_rehash hv
  -- No entry before this one has touched the path, so its record is still without content.
  have hstamp : stampAt (w.view u) e.script.path = some ("", stored.state) := by
    rw [stampAt_of_touched hn hsplit h hown]
    exact stampAt_eq_some_iff.mpr ⟨stored, hstored, hblank, rfl⟩
  obtain ⟨r, hr, -⟩ := stampAt_eq_some_iff.mp hstamp
  have hmatched : Matched w t e.script := by
    refine matched_iff.mpr ⟨{ r with hash := e.script.hash }, ?_, rfl⟩
    rw [hview, Change.onto_rehash_self, hr]
    rfl
  refine ⟨hmatched, due_rehash hn (live_of_mem_liveEntries hl) (fun p hp => ?_) ha hstamp hmatched⟩
  rw [hview]
  exact Change.stampAt_onto_of_notMem (by simpa [Change.paths] using hp) _ _

/-- Archiving a record belongs to no live entry, and makes no script due. -/
theorem due_of_shelved {record : String} (hv : e.verdict = .archivedRedundant record)
    (hview : w.view t = (Change.archive record).onto time (w.view u)) :
    e ∉ liveEntries (w.inputFor live archived options s)
      ∧ ∀ y ∈ live, Due (w.inputFor live archived options t) y
        ↔ Due (w.inputFor live archived options u) y := by
  have hnot : e ∉ liveEntries (w.inputFor live archived options s) := by
    intro hl
    obtain ⟨l₁, l₂, -, heq⟩ := mem_liveEntries_iff.mp hl
    exact liveVerdict_ne_archivedRedundant (heq.symm.trans hv)
  have hentry : e ∈ (w.planFor live archived options s).entries :=
    hsplit ▸ List.mem_append_right _ List.mem_cons_self
  obtain ⟨-, -, hlive, -⟩ :=
    claim_of_archivedEntry (archivedEntry_of_eq hentry hv) (claim?_of_archivedRedundant hv)
  have hready : Ready w live archived options u := by
    refine ready_of_archived h hsplit fun e' he' => ?_
    obtain rfl := Option.some.inj he'
    exact hnot
  have hother : ∀ p, p ≠ record → stampAt (w.view t) p = stampAt (w.view u) p := by
    intro p hp
    rw [hview]
    exact Change.stampAt_onto_of_notMem (by simpa [Change.paths] using hp) _ _
  refine ⟨hnot, due_of_shrunk hn hready (fun y hy => hother _ (ne_path_of_live hlive hy)) ?_⟩
  intro q hash _ hstamp
  by_cases hq : q = record
  · -- The archived record is not active any more.
    subst hq
    rw [stampAt, hview, Change.onto_archive_self, Option.map_map] at hstamp
    obtain ⟨r, -, hshelved⟩ := Option.map_eq_some_iff.mp hstamp
    cases (Prod.mk.inj hshelved).2
  · rwa [← hother q hq]

/-- Settling an entry leaves the due scripts, and matches the script of a live one. -/
theorem Settling.due (hresume : Resumable w live archived options s past u)
    (ho : options.redundancy = false) {c : Change} (hc : ledgerChange e = some c)
    (hview : w.view t = c.onto time (w.view u)) :
    (e ∈ liveEntries (w.inputFor live archived options s) → Matched w t e.script)
      ∧ ∀ y ∈ live, Due (w.inputFor live archived options t) y
        ↔ Due (w.inputFor live archived options u) y := by
  rcases ledgerChange_cases hc with ⟨old, hv, rfl⟩ | ⟨hv, rfl⟩ | ⟨record, hv, rfl⟩
  · obtain ⟨hmatched, hdue⟩ := due_of_renamed hn hsplit h hresume ho hv hview
    exact ⟨fun _ => hmatched, hdue⟩
  · obtain ⟨hmatched, hdue⟩ := due_of_filled hn hsplit h hv hview
    exact ⟨fun _ => hmatched, hdue⟩
  · obtain ⟨hnot, hdue⟩ := due_of_shelved hn hsplit h hv hview
    exact ⟨fun hl => absurd hl hnot, hdue⟩

end

/-! ## Recording scripts -/

section

variable (hn : (live.map Script.path).Nodup)
variable {done rest : List PlannedFile}

/-- A live script is what an exchange records if it is the script of a recorded path. -/
theorem notes_iff_eq (hn : (live.map Script.path).Nodup) {x y : Script} (hx : x ∈ live)
    (hy : y ∈ live) (speed : Nat) :
    notes y ⟨.ledger (.change (.record x.path x.hash speed)), .ok ()⟩ = true ↔ y = x := by
  rw [notes, decide_eq_true_eq]
  constructor
  · rintro ⟨hpath, -⟩
    exact List.inj_on_of_nodup_map hn hy hx hpath.symm
  · rintro rfl
    exact ⟨rfl, rfl⟩

include hn in
/-- The scripts before a pending one are others. -/
theorem pending_not_done
    (hsplit : (w.planFor live archived options s).pending = done ++ e :: rest) :
    e ∈ liveEntries (w.inputFor live archived options s) ∧ e.verdict.isPending = true
      ∧ e.script ∉ done.map PlannedFile.script := by
  have hmem : e ∈ (w.planFor live archived options s).pending :=
    hsplit ▸ List.mem_append_right _ List.mem_cons_self
  obtain ⟨hl, hp⟩ := mem_pending_iff.mp hmem
  have hnodup : ((w.planFor live archived options s).pending.map PlannedFile.script).Nodup :=
    pending_nodup hn
  rw [hsplit, List.map_append, List.nodup_append'] at hnodup
  exact ⟨hl, hp, fun hdone => hnodup.2.2 hdone List.mem_cons_self⟩

include hn in
/-- A script that is recorded was due, and is the only one that is not due any more. -/
theorem Resumable.record (h : Resumable w live archived options s past u)
    (hready : Ready w live archived options u) (ho : options.redundancy = false)
    (hsplit : (w.planFor live archived options s).pending = done ++ e :: rest)
    (hdone : ∀ x ∈ live, wasRecorded past x = true ↔ x ∈ done.map PlannedFile.script)
    {speed : Nat} {time : Timestamp}
    (hview : w.view t = (Change.record e.script.path e.script.hash speed).onto time (w.view u))
    (hm : m = ⟨.ledger (.change (.record e.script.path e.script.hash speed)), .ok ()⟩) :
    Resumable w live archived options s (past ++ [m]) t ∧ Ready w live archived options t
      ∧ ∀ x ∈ live, wasRecorded (past ++ [m]) x = true
          ↔ x ∈ (done ++ [e]).map PlannedFile.script := by
  obtain ⟨hl, hp, hnot⟩ := pending_not_done hn hsplit
  have hlive : e.script ∈ live := live_of_mem_liveEntries hl
  have hunrecorded : wasRecorded past e.script = false :=
    Bool.eq_false_iff.mpr fun hrec => hnot ((hdone _ hlive).mp hrec)
  -- The script is the next one to be run and has no recording yet, so it is due.
  have hdue : Due (w.inputFor live archived options u) e.script :=
    (h _ hlive).mpr ⟨(due_iff_pending hn ho hl).mpr hp, hunrecorded⟩
  have hmatched : Matched w t e.script := by
    rw [Matched, stampAt, hview, Change.onto_record_self]
    rfl
  have hother : ∀ p, p ≠ e.script.path → stampAt (w.view t) p = stampAt (w.view u) p := by
    intro p hp
    rw [hview]
    exact Change.stampAt_onto_of_notMem (by simpa [Change.paths] using hp) _ _
  have hafter := due_record hn hlive hother hdue hmatched
  have hnoted : ∀ x ∈ live, wasRecorded (past ++ [m]) x = true
      ↔ wasRecorded past x = true ∨ x = e.script := by
    intro x hx
    rw [wasRecorded_append, Bool.or_eq_true, hm, notes_iff_eq hn hlive hx]
  refine ⟨fun x hx => ?_, fun x hx => ?_, fun x hx => ?_⟩
  · rw [hafter x hx, h x hx, ← Bool.not_eq_true, ← Bool.not_eq_true, hnoted x hx, not_or,
      and_assoc]
  · by_cases hxe : x = e.script
    · exact Or.inl (hxe ▸ hmatched)
    · refine (hready x hx).imp (fun hmatched => ?_) fun hdue => (hafter x hx).mpr ⟨hdue, hxe⟩
      rw [Matched, hother _ (path_ne_of_ne hn hlive hx hxe)]
      exact hmatched
  · rw [hnoted x hx, hdone x hx]
    simp [eq_comm]

end

/-! ## Looking after counters -/

/-- Looking after counters touches no stamp of a live path, and makes no record loose. -/
theorem Tidies.stamps {q : Request} (hq : Tidies (w.planFor live archived options s) q)
    (ha : (w.answer q u).2 = t) :
    (∀ x ∈ live, stampAt (w.view t) x.path = stampAt (w.view u) x.path)
      ∧ ∀ path hash, stampAt (w.view t) path = some (hash, .active) →
          stampAt (w.view u) path = some (hash, .active) := by
  have hdead : ∀ d ∈ (w.planFor live archived options s).dead, isLive live d.path = false := by
    intro d hd
    obtain ⟨r, hr, habsent⟩ := mem_dead_iff_view.mp (List.mem_map_of_mem hd)
    have hpath : r.path = d.path := w.path_of_view hr
    rw [← Bool.not_eq_true, ← hpath]
    exact fun hl => habsent (Or.inl hl)
  subst ha
  rcases w.view_answer q u with hsame | ⟨c, time, hc, hview⟩
  · rw [hsame]
    exact ⟨fun _ _ => rfl, fun _ _ h => h⟩
  cases hq with
  | @clear path hp =>
      obtain rfl := Option.some.inj hc
      -- A counter is no part of a stamp.
      have hall : ∀ p, stampAt (w.view (w.answer (.ledger (.change (.clearMissing path))) u).2) p
          = stampAt (w.view u) p := by
        rw [hview]
        exact stampAt_update_map (f := Record.cleared) (fun _ => rfl) (w.view u) path
      exact ⟨fun x _ => hall x.path, fun p hash h => (hall p).symm.trans h⟩
  | @count d hd =>
      obtain rfl := Option.some.inj hc
      have hall : ∀ p, stampAt (w.view (w.answer (.ledger (.countMissing d.path)) u).2) p
          = stampAt (w.view u) p := by
        rw [hview]
        exact stampAt_update_map (f := Record.counted) (fun _ => rfl) (w.view u) d.path
      exact ⟨fun x _ => hall x.path, fun p hash h => (hall p).symm.trans h⟩
  | @remove d hd =>
      obtain rfl := Option.some.inj hc
      have hother : ∀ p, p ≠ d.path →
          stampAt (w.view (w.answer (.ledger (.change (.remove d.path))) u).2) p
            = stampAt (w.view u) p := by
        intro p hp
        rw [hview]
        exact Change.stampAt_onto_of_notMem (by simpa [Change.paths] using hp) _ _
      refine ⟨fun x hx => hother _ (ne_path_of_live (hdead d hd) hx), fun p hash hstamp => ?_⟩
      by_cases hp : p = d.path
      · rw [hp, stampAt, hview, Change.onto_remove_self] at hstamp
        cases hstamp
      · rwa [← hother p hp]

/-- When all live scripts are matched, looking after counters makes none due. -/
theorem Resumable.tidy (h : Resumable w live archived options s past u)
    (hmatched : ∀ x ∈ live, Matched w u x) (hn : (live.map Script.path).Nodup)
    (hq : Tidies (w.planFor live archived options s) m.1) (ha : w.answer m.1 u = (m.2, t)) :
    Resumable w live archived options s (past ++ [m]) t ∧ ∀ x ∈ live, Matched w t x := by
  obtain ⟨hsame, hshrunk⟩ := hq.stamps (congrArg Prod.snd ha)
  have hdue : ∀ x ∈ live, Due (w.inputFor live archived options t) x
      ↔ Due (w.inputFor live archived options u) x :=
    due_of_shrunk hn (fun x hx => Or.inl (hmatched x hx)) hsame fun path hash _ =>
      hshrunk path hash
  have hquiet : ∀ x, notes x m = false := by
    intro x
    obtain ⟨q, reply⟩ := m
    cases hq <;> rfl
  refine ⟨fun x hx => ?_, fun x hx => ?_⟩
  · rw [hdue x hx, wasRecorded_of_not_notes hquiet]
    exact h x hx
  · rw [Matched, hsame x hx]
    exact hmatched x hx

/-! ## Whole runs -/

section

variable {before after : Phase}

/-- A turn keeps the position. -/
theorem Position.turn (h : Position w live archived options s before past u)
    (hresume : Resumable w live archived options s past u) (hn : (live.map Script.path).Nodup)
    (ho : options.redundancy = false)
    (ht : Turn (w.planFor live archived options s) before after) :
    Position w live archived options s after past u := by
  cases ht with
  | @skip e hc rest =>
      obtain ⟨done, hsplit, hdone⟩ := h
      exact ⟨done ++ [e], by simpa using hsplit, hdone.skip hresume hn ho hsplit hc⟩
  | settled =>
      obtain ⟨done, hsplit, hdone⟩ := h
      refine ⟨ready_of_archived hdone hsplit nofun, [], rfl, fun x _ => ?_⟩
      exact iff_of_false (Bool.eq_false_iff.mp (hdone.unrecorded x)) List.not_mem_nil
  | applied =>
      obtain ⟨hready, done, hsplit, hdone⟩ := h
      -- A script that is still due would be pending and not recorded.
      refine fun x hx => (hready x hx).resolve_right fun hdue => ?_
      obtain ⟨hbefore, hunrecorded⟩ := (hresume x hx).mp hdue
      obtain ⟨e, he, rfl⟩ := exists_entry_of_live hx
      have hp := (due_iff_pending hn ho he).mp hbefore
      have hmem : e ∈ done := by
        rw [← List.append_nil done, ← hsplit]
        exact mem_pending_iff.mpr ⟨he, hp⟩
      exact Bool.eq_false_iff.mp hunrecorded ((hdone _ hx).mpr (List.mem_map_of_mem hmem))

/-- A step keeps the invariant and the position. -/
theorem Position.step (h : Position w live archived options s before past u)
    (hresume : Resumable w live archived options s past u) (hn : (live.map Script.path).Nodup)
    (ho : options.redundancy = false)
    (hs : Step (w.planFor live archived options s) before m after)
    (ha : w.answer m.1 u = (m.2, t)) :
    Resumable w live archived options s (past ++ [m]) t
      ∧ Position w live archived options s after (past ++ [m]) t := by
  cases hs with
  | report phase line =>
      have hrecords := records_of_quiet ha rfl
      exact ⟨hresume.quiet hrecords fun _ => rfl, h.quiet hrecords fun _ => rfl⟩
  | clock phase time =>
      have hrecords := records_of_quiet ha rfl
      exact ⟨hresume.quiet hrecords fun _ => rfl, h.quiet hrecords fun _ => rfl⟩
  | @settle e c hc rest =>
      obtain ⟨done, hsplit, hdone⟩ := h
      obtain ⟨time, hview⟩ := change_ok ha
      obtain ⟨hown, hdue⟩ := hdone.due hn hsplit hresume ho hc hview
      have hquiet : ∀ x, notes x ⟨.ledger (.change c), .ok ()⟩ = false := by
        intro x
        rcases ledgerChange_cases hc with ⟨old, -, rfl⟩ | ⟨-, rfl⟩ | ⟨record, -, rfl⟩ <;> rfl
      refine ⟨fun x hx => ?_, done ++ [e], by simpa using hsplit,
        hdone.settle hn hsplit hc hview hdue hown hquiet⟩
      rw [hdue x hx, wasRecorded_of_not_notes hquiet]
      exact hresume x hx
  | @refuse e c hc rest error =>
      refine ⟨hresume.quiet (records_of_failed ha) fun x => ?_, trivial⟩
      rcases ledgerChange_cases hc with ⟨old, -, rfl⟩ | ⟨-, rfl⟩ | ⟨record, -, rfl⟩ <;> rfl
  | run e rest =>
      have hrecords := records_of_quiet ha rfl
      obtain ⟨hready, done, hsplit, hdone⟩ := h
      refine ⟨hresume.quiet hrecords fun _ => rfl, hready.quiet hrecords, done, hsplit,
        fun x hx => ?_⟩
      rw [wasRecorded_of_not_notes fun _ => rfl]
      exact hdone x hx
  | fail e rest hf => exact ⟨hresume.quiet (records_of_quiet ha rfl) fun _ => rfl, trivial⟩
  | record e rest speed =>
      obtain ⟨hready, done, hsplit, hdone⟩ := h
      obtain ⟨time, hview⟩ := change_ok ha
      obtain ⟨hresume', hready', hdone'⟩ :=
        hresume.record hn hready ho hsplit hdone hview rfl
      exact ⟨hresume', hready', done ++ [e], by simpa using hsplit, hdone'⟩
  | lose e rest speed error =>
      exact ⟨hresume.quiet (records_of_failed ha) fun _ => rfl, trivial⟩
  | tidy hq => exact hresume.tidy h hn hq ha
  | leave hq => exact ⟨(hresume.tidy h hn hq ha).1, trivial⟩

/-- The invariant and the position hold wherever a run has come. -/
theorem Course.resumable {phase : Phase} (hn : (live.map Script.path).Nodup)
    (ho : options.redundancy = false)
    (h : Course w (w.planFor live archived options s) s phase past u) :
    Resumable w live archived options s past u
      ∧ Position w live archived options s phase past u := by
  induction h with
  | start =>
      refine ⟨fun x _ => (and_iff_left rfl).symm, [], rfl, fun q _ => rfl, ?_, fun _ => rfl⟩
      exact fun e he => nomatch he
  | turn _ ht ih => exact ⟨ih.1, ih.2.turn ih.1 hn ho ht⟩
  | step _ hs ha ih => exact ih.2.step ih.1 hn ho hs ha

end

/-- Without redundancy, a run that is interrupted at any moment is resumed where it stopped:
    the next plan runs the scripts of the first that were not recorded, in the same order. -/
theorem interrupted_run_resumes (hn : (live.map Script.path).Nodup)
    (ho : options.redundancy = false) {before after : List (Exchange interface × σ)}
    (h : (apply (w.planFor live archived options s) options).run.trail w.answer s
      = before ++ after) :
    (w.planFor live archived options (reached s before)).pending.map PlannedFile.script
      = ((w.planFor live archived options s).pending.map PlannedFile.script).filter
          fun x => !wasRecorded (before.map Prod.fst) x := by
  classical
  obtain ⟨phase, hcourse⟩ := course_of_moment h
  obtain ⟨hresume, -⟩ := hcourse.resumable hn ho
  have hpending : ∀ u, (w.planFor live archived options u).pending.map PlannedFile.script = _ :=
    fun u => pending_scripts (w.listing_unique u) hn ho
  rw [hpending, hpending, List.filter_filter]
  refine List.filter_congr fun x hx => ?_
  rw [Bool.eq_iff_iff, decide_eq_true_eq, hresume x (mem_byPath.mp hx)]
  simp [and_comm]

/-- Two copies of a moved file, a new file, and a changed one. -/
def halfWay : List Script :=
  [Bench.live "a.sql" "moved", Bench.live "b.sql" "moved", Bench.live "c.sql" "new",
    Bench.live "d.sql" "second"]

/-- The new file fails. -/
def halfWayBench : Bench :=
  ⟨[], [⟨"/updates/c.sql"⟩],
    [Bench.applied "d.sql" "first", Bench.applied "old.sql" "moved"], by decide⟩

/-- Every script is run, if no record is moved to it. -/
def everyScript : Options := ⟨false, true, false, 3⟩

/-- The record is moved to the first copy, the second copy is run and recorded, and the next
    plan starts with the file that failed. -/
theorem interrupted_run_resumes_halfWay :
    let p := Bench.surroundings.planFor halfWay [] everyScript halfWayBench
    let trail := (apply p everyScript).run.trail Bench.answer halfWayBench
    p.pending.map PlannedFile.script = halfWay.tail
      ∧ (Bench.surroundings.planFor halfWay [] everyScript
          (reached halfWayBench trail)).pending.map PlannedFile.script = halfWay.tail.tail := by
  have hn : (halfWay.map Script.path).Nodup := by decide
  refine ⟨by cbv, ?_⟩
  exact (interrupted_run_resumes hn rfl (List.append_nil _).symm).trans (by cbv)

end SchemaMigration.Update
