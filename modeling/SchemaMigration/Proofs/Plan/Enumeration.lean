import SchemaMigration.Proofs.Plan.Demotion
import SchemaMigration.Proofs.Plan.PathOrder

/-! # Enumeration — plans do not depend on the order of what is listed

    A directory and a ledger are listed in some order.  The order of the files is of no
    account, since a plan puts them in path order and otherwise looks up nothing but
    paths and contents (`LooksLike.build_eq`).  The order of the records decides which of
    them goes to which script.  But whether a script gets one is a matter of counting:

    * `free?_carriedAfter_eq`: a script gets the loose record whose number is that of the
      scripts before it that need one;
    * `label_liveVerdict_eq`, `label_archivedVerdict_eq`: so its label stays if the records
      are listed in another order;
    * `plan_unordered`: all labels stay, and the scripts that are run. -/

namespace SchemaMigration.Plan

open Ledger

variable {input a b : Input} {taken : List String} {s : Script} {l : List Script} {hash : String}

/-! ## Permuted lists -/

theorem isLive_congr {l₁ l₂ : List Script} (h : l₁.Perm l₂) (path : String) :
    isLive l₁ path = isLive l₂ path := by
  rw [Bool.eq_iff_iff, isLive_iff, isLive_iff]
  simp only [h.mem_iff]

/-- Where no two records share a path, looking one up does not depend on their order. -/
theorem recordAt?_congr {r₁ r₂ : List Record} (hn : (r₂.map Record.path).Nodup)
    (h : r₁.Perm r₂) (path : String) : recordAt? r₁ path = recordAt? r₂ path := by
  have hn₁ : (r₁.map Record.path).Nodup := (h.map Record.path).nodup_iff.mpr hn
  rw [recordAt?_eq_viewOf hn₁, recordAt?_eq_viewOf hn]
  cases hv : viewOf r₂ path with
  | none =>
      rw [viewOf_eq_none_iff] at hv ⊢
      exact fun r hr => hv r (h.mem_iff.mp hr)
  | some r =>
      have hmem : r ∈ r₁ := h.mem_iff.mpr (mem_of_viewOf hv)
      rw [← path_of_viewOf hv]
      exact viewOf_of_mem hn₁ hmem

/-! ## Inputs that look alike -/

/-- The records that are taken when all files have been looked at. -/
def takenAtEnd (input : Input) : List String :=
  (planArchived input (carriedAfter input (byPath input.live)).taken (byPath input.archived)).2

theorem dead_build (input : Input) : (build input).dead =
    (input.records.filter fun r => !isPresent input (takenAtEnd input) r).map fun r =>
      ⟨r.path, r.missingRuns⟩ := rfl

theorem recovered_build (input : Input) : (build input).recovered =
    (input.records.filter fun r =>
      isPresent input (takenAtEnd input) r && decide (0 < r.missingRuns)).map Record.path := rfl

/-- No decision tells the inputs apart: they have the same records and options, and the
    same records have live paths. -/
structure LooksLike (a b : Input) : Prop where
  records : b.records = a.records
  options : b.options = a.options
  live : ∀ r ∈ a.records, isLive b.live r.path = isLive a.live r.path

namespace LooksLike

variable (h : LooksLike a b)

include h

/-- Inputs that look alike have the same loose records. -/
theorem loose_eq (hash : String) : loose b hash = loose a hash := by
  rw [loose, loose, h.records]
  refine List.filter_congr fun r hr => ?_
  rw [h.live r (mem_activeWith.mp hr).1]

/-- Inputs that look alike hand out the same loose record, whatever is taken. -/
theorem free?_eq (taken : List String) (hash : String) :
    free? b taken hash = free? a taken hash := by
  rw [free?_eq_head?, free?_eq_head?, untaken, untaken, h.loose_eq]

theorem firstVerdict_eq (taken : List String) (s : Script) :
    firstVerdict b taken s = firstVerdict a taken s := by
  rw [firstVerdict, firstVerdict, unrecorded, unrecorded, h.free?_eq, h.records, h.options]

theorem liveVerdict_eq (c : Carried) (s : Script) : liveVerdict b c s = liveVerdict a c s := by
  rw [liveVerdict, liveVerdict, h.firstVerdict_eq, h.options]

/-- Inputs that look alike give every list of live scripts the same verdicts. -/
theorem planLive_eq (c : Carried) (l : List Script) : planLive b c l = planLive a c l := by
  induction l generalizing c with
  | nil => rfl
  | cons s rest ih => rw [planLive_cons, planLive_cons, h.liveVerdict_eq, ih]

theorem archivedVerdict_eq (taken : List String) (s : Script) :
    archivedVerdict b taken s = archivedVerdict a taken s := by
  rw [archivedVerdict, archivedVerdict, h.free?_eq, h.options]

/-- Inputs that look alike give every list of archived scripts the same verdicts. -/
theorem planArchived_eq (taken : List String) (l : List Script) :
    planArchived b taken l = planArchived a taken l := by
  induction l generalizing taken with
  | nil => rfl
  | cons s rest ih => rw [planArchived_cons, planArchived_cons, h.archivedVerdict_eq, ih]

/-- With the same archived files, the same records have a file. -/
theorem isPresent_eq (ha : b.archived.Perm a.archived) (taken : List String) {r : Record}
    (hr : r ∈ a.records) : isPresent b taken r = isPresent a taken r := by
  have hany : (b.archived.any fun s => s.hash = r.hash)
      = a.archived.any fun s => s.hash = r.hash := by
    rw [Bool.eq_iff_iff, List.any_eq_true, List.any_eq_true]
    simp only [ha.mem_iff]
  rw [isPresent, isPresent, h.live r hr, isLive_congr ha, hany]

/-- The dead references are the same, if the same records are taken in the end. -/
theorem dead_eq (ha : b.archived.Perm a.archived) (ht : takenAtEnd b = takenAtEnd a) :
    (build b).dead = (build a).dead := by
  rw [dead_build, dead_build, h.records, ht]
  refine congrArg _ (List.filter_congr fun r hr => ?_)
  rw [h.isPresent_eq ha _ hr]

/-- The recovered records are the same, if the same records are taken in the end. -/
theorem recovered_eq (ha : b.archived.Perm a.archived) (ht : takenAtEnd b = takenAtEnd a) :
    (build b).recovered = (build a).recovered := by
  rw [recovered_build, recovered_build, h.records, ht]
  refine congrArg _ (List.filter_congr fun r hr => ?_)
  rw [h.isPresent_eq ha _ hr]

/-- Where the live scripts leave the same records taken, the archived ones are decided on
    alike, and the same records are dead and recovered. -/
theorem archivedEntries_eq (ha : byPath b.archived = byPath a.archived)
    (ht : (carriedAfter b (byPath b.live)).taken = (carriedAfter a (byPath a.live)).taken) :
    archivedEntries b = archivedEntries a ∧ takenAtEnd b = takenAtEnd a := by
  rw [archivedEntries, archivedEntries, takenAtEnd, takenAtEnd, ht, ha, h.planArchived_eq]
  exact ⟨rfl, rfl⟩

/-- Inputs that look alike and list the same files have the same plan. -/
theorem build_eq (hl : b.live.Perm a.live) (hnl : (a.live.map Script.path).Nodup)
    (ha : b.archived.Perm a.archived) (hna : (a.archived.map Script.path).Nodup) :
    build b = build a := by
  have hplanned : planLive b ⟨[], []⟩ (byPath b.live) = planLive a ⟨[], []⟩ (byPath a.live) := by
    rw [byPath_congr hnl hl, h.planLive_eq]
  have hlive : liveEntries b = liveEntries a := congrArg Prod.fst hplanned
  have htaken : (carriedAfter b (byPath b.live)).taken = (carriedAfter a (byPath a.live)).taken :=
    congrArg (fun planned => planned.2.taken) hplanned
  obtain ⟨harchived, hend⟩ := h.archivedEntries_eq (byPath_congr hna ha) htaken
  have hentries : (build b).entries = (build a).entries := by
    rw [entries_build, entries_build, hlive, harchived]
  show (⟨(build b).entries, (build b).dead, (build b).recovered⟩ : Plan) = _
  rw [hentries, h.dead_eq ha hend, h.recovered_eq ha hend]

end LooksLike

/-! ## Counting records -/

/-- The record that is free after some scripts has the number of those that had to be
    given one. -/
theorem free?_carriedAfter_eq (hn : (input.records.map Record.path).Nodup) (l : List Script)
    (hash : String) :
    free? input (carriedAfter input l).taken hash
      = (loose input hash)[if input.options.allowRehash then (homeless input hash l).length
          else 0]? := by
  cases ha : input.options.allowRehash with
  | true =>
      rw [if_pos rfl]
      exact free?_carriedAfter hn ha l hash
  | false =>
      rw [if_neg Bool.false_ne_true, taken_carriedAfter_eq_nil ha, free?_eq_head?, untaken,
        ← List.head?_eq_getElem?]
      simp

/-- The inputs list the same files and records, in some order. -/
structure Rearranged (a b : Input) : Prop where
  live : b.live.Perm a.live
  archived : b.archived.Perm a.archived
  records : b.records.Perm a.records
  options : b.options = a.options

namespace Rearranged

variable (h : Rearranged a b) (hn : (a.records.map Record.path).Nodup)

include h

/-- If the records are listed in the same order, no decision tells the inputs apart. -/
theorem looksLike (hr : b.records = a.records) : LooksLike a b :=
  ⟨hr, h.options, fun r _ => isLive_congr h.live r.path⟩

theorem activeWith_perm (hash : String) :
    (activeWith b.records hash).Perm (activeWith a.records hash) := h.records.filter _

theorem activeWith_eq_nil_iff {hash : String} :
    activeWith b.records hash = [] ↔ activeWith a.records hash = [] := by
  rw [← List.length_eq_zero_iff, (h.activeWith_perm hash).length_eq, List.length_eq_zero_iff]

theorem loose_perm (hash : String) : (loose b hash).Perm (loose a hash) := by
  rw [loose, loose, funext fun r : Record => congrArg not (isLive_congr h.live r.path)]
  exact (h.activeWith_perm hash).filter _

/-- As many records can be shelved, whichever they are. -/
theorem shelvable_length (hash : String) :
    (shelvable b hash).length = (shelvable a hash).length := by
  rw [shelvable, shelvable, h.options]
  split
  · exact (h.loose_perm hash).length_eq
  · rfl

/-- As many records can be moved to live scripts, whichever they are. -/
theorem movable_length (hash : String) : (movable b hash).length = (movable a hash).length := by
  rw [movable, movable, h.options]
  split
  · exact (h.loose_perm hash).length_eq
  · rfl

include hn

theorem records_nodup : (b.records.map Record.path).Nodup :=
  (h.records.map Record.path).nodup_iff.mpr hn

theorem homeless_eq (hash : String) (l : List Script) : homeless b hash l = homeless a hash l := by
  refine List.filter_congr fun s _ => ?_
  rw [recordAt?_congr hn h.records]

/-- As many records are moved for each content, though perhaps not the same ones. -/
theorem moves_length (hl : (a.live.map Script.path).Nodup) (hash : String) :
    (moves b hash).length = (moves a hash).length := by
  rw [moves, moves, List.length_zipWith, List.length_zipWith, h.movable_length,
    byPath_congr hl h.live, h.homeless_eq hn]

/-- The same scripts find a record that is free. -/
theorem isSome_free? (l : List Script) (hash : String) :
    (free? b (carriedAfter b l).taken hash).isSome
      = (free? a (carriedAfter a l).taken hash).isSome := by
  rw [free?_carriedAfter_eq (h.records_nodup hn), free?_carriedAfter_eq hn, h.options,
    h.homeless_eq hn, Bool.eq_iff_iff, isSome_getElem?, isSome_getElem?,
    (h.loose_perm hash).length_eq]

/-- A script is a candidate for being run under the same conditions. -/
theorem candidacy?_eq (s : Script) : candidacy? b s = candidacy? a s := by
  have hloose : loose b s.hash ≠ [] ↔ loose a s.hash ≠ [] := by
    rw [ne_eq, ← List.length_eq_zero_iff, (h.loose_perm s.hash).length_eq,
      List.length_eq_zero_iff]
  rw [candidacy?, candidacy?, recordAt?_congr hn h.records, h.options]
  simp only [h.activeWith_eq_nil_iff, hloose]

end Rearranged

/-! ## Labels -/

/-- The label says whether the file is run. -/
theorem isPending_eq_mem_label (v : Verdict) :
    v.isPending = decide (v.label ∈ ["new", "changed", "rename-rerun", "duplicate-rerun"]) := by
  cases v with
  | pending reason => cases reason <;> rfl
  | _ => rfl

theorem isPending_eq_of_label {v w : Verdict} (h : v.label = w.label) :
    v.isPending = w.isPending := by
  rw [isPending_eq_mem_label, isPending_eq_mem_label, h]

/-- The label of a script without a record. -/
theorem label_unrecorded (input : Input) (taken : List String) (s : Script) :
    (unrecorded input taken s).label
      = if activeWith input.records s.hash = [] then "new"
        else if (free? input taken s.hash).isSome then
          if input.options.allowRehash then "renamed" else "rename-rerun"
        else if input.options.redundancy then "redundant" else "duplicate-rerun" := by
  rw [unrecorded]
  cases activeWith input.records s.hash with
  | nil => rfl
  | cons kept rest =>
      cases free? input taken s.hash with
      | none => cases input.options.redundancy <;> rfl
      | some r => cases input.options.allowRehash <;> rfl

/-- A live script gives way if it asks to be run, duplicates are skipped, and one with its
    content is run already. -/
theorem label_liveVerdict (input : Input) (c : Carried) (s : Script) :
    (liveVerdict input c s).label
      = if (firstVerdict input c.taken s).isPending ∧ input.options.redundancy
          ∧ (c.firstPending.lookup s.hash).isSome then "redundant"
        else (firstVerdict input c.taken s).label := by
  rcases liveVerdict_cases input c s with ⟨heq, hnone⟩ | ⟨hp, ho, first, hlookup, heq⟩
  · rw [heq, if_neg]
    rintro ⟨hp, ho, hsome⟩
    rw [hnone hp ho] at hsome
    exact nomatch hsome
  · rw [heq, if_pos ⟨hp, ho, by rw [hlookup]; rfl⟩]
    rfl

/-- The label of an archived file says whether a record is free for it. -/
theorem label_shelfAt (input : Input) (hash : String) (n : Nat) :
    (shelfAt input hash n).label
      = if n < (shelvable input hash).length then "archived-redundant" else "archived" := by
  rw [shelfAt]
  by_cases hn : n < (shelvable input hash).length
  · rw [if_pos hn, List.getElem?_eq_getElem hn]
    rfl
  · rw [if_neg hn, List.getElem?_eq_none (Nat.le_of_not_lt hn)]
    rfl

namespace Rearranged

variable (h : Rearranged a b) (hn : (a.records.map Record.path).Nodup)

include h hn

/-- Before demotion, a live script gets the same label behind the same scripts. -/
theorem label_firstVerdict_eq (l : List Script) (s : Script) :
    (firstVerdict b (carriedAfter b l).taken s).label
      = (firstVerdict a (carriedAfter a l).taken s).label := by
  have hrecord := recordAt?_congr hn h.records s.path
  -- The record that a script gets may be another one; that it gets one is a matter of counting.
  cases hr : recordAt? a.records s.path with
  | some r => rw [firstVerdict, firstVerdict, hrecord, hr, h.options]
  | none =>
      rw [firstVerdict_of_none hr, firstVerdict_of_none (hrecord.trans hr), label_unrecorded,
        label_unrecorded, h.isSome_free? hn, h.options]
      simp only [h.activeWith_eq_nil_iff]

/-- A live script keeps its label if the records are listed in another order. -/
theorem label_liveVerdict_eq (l : List Script) (s : Script) :
    (liveVerdict b (carriedAfter b l) s).label = (liveVerdict a (carriedAfter a l) s).label := by
  have hfirst := h.label_firstVerdict_eq hn l s
  have hcandidates : candidates b s.hash l = candidates a s.hash l :=
    List.filter_congr fun x _ => by rw [h.candidacy?_eq hn]
  rw [label_liveVerdict, label_liveVerdict, isPending_eq_of_label hfirst, hfirst, h.options]
  cases ho : a.options.redundancy with
  | false => simp
  | true =>
      rw [lookup_firstPending_eq (h.options ▸ ho), lookup_firstPending_eq ho, hcandidates]

/-- An archived file keeps its label if the records are listed in another order. -/
theorem label_archivedVerdict_eq (hl : (a.live.map Script.path).Nodup) (l : List Script)
    (s : Script) :
    (archivedVerdict b (planArchived b (carriedAfter b (byPath b.live)).taken l).2 s).label
      = (archivedVerdict a (planArchived a (carriedAfter a (byPath a.live)).taken l).2 s).label := by
  rw [archivedVerdict_eq_shelfAt (h.records_nodup hn) (untaken_live (h.records_nodup hn)),
    archivedVerdict_eq_shelfAt hn (untaken_live hn), label_shelfAt, label_shelfAt,
    h.shelvable_length, h.moves_length hn hl]

end Rearranged

/-! ## Plans -/

/-- A file with the label of its decision. -/
def labelled (e : PlannedFile) : Script × String := (e.script, e.verdict.label)

/-- The files of a plan with their labels, in order. -/
def outline (p : Plan) : List (Script × String) := p.entries.map labelled

/-- The files that a plan runs can be told from the labels. -/
theorem pending_eq_of_outline {p q : Plan} (h : outline p = outline q) :
    p.pending.map PlannedFile.script = q.pending.map PlannedFile.script := by
  have hpending : ∀ p : Plan, p.pending.map PlannedFile.script
      = ((outline p).filter fun x => decide (x.2 ∈ ["new", "changed", "rename-rerun",
          "duplicate-rerun"])).map Prod.fst := fun p => by
    rw [outline, List.filter_map, List.map_map]
    refine congrArg _ (List.filter_congr fun e _ => ?_)
    exact isPending_eq_mem_label e.verdict
  rw [hpending, hpending, h]

namespace Rearranged

variable (h : Rearranged a b) (hn : (a.records.map Record.path).Nodup)

include h hn

/-- All live scripts keep their labels when files and records are listed in another order. -/
theorem labelled_planLive (l : List Script) :
    (planLive b ⟨[], []⟩ l).1.map labelled = (planLive a ⟨[], []⟩ l).1.map labelled := by
  -- Induction from the back: the last script is decided from what the others leave.
  induction l using List.reverseRecOn with
  | nil => rfl
  | append_singleton l s ih =>
      rw [planLive_append, planLive_append, List.map_append, List.map_append, ih]
      refine congrArg _ (congrArg (fun label => [(s, label)]) ?_)
      exact h.label_liveVerdict_eq hn l s

/-- All archived scripts keep theirs, behind the live ones. -/
theorem labelled_planArchived (hl : (a.live.map Script.path).Nodup) (l : List Script) :
    (planArchived b (carriedAfter b (byPath b.live)).taken l).1.map labelled
      = (planArchived a (carriedAfter a (byPath a.live)).taken l).1.map labelled := by
  -- Again from the back, since a label depends on the scripts before it only.
  induction l using List.reverseRecOn with
  | nil => rfl
  | append_singleton l s ih =>
      rw [planArchived_append, planArchived_append, List.map_append, List.map_append, ih]
      refine congrArg _ (congrArg (fun label => [(s, label)]) ?_)
      exact h.label_archivedVerdict_eq hn hl l s

/-- All labels stay. -/
theorem outline_eq (hl : (a.live.map Script.path).Nodup)
    (ha : (a.archived.map Script.path).Nodup) : outline (build b) = outline (build a) := by
  have hlive : (liveEntries b).map labelled = (liveEntries a).map labelled := by
    rw [liveEntries, byPath_congr hl h.live]
    exact h.labelled_planLive hn _
  have harchived : (archivedEntries b).map labelled = (archivedEntries a).map labelled := by
    rw [archivedEntries, byPath_congr ha h.archived]
    exact h.labelled_planArchived hn hl _
  rw [outline, outline, entries_build, entries_build, List.map_append, List.map_append, hlive,
    harchived]

end Rearranged

/-- The order in which files are listed makes no difference to a plan; the order in which
    records are listed makes none to the labels of its files, nor to the scripts that are run
    and their order. -/
theorem plan_unordered {a b : Input} (h : Rearranged a b)
    (hn : (a.records.map Record.path).Nodup) (hl : (a.live.map Script.path).Nodup)
    (ha : (a.archived.map Script.path).Nodup) :
    (b.records = a.records → build b = build a)
      ∧ outline (build b) = outline (build a)
      ∧ (build b).pending.map PlannedFile.script = (build a).pending.map PlannedFile.script := by
  have houtline := h.outline_eq hn hl ha
  refine ⟨fun hr => ?_, houtline, pending_eq_of_outline houtline⟩
  exact (h.looksLike hr).build_eq h.live hl h.archived ha

/-- The files and records of `shuffled` in other orders. -/
def reshuffled : Input where
  live := [found "a" "x" .updates, found "b" "x" .updates, found "c" "y" .updates,
    found "d" "x" .updates]
  archived := [found "p" "x" .archived, found "q" "x" .archived]
  records := [recorded "gone 4" "x", recorded "gone 2" "y", recorded "gone 3" "x",
    recorded "b" "x", recorded "gone 1" "x"]
  options := shuffled.options

/-- The same scripts get a record, although they get other ones. -/
theorem plan_unordered_shuffled :
    Rearranged shuffled reshuffled ∧ outline (build reshuffled) = outline (build shuffled)
      ∧ liveEntries shuffled
        = [⟨found "a" "x" .updates, .renamed "gone 1"⟩, ⟨found "b" "x" .updates, .applied⟩,
            ⟨found "c" "y" .updates, .renamed "gone 2"⟩,
            ⟨found "d" "x" .updates, .renamed "gone 3"⟩]
      ∧ liveEntries reshuffled
        = [⟨found "a" "x" .updates, .renamed "gone 4"⟩, ⟨found "b" "x" .updates, .applied⟩,
            ⟨found "c" "y" .updates, .renamed "gone 2"⟩,
            ⟨found "d" "x" .updates, .renamed "gone 3"⟩] := by
  have h : Rearranged shuffled reshuffled := ⟨by decide, by decide, by decide, rfl⟩
  obtain ⟨-, houtline, -⟩ := plan_unordered h (by decide) (by decide) (by decide)
  have horder : byPath shuffled.live = reshuffled.live := by cbv
  have horder' : byPath reshuffled.live = reshuffled.live := by cbv
  refine ⟨h, houtline, ?_, ?_⟩
  · rw [liveEntries, horder]
    rfl
  · rw [liveEntries, horder']
    rfl

end SchemaMigration.Plan
