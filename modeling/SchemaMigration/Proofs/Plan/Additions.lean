import SchemaMigration.Proofs.Plan.Enumeration

/-! # Additions — a new update changes no other decision

    A live script whose path and content nobody has seen takes part in everything that a
    plan carries along: its path counts as live, and its content as pending.  Neither is
    of interest to another file:

    * `BrandNew.looksLike`: no record has its path, so all records stand as before;
    * `AgreeBut.planLive`: what is carried differs in its content only, which no other
      script has;
    * `addition_isolated`: the plan has one more entry, and is the same otherwise. -/

namespace SchemaMigration.Plan

open Ledger

variable {input : Input} {s x : Script} {more l : List Script} {c c' : Carried} {hash : String}

/-- Nothing is known of the script: neither its path nor its content. -/
structure BrandNew (input : Input) (s : Script) : Prop where
  unrecorded : ∀ r ∈ input.records, r.path ≠ s.path
  unlisted : ∀ x ∈ input.live, x.path ≠ s.path
  unseen : ∀ x ∈ input.live, x.hash ≠ s.hash
  unapplied : ∀ r ∈ input.records, r.state = .active → r.hash ≠ s.hash

namespace BrandNew

/-- The path of the script is not that of a record, so no decision looks for it. -/
theorem looksLike (hs : BrandNew input s) (hm : more.Perm (s :: input.live)) :
    LooksLike input { input with live := more } where
  records := rfl
  options := rfl
  live := fun r hr => by
    show isLive more r.path = isLive input.live r.path
    rw [isLive_congr hm, isLive, isLive, List.any_cons,
      decide_eq_false (Ne.symm (hs.unrecorded r hr)), Bool.false_or]

theorem paths_nodup (hs : BrandNew input s) (hl : (input.live.map Script.path).Nodup) :
    ((s :: input.live).map Script.path).Nodup := by
  rw [List.map_cons, List.nodup_cons]
  refine ⟨fun hmem => ?_, hl⟩
  obtain ⟨x, hx, hpath⟩ := List.mem_map.mp hmem
  exact hs.unlisted x hx hpath

/-- The script asks to be run as a new one, whatever is taken. -/
theorem firstVerdict_eq (hs : BrandNew input s) (taken : List String) :
    firstVerdict input taken s = .pending .new := by
  have hrecord : recordAt? input.records s.path = none :=
    List.find?_eq_none.mpr fun r hr =>
      by simpa using hs.unrecorded r (List.mem_reverse.mp hr)
  have hactive : activeWith input.records s.hash = [] :=
    List.eq_nil_iff_forall_not_mem.mpr fun r hr => by
      obtain ⟨hmem, hstate, -, hhash⟩ := mem_activeWith.mp hr
      exact hs.unapplied r hmem hstate hhash
  rw [firstVerdict_of_none hrecord, Plan.unrecorded, hactive]

/-- It is run if no script with its content is. -/
theorem liveVerdict_eq (hs : BrandNew input s) (hc : c.firstPending.lookup s.hash = none) :
    liveVerdict input c s = .pending .new := by
  rcases liveVerdict_cases input c s with ⟨heq, -⟩ | ⟨-, -, first, hlookup, -⟩
  · rw [heq, hs.firstVerdict_eq]
  · cases hc.symm.trans hlookup

end BrandNew

/-! ## Contents that a script does not have -/

/-- A script is remembered for its own content only. -/
theorem lookup_after_of_ne (hne : x.hash ≠ hash) (v : Verdict) :
    (c.after x v).firstPending.lookup hash = c.firstPending.lookup hash := by
  cases v with
  | pending reason =>
      rw [Carried.after]
      cases c.firstPending.lookup x.hash with
      | some first => rfl
      | none => rw [List.lookup_cons, beq_false_of_ne hne.symm]
  | _ => rfl

/-- Scripts with other contents do not change which one is first with this content. -/
theorem lookup_planLive_of_ne (hne : ∀ x ∈ l, x.hash ≠ hash) :
    (planLive input c l).2.firstPending.lookup hash = c.firstPending.lookup hash := by
  induction l generalizing c with
  | nil => rfl
  | cons x rest ih =>
      rw [planLive_cons]
      obtain ⟨hx, hrest⟩ := List.forall_mem_cons.mp hne
      exact (ih hrest).trans (lookup_after_of_ne hx _)

/-- The same records are taken, and the same scripts are remembered, save for one content. -/
structure AgreeBut (hash : String) (c c' : Carried) : Prop where
  taken : c'.taken = c.taken
  lookup : ∀ other, other ≠ hash → c'.firstPending.lookup other = c.firstPending.lookup other

namespace AgreeBut

/-- A script that is run leaves a difference in its own content. -/
theorem of_pending (c : Carried) (s : Script) (reason : PendingReason) :
    AgreeBut s.hash c (c.after s (.pending reason)) where
  taken := by
    rw [Carried.after]
    cases c.firstPending.lookup s.hash <;> rfl
  lookup := fun _ hne => lookup_after_of_ne hne.symm _

theorem liveVerdict_eq (h : AgreeBut hash c c') (hx : x.hash ≠ hash) :
    liveVerdict input c' x = liveVerdict input c x := by
  rw [liveVerdict, liveVerdict, h.taken, h.lookup _ hx]

/-- A script with another content leaves no further difference. -/
theorem after (h : AgreeBut hash c c') (hx : x.hash ≠ hash) (v : Verdict) :
    AgreeBut hash (c.after x v) (c'.after x v) := by
  cases v with
  | renamed old => exact ⟨congrArg (List.cons old) h.taken, h.lookup⟩
  | pending reason =>
      rw [Carried.after, Carried.after, h.lookup _ hx]
      cases c.firstPending.lookup x.hash with
      | some first => exact h
      | none =>
          refine ⟨h.taken, fun other hother => ?_⟩
          rw [List.lookup_cons, List.lookup_cons, h.lookup other hother]
  | _ => exact h

/-- Scripts with other contents are decided alike, and leave no further difference. -/
theorem planLive (input : Input) (h : AgreeBut hash c c') (hne : ∀ x ∈ l, x.hash ≠ hash) :
    (planLive input c' l).1 = (planLive input c l).1
      ∧ AgreeBut hash (planLive input c l).2 (planLive input c' l).2 := by
  induction l generalizing c c' with
  | nil => exact ⟨rfl, h⟩
  | cons x rest ih =>
      obtain ⟨hx, hrest⟩ := List.forall_mem_cons.mp hne
      obtain ⟨hentries, hlast⟩ := ih (h.after hx (liveVerdict input c x)) hrest
      rw [planLive_cons, planLive_cons, h.liveVerdict_eq hx, hentries]
      exact ⟨rfl, hlast⟩

end AgreeBut

/-! ## One more script -/

/-- Between scripts that do not have its content, a new script gets an entry of its own, and
    nothing else is different. -/
theorem BrandNew.planLive_insert (hs : BrandNew input s) {l₁ l₂ : List Script}
    (h₁ : ∀ x ∈ l₁, x.hash ≠ s.hash) (h₂ : ∀ x ∈ l₂, x.hash ≠ s.hash) :
    (planLive input ⟨[], []⟩ (l₁ ++ s :: l₂)).1
        = (planLive input ⟨[], []⟩ l₁).1
          ++ ⟨s, .pending .new⟩ :: (planLive input (planLive input ⟨[], []⟩ l₁).2 l₂).1
      ∧ (planLive input ⟨[], []⟩ (l₁ ++ s :: l₂)).2.taken
        = (planLive input ⟨[], []⟩ (l₁ ++ l₂)).2.taken := by
  have hverdict : liveVerdict input (planLive input ⟨[], []⟩ l₁).2 s = .pending .new :=
    hs.liveVerdict_eq (lookup_planLive_of_ne h₁)
  have hrest := (AgreeBut.of_pending (planLive input ⟨[], []⟩ l₁).2 s .new).planLive input h₂
  rw [planLive_append, planLive_append, planLive_cons, hverdict]
  exact ⟨by rw [hrest.1], hrest.2.taken⟩

/-- A brand-new live script is run at its place in path order.  Every other file is decided
    on as without it, and the same records are dead and recovered. -/
theorem addition_isolated {input : Input} {s : Script} {more : List Script}
    (hl : (input.live.map Script.path).Nodup) (hs : BrandNew input s)
    (hm : more.Perm (s :: input.live)) :
    (∃ before after, (∀ e ∈ before, e.script.path < s.path)
        ∧ (∀ e ∈ after, s.path < e.script.path)
        ∧ (build input).entries = before ++ after ++ archivedEntries input
        ∧ (build { input with live := more }).entries
          = before ++ ⟨s, .pending .new⟩ :: after ++ archivedEntries input)
      ∧ (build { input with live := more }).dead = (build input).dead
      ∧ (build { input with live := more }).recovered = (build input).recovered := by
  have hlooks := hs.looksLike hm
  obtain ⟨l₁, l₂, hwithout, hwith, hsmaller, hlarger⟩ := byPath_split (hs.paths_nodup hl) hm
  have hunseen : ∀ x ∈ l₁ ++ l₂, x.hash ≠ s.hash := fun x hx =>
    hs.unseen x (mem_byPath.mp (hwithout ▸ hx))
  obtain ⟨hentries, htaken⟩ := hs.planLive_insert
    (fun x hx => hunseen x (List.mem_append_left _ hx))
    (fun x hx => hunseen x (List.mem_append_right _ hx))
  -- The archived files find the same records taken.
  obtain ⟨harchived, hend⟩ := hlooks.archivedEntries_eq rfl <| by
    show (planLive { input with live := more } ⟨[], []⟩ (byPath more)).2.taken
      = (planLive input ⟨[], []⟩ (byPath input.live)).2.taken
    rw [hlooks.planLive_eq, hwith, hwithout, htaken]
  have hscripts : ∀ c l e, e ∈ (planLive input c l).1 → e.script ∈ l := fun c l e he => by
    have := List.mem_map_of_mem (f := PlannedFile.script) he
    rwa [map_script_planLive] at this
  refine ⟨⟨(planLive input ⟨[], []⟩ l₁).1, (planLive input (planLive input ⟨[], []⟩ l₁).2 l₂).1,
    fun e he => hsmaller _ (hscripts _ _ _ he), fun e he => hlarger _ (hscripts _ _ _ he), ?_, ?_⟩,
    hlooks.dead_eq .rfl hend, hlooks.recovered_eq .rfl hend⟩
  · rw [entries_build, liveEntries, hwithout, planLive_append]
  · rw [entries_build, harchived, liveEntries, hlooks.planLive_eq]
    show (planLive input ⟨[], []⟩ (byPath more)).1 ++ _ = _
    rw [hwith, hentries]

/-- A new script between scripts that take records over is all that is run. -/
theorem addition_isolated_shuffled :
    (shuffled.live.map Script.path).Nodup ∧ BrandNew shuffled (found "bb" "z" .updates)
      ∧ (build { shuffled with live := shuffled.live ++ [found "bb" "z" .updates] }).dead
        = (build shuffled).dead
      ∧ (build { shuffled with live := shuffled.live ++ [found "bb" "z" .updates] }).pending
        = [⟨found "bb" "z" .updates, .pending .new⟩] := by
  have hl : (shuffled.live.map Script.path).Nodup := by decide
  have hs : BrandNew shuffled (found "bb" "z" .updates) :=
    ⟨by decide, by decide, by decide, by decide⟩
  obtain ⟨⟨before, after, -, -, hwithout, hwith⟩, hdead, -⟩ :=
    addition_isolated hl hs (List.perm_append_singleton _ _)
  have hnone : (build shuffled).pending = [] := by cbv
  rw [Plan.pending, hwithout, List.filter_append, List.filter_append, List.append_eq_nil_iff,
    List.append_eq_nil_iff] at hnone
  -- Nothing was pending without the new file, before its place or behind it.
  obtain ⟨⟨hbefore, hafter⟩, harchived⟩ := hnone
  refine ⟨hl, hs, hdead, ?_⟩
  rw [Plan.pending, hwith, List.filter_append, List.filter_append, hbefore, harchived,
    List.filter_cons_of_pos rfl, hafter]
  rfl

end SchemaMigration.Plan
