import Mathlib.Data.List.Pairwise
import Mathlib.Tactic.Set
import SchemaMigration.Fleet
import SchemaMigration.Proofs.Database.Kind
import SchemaMigration.Proofs.Preparation.Evidence

/-! # Gates — a fleet is prepared in order, each step after the one before

    Preparing several databases nests two kinds of gates: a database is touched only
    after all databases before it were prepared, and a step of one database is taken
    only after its earlier steps succeeded.

    * `inOrder_sorted`, `inOrder_perm`, `inOrder_stable`: the order of the kinds;
    * `prepareOne_gated`: the steps of one database, however it is answered;
    * `prepareEach` goes on after failures, and `prepareInOrder_stops` tells how far
      the real run follows it;
    * `prepare_gated` puts them together. -/

namespace SchemaMigration.Fleet

open Program Preparation

variable {σ : Type}

/-! ## One step after another -/

section

variable {I : Interface} {answer : (q : I.Request) → σ → I.Reply q × σ}

/-- A step behind a gate asks nothing unless the step before it succeeded. -/
theorem trail_gate (first second : Program I Bool) (s : σ) :
    (first.bind fun ok => if ok = true then second else .done false).trail answer s
      = first.trail answer s
        ++ if (first.run answer s).1 = true then second.trail answer (first.run answer s).2
          else [] := by
  rw [trail_bind]
  by_cases hok : (first.run answer s).1 = true
  · rw [if_pos hok, if_pos hok]
  · rw [if_neg hok, if_neg hok]
    rfl

/-- Two steps, one behind the other, succeed if both do. -/
theorem run_gate (first second : Program I Bool) (s : σ) :
    ((first.bind fun ok => if ok = true then second else .done false).run answer s).1
      = ((first.run answer s).1 && (second.run answer (first.run answer s).2).1) := by
  rw [run_bind]
  by_cases hok : (first.run answer s).1 = true
  · rw [if_pos hok, hok, Bool.true_and]
  · rw [if_neg hok, Bool.eq_false_of_not_eq_true hok]
    rfl

end

/-! ## One site of a fleet -/

/-- What one site of a fleet answers. -/
def answerAt (answer : (q : interface.Request) → σ → interface.Reply q × σ) (site : Nat) :
    (q : Site.Request) → σ → q.Reply × σ := fun q => answer ⟨site, q⟩

/-- An exchange with a site, as one of the fleet. -/
def lifted (site : Nat) (m : Exchange Site.interface × σ) : Exchange interface × σ :=
  (⟨⟨site, m.1.1⟩, m.1.2⟩, m.2)

variable {answer : (q : interface.Request) → σ → interface.Reply q × σ}

/-- At a site a program runs as it would alone, on the answers of that site. -/
theorem run_at {α : Type} (site : Nat) (p : Program Site.interface α) (s : σ) :
    (at_ site p).run answer s = p.run (answerAt answer site) s := by
  rw [at_, run_via]
  rfl

/-- What a program asks at one site is what it would ask alone, with the site's number added. -/
theorem trail_at {α : Type} (site : Nat) (p : Program Site.interface α) (s : σ) :
    (at_ site p).trail answer s = (p.trail (answerAt answer site) s).map (lifted site) := by
  induction p generalizing s with
  | done a => rfl
  | ask q next ih => exact congrArg _ (ih _ _)

/-! ## The order of the kinds -/

theorem kind_le_trans (a b c : Member) (hab : a.target.kind.le b.target.kind = true)
    (hbc : b.target.kind.le c.target.kind = true) : a.target.kind.le c.target.kind = true :=
  Kind.le_trans _ _ _ hab hbc

theorem kind_le_total (a b : Member) :
    (a.target.kind.le b.target.kind || b.target.kind.le a.target.kind) = true :=
  Kind.le_total _ _

/-- Putting the databases in order drops none and adds none. -/
theorem inOrder_perm (members : List Member) : (inOrder members).Perm members :=
  List.mergeSort_perm members _

/-- Kinds do not come before earlier ones. -/
theorem inOrder_sorted (members : List Member) :
    (inOrder members).Pairwise fun a b => a.target.kind.rank ≤ b.target.kind.rank :=
  (List.pairwise_mergeSort kind_le_trans kind_le_total members).imp of_decide_eq_true

/-- Members of one kind keep their order. -/
theorem inOrder_stable (members : List Member) (kind : Kind) :
    (inOrder members).filter (fun m => m.target.kind = kind)
      = members.filter fun m => m.target.kind = kind := by
  -- The members of one kind are in order already, so sorting does not move them apart.
  set same := members.filter fun m => m.target.kind = kind with hsame
  have hkind : ∀ m ∈ same, m.target.kind = kind := fun m hm => by
    simpa using (List.mem_filter.mp hm).2
  have hordered : same.Pairwise fun a b => a.target.kind.le b.target.kind = true :=
    List.pairwise_of_forall_mem_list fun a ha b hb => by
      rw [hkind a ha, hkind b hb, Kind.le, decide_eq_true_eq]
  have hsub : same.Sublist (inOrder members) :=
    List.sublist_mergeSort kind_le_trans kind_le_total hordered List.filter_sublist
  have hfiltered := hsub.filter fun m => decide (m.target.kind = kind)
  rw [List.filter_eq_self.mpr fun m hm => decide_eq_true (hkind m hm)] at hfiltered
  exact (hfiltered.eq_of_length ((inOrder_perm members).filter _).length_eq.symm).symm

/-! ## The steps of one database -/

section

variable (answer : (q : Site.Request) → σ → q.Reply × σ) (settings : Settings) (target : Target)
variable (s : σ)

/-- Whether the first step finds or makes the database, and the state after it. -/
def existing : Bool × σ := (ensureExists settings (preparation settings target)).run answer s

/-- Whether the second step populates the database, and the state after it. -/
def populated : Bool × σ :=
  (ensurePopulated settings (preparation settings target)).run answer
    (existing answer settings target s).2

/-- Whether the third step brings the database up to date, and the state after it. -/
def updated : Bool × σ :=
  (ensureUpdated settings (preparation settings target)).run answer
    (populated answer settings target s).2

/-- What the first step asks, and hears. -/
def existenceTrail : List (Exchange Site.interface × σ) :=
  (ensureExists settings (preparation settings target)).trail answer s

/-- What the second step asks, and hears. -/
def populationTrail : List (Exchange Site.interface × σ) :=
  (ensurePopulated settings (preparation settings target)).trail answer
    (existing answer settings target s).2

/-- What the third step asks, and hears. -/
def updateTrail : List (Exchange Site.interface × σ) :=
  (ensureUpdated settings (preparation settings target)).trail answer
    (populated answer settings target s).2

/-- Whether the mask selects the kind of a database. -/
def isSelected : Bool := (Policy.ofKind target.kind).isEnabled settings.updates.enabledKinds

/-- The preparation of one database goes through its gates. -/
structure Gated : Prop where
  /-- A database that the mask leaves out is reported, and not touched. -/
  skipped : isSelected settings target = false →
    ∃ line t, (prepareOne settings target).run answer s = (true, t)
      ∧ (prepareOne settings target).trail answer s = [(⟨.machine (.log line), ()⟩, t)]
  /-- A step is taken only after those before it succeeded. -/
  trail : isSelected settings target = true →
    (prepareOne settings target).trail answer s
      = existenceTrail answer settings target s
        ++ if (existing answer settings target s).1 = true then
            populationTrail answer settings target s
              ++ if (populated answer settings target s).1 = true then
                  updateTrail answer settings target s
                else []
          else []
  result : isSelected settings target = true →
    ((prepareOne settings target).run answer s).1
      = ((existing answer settings target s).1 && (populated answer settings target s).1
        && (updated answer settings target s).1)
  /-- The first step succeeds only where the database was found or, with automatic setup, its
      creation succeeded, and it runs only creation scripts, with automatic setup. -/
  opened : Opened (preparation settings target) settings.updates.autoSetup
    (existing answer settings target s).1 ((existenceTrail answer settings target s).map Prod.fst)
  /-- Without automatic setup nothing is populated, and this is no failure. -/
  unpopulated : settings.updates.autoSetup = false →
    populationTrail answer settings target s = []
      ∧ (populated answer settings target s).1 = true
  /-- With automatic setup it succeeds only where it has found tables, applied a baseline with
      status zero, or asked an operator who had none to apply. -/
  populates : settings.updates.autoSetup = true → Populates (preparation settings target)
    (populated answer settings target s).1 ((populationTrail answer settings target s).map Prod.fst)
  /-- The third step runs scripts that it has found, and none where updates are off. -/
  scripted : Scripted (preparation settings target)
    ((updateTrail answer settings target s).map Prod.fst)
  switched : updatesEnabled settings target.kind = false →
    filesRun (updateTrail answer settings target s) = []
  /-- Where they are on, it succeeds only after all pending scripts of its plan were run, each
      with status zero. -/
  updates : updatesEnabled settings target.kind = true →
    (updated answer settings target s).1 = true →
    Updated (preparation settings target) ((updateTrail answer settings target s).map Prod.fst)
  /-- So without automatic setup no other file is run at all, neither one that makes the
      database nor one that populates it. -/
  manual : settings.updates.autoSetup = false → Scripted (preparation settings target)
    (((prepareOne settings target).trail answer s).map Prod.fst)

end

variable {settings : Settings} {target : Target} {s : σ}

/-- A database that is not selected is reported, and counts as prepared. -/
theorem prepareOne_of_not_selected (h : isSelected settings target = false) :
    ∃ line, prepareOne settings target
      = .ask (.machine (.log line)) fun _ => (.done true : Program Site.interface Bool) :=
  ⟨_, if_neg (by rw [← Bool.not_eq_true] at h; exact h)⟩

/-- The steps of a selected database, each behind the gate of the one before. -/
theorem prepareOne_of_selected (h : isSelected settings target = true) :
    prepareOne settings target
      = (ensureExists settings (preparation settings target)).bind fun ok =>
          if ok = true then
            (ensurePopulated settings (preparation settings target)).bind fun ok =>
              if ok = true then ensureUpdated settings (preparation settings target)
              else .done false
          else .done false := if_pos h

section

variable (answer : (q : Site.Request) → σ → q.Reply × σ) (settings : Settings) (target : Target)
variable (s : σ)

/-- The first step opens the database, or the evidence says why it did not. -/
theorem existing_opened : Opened (preparation settings target) settings.updates.autoSetup
    (existing answer settings target s).1
    ((existenceTrail answer settings target s).map Prod.fst) := by
  set p := preparation settings target
  have hstart : Opened p settings.updates.autoSetup false [] := ⟨nofun, fun m hm => nomatch hm⟩
  have hopens : Opens answer p settings.updates.autoSetup (ensureExists settings p) [] s := by
    -- The second look is needed only if the first found no database and setup is automatic.
    refine opens_bind (databaseExists_opens hstart) fun ok past t h => ?_
    cases ok with
    | true => exact h
    | false =>
        cases hauto : settings.updates.autoSetup with
        | true =>
            rw [hauto] at h
            exact ensureDatabase_opens rfl h
        | false =>
            rw [hauto] at h
            exact opens_log h
  exact Keeps.outcome hopens

/-- Without automatic setup the population step is skipped and succeeds. -/
theorem unpopulated_of_manual (h : settings.updates.autoSetup = false) :
    ensurePopulated settings (preparation settings target) = .done true := by
  rw [ensurePopulated, h]
  rfl

/-- With automatic setup, the population step has the evidence of a population. -/
theorem population_populates (h : settings.updates.autoSetup = true) :
    Populates (preparation settings target) (populated answer settings target s).1
      ((populationTrail answer settings target s).map Prod.fst) := by
  rw [populated, populationTrail, ensurePopulated, if_pos h]
  exact Keeps.outcome populate_populates

/-- Every file that the update step runs is a script that its scan has found. -/
theorem updateTrail_scripted : Scripted (preparation settings target)
    ((updateTrail answer settings target s).map Prod.fst) := by
  have hnone : Scripted (preparation settings target) [] := fun m hm => nomatch hm
  have hkeeps : (ensureUpdated settings (preparation settings target)).Keeps answer
      (fun _ _ => True) (fun _ past _ => Scripted (preparation settings target) past) []
      (populated answer settings target s).2 := by
    rw [ensureUpdated]
    by_cases hon : updatesEnabled settings (preparation settings target).target.kind = true
    · rw [if_pos hon]
      exact update_scripted hnone
    · rw [if_neg hon]
      exact ⟨trivial, hnone.quiet rfl⟩
  exact Keeps.outcome hkeeps

/-- Where updates are off for the kind, the update step runs no file. -/
theorem filesRun_updateTrail (h : updatesEnabled settings target.kind = false) :
    filesRun (updateTrail answer settings target s) = [] := by
  have hoff : ¬updatesEnabled settings (preparation settings target).target.kind = true := by
    rw [Bool.not_eq_true]
    exact h
  rw [updateTrail, ensureUpdated, if_neg hoff]
  rfl

/-- Where updates are on, an update step that succeeds has the evidence of an update. -/
theorem update_updated (hon : updatesEnabled settings target.kind = true)
    (hok : (updated answer settings target s).1 = true) :
    Updated (preparation settings target)
      ((updateTrail answer settings target s).map Prod.fst) := by
  have hstep : ensureUpdated settings (preparation settings target)
      = (preparation settings target).update := if_pos hon
  rw [updated, hstep] at hok
  rw [updateTrail, hstep]
  exact Keeps.outcome update_updates hok

/-- All that a database outside the selection causes is one report. -/
theorem trail_of_not_selected (h : isSelected settings target = false) :
    ∃ line t, (prepareOne settings target).run answer s = (true, t)
      ∧ (prepareOne settings target).trail answer s = [(⟨.machine (.log line), ()⟩, t)] := by
  obtain ⟨line, heq⟩ := prepareOne_of_not_selected h
  rw [heq]
  exact ⟨line, _, rfl, rfl⟩

/-- The trail of a selected database is made of those of its steps, up to the first that fails. -/
theorem trail_of_selected (h : isSelected settings target = true) :
    (prepareOne settings target).trail answer s
      = existenceTrail answer settings target s
        ++ if (existing answer settings target s).1 = true then
            populationTrail answer settings target s
              ++ if (populated answer settings target s).1 = true then
                  updateTrail answer settings target s
                else []
          else [] := by
  rw [prepareOne_of_selected h, trail_gate, trail_gate]
  rfl

/-- Without automatic setup nothing but scripts is ever run. -/
theorem manual_scripted (hauto : settings.updates.autoSetup = false) :
    Scripted (preparation settings target)
      (((prepareOne settings target).trail answer s).map Prod.fst) := by
  have hnone : Scripted (preparation settings target) [] := fun m hm => nomatch hm
  cases hselected : isSelected settings target with
  | false =>
      obtain ⟨line, t, -, htrail⟩ := trail_of_not_selected answer settings target s hselected
      rw [htrail]
      exact hnone.quiet (m := ⟨.machine (.log line), ()⟩) rfl
  | true =>
      -- Without automatic setup the first step runs nothing.
      have hquiet : ∀ m ∈ (existenceTrail answer settings target s).map Prod.fst,
          ranFile? m = none := by
        intro m hm
        by_contra hne
        obtain ⟨⟨file, outcome⟩, hfile⟩ := Option.ne_none_iff_exists'.mp hne
        have hset := ((existing_opened answer settings target s).creates m hm file outcome hfile).1
        exact nomatch hauto.symm.trans hset
      rw [trail_of_selected answer settings target s hselected, List.map_append]
      refine Scripted.behind hquiet ?_
      by_cases hexists : (existing answer settings target s).1 = true
      · rw [if_pos hexists, populationTrail, populated,
          unpopulated_of_manual settings target hauto]
        exact updateTrail_scripted answer settings target s
      · rw [if_neg hexists]
        exact hnone

/-- The preparation of one database goes through its gates, however it is answered. -/
theorem prepareOne_gated : Gated answer settings target s where
  skipped := trail_of_not_selected answer settings target s
  trail := trail_of_selected answer settings target s
  result := by
    intro h
    rw [prepareOne_of_selected h, run_gate, run_gate, Bool.and_assoc]
    rfl
  opened := existing_opened answer settings target s
  unpopulated := by
    intro h
    rw [populationTrail, populated, unpopulated_of_manual settings target h]
    exact ⟨rfl, rfl⟩
  populates := population_populates answer settings target s
  scripted := updateTrail_scripted answer settings target s
  switched := filesRun_updateTrail answer settings target s
  updates := update_updated answer settings target s
  manual := manual_scripted answer settings target s

end

/-! ## One database after another -/

variable (settings) in
/-- Prepares databases one after another, whether or not those before could be prepared. -/
def prepareEach : List Member → Program interface (List Bool)
  | [] => pure []
  | m :: rest => do
      let ok ← at_ m.site (prepareOne settings m.target)
      let others ← prepareEach rest
      pure (ok :: others)

/-- What is reported where a database could not be prepared. -/
def stopped (m : Member) : Log.Line :=
  let name := (Policy.ofKind m.target.kind).displayName
  .error .fleet s!"Stopping: the {name} database could not be prepared"

theorem prepareInOrder_cons (m : Member) (rest : List Member) :
    prepareInOrder settings (m :: rest)
      = (at_ m.site (prepareOne settings m.target)).bind fun ok =>
          if ok = true then prepareInOrder settings rest
          else (at_ m.site (Site.log (stopped m))).bind fun _ => .done false := rfl

section

variable (answer : (q : interface.Request) → σ → interface.Reply q × σ) (settings : Settings)
variable (s : σ)

/-- The run over the first members, all of which were prepared, and then over one that was
    not; nothing is asked for the members after it. -/
structure StoppedAt (members before : List Member) (m : Member) (after : List Member) : Prop where
  split : members = before ++ m :: after
  prepared : ∀ ok ∈ ((prepareEach settings before).run answer s).1, ok = true
  failed : ((at_ m.site (prepareOne settings m.target)).run answer
    ((prepareEach settings before).run answer s).2).1 = false
  trail : (prepareInOrder settings members).trail answer s
    = (prepareEach settings before).trail answer s
      ++ ((at_ m.site (prepareOne settings m.target)).trail answer
            ((prepareEach settings before).run answer s).2
          ++ (at_ m.site (Site.log (stopped m))).trail answer
            ((at_ m.site (prepareOne settings m.target)).run answer
              ((prepareEach settings before).run answer s).2).2)

end

variable {answer : (q : interface.Request) → σ → interface.Reply q × σ}

theorem prepareEach_cons (m : Member) (rest : List Member) :
    prepareEach settings (m :: rest)
      = (at_ m.site (prepareOne settings m.target)).bind fun ok =>
          (prepareEach settings rest).bind fun others => .done (ok :: others) := rfl

/-- The results of a member and of those after it. -/
theorem run_prepareEach_cons (m : Member) (rest : List Member) (s : σ) :
    (prepareEach settings (m :: rest)).run answer s
      = (((at_ m.site (prepareOne settings m.target)).run answer s).1
          :: ((prepareEach settings rest).run answer
            ((at_ m.site (prepareOne settings m.target)).run answer s).2).1,
        ((prepareEach settings rest).run answer
          ((at_ m.site (prepareOne settings m.target)).run answer s).2).2) := by
  rw [prepareEach_cons, run_bind, run_bind]
  rfl

theorem trail_prepareEach_cons (m : Member) (rest : List Member) (s : σ) :
    (prepareEach settings (m :: rest)).trail answer s
      = (at_ m.site (prepareOne settings m.target)).trail answer s
        ++ (prepareEach settings rest).trail answer
            ((at_ m.site (prepareOne settings m.target)).run answer s).2 := by
  rw [prepareEach_cons, trail_bind, trail_bind]
  exact congrArg _ (List.append_nil _)

/-- The run succeeds exactly if every member does. -/
theorem prepareInOrder_eq_all (members : List Member) (s : σ) :
    ((prepareInOrder settings members).run answer s).1
      = ((prepareEach settings members).run answer s).1.all id := by
  induction members generalizing s with
  | nil => rfl
  | cons m rest ih =>
      rw [prepareInOrder_cons, run_bind, run_prepareEach_cons, List.all_cons]
      by_cases hok : ((at_ m.site (prepareOne settings m.target)).run answer s).1 = true
      · rw [if_pos hok, ih, hok]
        rfl
      · rw [if_neg hok, Bool.eq_false_of_not_eq_true hok]
        rfl

/-- Where every member can be prepared, the run asks what it asks for each of them. -/
theorem trail_prepareInOrder (members : List Member) (s : σ)
    (h : ∀ ok ∈ ((prepareEach settings members).run answer s).1, ok = true) :
    (prepareInOrder settings members).trail answer s
      = (prepareEach settings members).trail answer s := by
  induction members generalizing s with
  | nil => rfl
  | cons m rest ih =>
      rw [run_prepareEach_cons, List.forall_mem_cons] at h
      rw [prepareInOrder_cons, trail_bind, if_pos h.1, trail_prepareEach_cons, ih _ h.2]

/-- Otherwise it stops at the first that cannot. -/
theorem prepareInOrder_stops (members : List Member) (s : σ)
    (h : ¬∀ ok ∈ ((prepareEach settings members).run answer s).1, ok = true) :
    ∃ before m after, StoppedAt answer settings s members before m after := by
  -- By induction on the databases: the first one failed here, or the failure is further behind.
  induction members generalizing s with
  | nil => exact absurd (fun ok hok => nomatch hok) h
  | cons m rest ih =>
      cases hok : ((at_ m.site (prepareOne settings m.target)).run answer s).1 with
      | false =>
          refine ⟨[], m, rest, rfl, (fun ok hmem => nomatch hmem), hok, ?_⟩
          rw [prepareInOrder_cons, trail_bind, hok, if_neg Bool.false_ne_true, trail_bind]
          exact congrArg _ (List.append_nil _)
      | true =>
          rw [run_prepareEach_cons, List.forall_mem_cons, not_and] at h
          obtain ⟨before, m', after, hstop⟩ := ih _ (h hok)
          refine ⟨m :: before, m', after, ?_, ?_, ?_, ?_⟩
          · rw [hstop.split]
            rfl
          · rw [run_prepareEach_cons, List.forall_mem_cons]
            exact ⟨hok, hstop.prepared⟩
          · rw [run_prepareEach_cons]
            exact hstop.failed
          · rw [prepareInOrder_cons, trail_bind, hok, if_pos rfl, hstop.trail,
              trail_prepareEach_cons, run_prepareEach_cons, List.append_assoc]

/-- A fleet is prepared in the order of the kinds, and stops at the first failure.  However
    all sites answer: the members are taken in ascending order of their kinds, equal kinds in
    the order given; the run succeeds exactly if every member can be prepared; it asks what
    it asks for each member, up to the first that cannot be prepared, and after that one
    reports only that it stops; and within each member the steps go through their gates. -/
theorem prepare_gated (answer : (q : interface.Request) → σ → interface.Reply q × σ)
    (settings : Settings) (members : List Member) (s : σ) :
    ((inOrder members).Perm members
      ∧ (inOrder members).Pairwise (fun a b => a.target.kind.rank ≤ b.target.kind.rank)
      ∧ ∀ kind, (inOrder members).filter (fun m => m.target.kind = kind)
          = members.filter fun m => m.target.kind = kind)
    ∧ (((prepare settings members).run answer s).1 = true
        ↔ ∀ ok ∈ ((prepareEach settings (inOrder members)).run answer s).1, ok = true)
    ∧ (((prepare settings members).run answer s).1 = true →
        (prepare settings members).trail answer s
          = (prepareEach settings (inOrder members)).trail answer s)
    ∧ (((prepare settings members).run answer s).1 = false →
        ∃ before m after, StoppedAt answer settings s (inOrder members) before m after)
    ∧ ∀ m ∈ members, ∀ t,
        (at_ m.site (prepareOne settings m.target)).run answer t
            = (prepareOne settings m.target).run (answerAt answer m.site) t
          ∧ (at_ m.site (prepareOne settings m.target)).trail answer t
            = ((prepareOne settings m.target).trail (answerAt answer m.site) t).map
                (lifted m.site)
          ∧ Gated (answerAt answer m.site) settings m.target t := by
  have hall : ((prepare settings members).run answer s).1 = true
      ↔ ∀ ok ∈ ((prepareEach settings (inOrder members)).run answer s).1, ok = true := by
    rw [prepare, prepareInOrder_eq_all, List.all_eq_true]
    exact Iff.rfl
  refine ⟨⟨inOrder_perm members, inOrder_sorted members, inOrder_stable members⟩, hall,
    fun hok => ?_, fun hfailed => ?_, fun m _ t => ⟨?_, ?_, ?_⟩⟩
  · exact trail_prepareInOrder _ s (hall.mp hok)
  · refine prepareInOrder_stops _ s fun heach => ?_
    rw [hall.mpr heach] at hfailed
    exact nomatch hfailed
  · exact run_at m.site _ t
  · exact trail_at m.site _ t
  · exact prepareOne_gated _ settings m.target t

end SchemaMigration.Fleet
