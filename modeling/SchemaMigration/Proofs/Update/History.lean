import SchemaMigration.Proofs.Update.Requests

/-! # Histories — update runs one after another

    Each run of a history has its own directories and options, finds whatever the
    surroundings answer, and may stop with an error at any request; the next run
    starts from the ledger that it has left.  A property of every moment of a
    history is shown by rules that follow the program:

    * `history_keeps` reduces it to single runs;
    * `update_keeps` reduces a run to carrying out the plan for what it has found;
    * `apply_keeps` reduces that to the requests that the plan allows, where a
      script is recorded right after it has been run with status zero. -/

namespace SchemaMigration.Update

open Ledger Program

variable {σ : Type} {w : Surroundings σ} {inv : List (Exchange interface) → σ → Prop}

/-- The runs of a history, each of which may fail. -/
def history : List (ScriptSource × Options) →
    Program interface (List (Except UpdateError Summary))
  | [] => .done []
  | (source, options) :: rest =>
      (update source options).run.bind fun result =>
        (history rest).bind fun results => .done (result :: results)

/-! ## What has happened -/

/-- Whether an exchange reads the scripts. -/
def isScan (m : Exchange interface) : Bool :=
  match m.1 with
  | .scan _ => true
  | _ => false

/-- The live and archived scripts that an exchange brings. -/
def found? : Exchange interface → Option (List Script × List Script)
  | ⟨.scan _, .ok found⟩ => some found
  | _ => none

/-- The last scan found these live scripts. -/
def Found (past : List (Exchange interface)) (live : List Script) : Prop :=
  ∃ before source archived after,
    past = before ++ ⟨.scan source, .ok (live, archived)⟩ :: after
      ∧ ∀ m ∈ after, isScan m = false

/-- A live script of the last scan was run with status zero. -/
def Ran (past : List (Exchange interface)) (x : Script) : Prop :=
  ∃ before live after, past = before ++ ⟨.runScript x.location, .ok 0⟩ :: after
    ∧ Found before live ∧ x ∈ live

variable {past : List (Exchange interface)} {live : List Script} {x : Script}

/-- The scripts that were found last stay so until the next scan. -/
theorem Found.append (h : Found past live) {more : List (Exchange interface)}
    (hmore : ∀ m ∈ more, isScan m = false) : Found (past ++ more) live := by
  obtain ⟨before, source, archived, after, rfl, hafter⟩ := h
  refine ⟨before, source, archived, after ++ more, by simp, fun m hm => ?_⟩
  exact (List.mem_append.mp hm).elim (hafter m) (hmore m)

/-- An exchange that is no scan has found nothing, so what was found last was found before it. -/
theorem Found.of_append {m : Exchange interface} (h : Found (past ++ [m]) live)
    (hm : isScan m = false) : Found past live := by
  obtain ⟨before, source, archived, after, heq, hafter⟩ := h
  rcases List.eq_nil_or_concat after with rfl | ⟨init, last, rfl⟩
  · obtain ⟨-, hlast⟩ := List.append_inj' heq rfl
    rw [List.singleton_inj.mp hlast] at hm
    exact nomatch hm
  · rw [List.concat_eq_append, ← List.cons_append, ← List.append_assoc] at heq
    obtain ⟨hinit, -⟩ := List.append_inj' heq rfl
    refine ⟨before, source, archived, init, hinit, fun m hm => hafter m ?_⟩
    rw [List.concat_eq_append]
    exact List.mem_append_left _ hm

/-- The last scan is one of the exchanges. -/
theorem Found.exists_mem (h : Found past live) :
    ∃ m ∈ past, ∃ archived, found? m = some (live, archived) := by
  obtain ⟨before, source, archived, after, rfl, -⟩ := h
  exact ⟨_, List.mem_append_right _ List.mem_cons_self, archived, rfl⟩

theorem Ran.append (h : Ran past x) (more : List (Exchange interface)) : Ran (past ++ more) x := by
  obtain ⟨before, live, after, rfl, hfound⟩ := h
  exact ⟨before, live, after ++ more, by simp, hfound⟩

/-! ## Rules for every moment -/

theorem Tends.not_scan {p : Plan} {q : Request} (h : Tends p q) (reply : q.Reply) :
    isScan ⟨q, reply⟩ = false := by
  cases h <;> rfl

theorem Allowed.not_scan {p : Plan} {q : Request} (h : Allowed p q) (reply : q.Reply) :
    isScan ⟨q, reply⟩ = false := by
  cases h with
  | tend h => exact h.not_scan reply
  | _ => rfl

/-- What every run keeps, a history keeps. -/
theorem history_keeps
    (run : ∀ source options past s, inv past s →
      (update source options).run.Keeps w.answer inv (fun _ => inv) past s) :
    ∀ runs past s, inv past s → (history runs).Keeps w.answer inv (fun _ => inv) past s := by
  intro runs
  induction runs with
  | nil => exact fun past s h => h
  | cons settings rest ih =>
      obtain ⟨source, options⟩ := settings
      intro past s h
      rw [history, keeps_bind]
      refine (run source options past s h).mono fun result past s h => ?_
      rw [keeps_bind]
      exact (ih past s h).mono fun results past s h => h

/-- A run keeps a property if reading and reporting do, and carrying out the plan
    for what was found does. -/
theorem update_keeps {source : ScriptSource} {options : Options} {s : σ}
    (read : ∀ q past s, q.change? = none → (∀ location, q ≠ .runScript location) → inv past s →
      inv (past ++ [⟨q, (w.answer q s).1⟩]) (w.answer q s).2)
    (carry : ∀ live archived past s, Found past live → inv past s →
      (apply (w.planFor live archived options s) options).run.Keeps w.answer inv (fun _ => inv)
        past s)
    (h : inv past s) :
    (update source options).run.Keeps w.answer inv (fun _ => inv) past s := by
  rw [update_run]
  -- The scan, the list of records and the report come before the plan is carried out.
  have h₁ := read (.scan source) past s rfl (fun _ => nofun) h
  refine ⟨h₁, ?_⟩
  cases hscan : (w.answer (.scan source) s).1 with
  | error e => rw [hscan] at h₁; exact h₁
  | ok found =>
      obtain ⟨live, archived⟩ := found
      rw [hscan] at h₁
      set s₁ := (w.answer (.scan source) s).2
      have h₂ := read (.ledger .list) _ s₁ rfl (fun _ => nofun) h₁
      refine ⟨h₂, ?_⟩
      cases hlist : (w.answer (.ledger .list) s₁).1 with
      | error e => rw [hlist] at h₂; exact h₂
      | ok known =>
          rw [hlist] at h₂
          set s₂ := (w.answer (.ledger .list) s₁).2
          have h₃ := read (.log (surveyed live archived known)) _ s₂ rfl (fun _ => nofun) h₂
          refine ⟨h₃, ?_⟩
          -- None of them alters the records, so the plan is the one for the start of the run.
          have hsame : w.records (w.answer (.log (surveyed live archived known)) s₂).2
              = w.records s₁ := (w.quiet _ s₂ rfl).trans (w.quiet _ s₁ rfl)
          have hplan : Plan.build ⟨live, archived, known, options⟩ = w.planFor live archived options
              (w.answer (.log (surveyed live archived known)) s₂).2 := by
            rw [Surroundings.planFor, Surroundings.inputFor, Surroundings.listing, hsame,
              ← w.listed s₁ known hlist]
          show (apply (Plan.build ⟨live, archived, known, options⟩) options).run.Keeps _ _ _ _ _
          rw [hplan]
          refine carry live archived _ _ ?_ h₃
          have hfound : Found (past ++ [⟨.scan source, .ok (live, archived)⟩]) live :=
            ⟨past, source, archived, [], rfl, List.forall_mem_nil _⟩
          exact (hfound.append (by simp [isScan])).append (by simp [isScan])

/-- Applying a script keeps a property if everything but recording it does, and
    recording it does right after it was run with status zero. -/
theorem applyScript_keeps {p : Plan} {e : PlannedFile} {s : σ} (he : e ∈ p.pending)
    (other : ∀ q past s, Allowed p q → q.change? = none → inv past s →
      inv (past ++ [⟨q, (w.answer q s).1⟩]) (w.answer q s).2)
    (record : ∀ q earlier stopped s speed,
      q = .ledger (.change (.record e.script.path e.script.hash speed)) →
      inv (earlier ++ [⟨.runScript e.script.location, .ok 0⟩] ++ [⟨.stopwatch, stopped⟩]) s →
      inv (earlier ++ [⟨.runScript e.script.location, .ok 0⟩] ++ [⟨.stopwatch, stopped⟩]
        ++ [⟨q, (w.answer q s).1⟩]) (w.answer q s).2)
    (h : inv past s) :
    (applyScript e.script).run.Keeps w.answer inv (fun _ => inv) past s := by
  rw [applyScript_run]
  refine .ask (other _ _ _ (.tend (.log _)) rfl h) fun _ s₁ h₁ => ?_
  refine .ask (other _ _ _ .stopwatch rfl h₁) fun started s₂ h₂ => ?_
  refine .ask (other _ _ _ (.run he) rfl h₂) fun outcome s₃ h₃ => ?_
  cases outcome with
  | error cause => exact h₃
  | ok status =>
      by_cases hs : status = 0
      · subst hs
        rw [ended_zero]
        refine .ask (other _ _ _ .stopwatch rfl h₃) fun stopped s₄ h₄ => ?_
        refine .ask (record _ _ _ _ _ rfl h₄) fun reply s₅ h₅ => ?_
        cases reply with
        | ok done => exact h₅
        | error e =>
            -- A failure to record is reported, and ends the run.
            exact .ask (other _ _ _ (.tend (.log _)) rfl h₅) fun _ _ h₆ => h₆
      · rw [ended_of_ne_zero _ _ hs]
        exact h₃

/-- Carrying out a plan keeps a property if looking after the ledger does, running
    scripts does, and recording a script does right after it was run with status zero. -/
theorem apply_keeps {p : Plan} {options : Options} {s : σ}
    (tend : ∀ q past s, Tends p q → inv past s →
      inv (past ++ [⟨q, (w.answer q s).1⟩]) (w.answer q s).2)
    (other : ∀ q past s, Allowed p q → q.change? = none → inv past s →
      inv (past ++ [⟨q, (w.answer q s).1⟩]) (w.answer q s).2)
    (record : ∀ e ∈ p.pending, ∀ q earlier stopped s speed,
      q = .ledger (.change (.record e.script.path e.script.hash speed)) →
      inv (earlier ++ [⟨.runScript e.script.location, .ok 0⟩] ++ [⟨.stopwatch, stopped⟩]) s →
      inv (earlier ++ [⟨.runScript e.script.location, .ok 0⟩] ++ [⟨.stopwatch, stopped⟩]
        ++ [⟨q, (w.answer q s).1⟩]) (w.answer q s).2)
    (h : inv past s) :
    (apply p options).run.Keeps w.answer inv (fun _ => inv) past s := by
  -- Induction on the scripts; the first one that fails ends the run.
  have hscripts : ∀ es : List PlannedFile, (∀ e ∈ es, e ∈ p.pending) → ∀ past s, inv past s →
      (applyAll es).run.Keeps w.answer inv (fun _ => inv) past s := by
    intro es
    induction es with
    | nil => exact fun _ past s h => h
    | cons e rest ih =>
        intro hes past s h
        have he := hes e List.mem_cons_self
        refine Keeps.attempt ((applyScript_keeps he other (record e he) h).mono fun r past s h => ?_)
        cases r with
        | error e => exact h
        | ok done => exact ih (fun e' he' => hes e' (List.mem_cons_of_mem _ he')) past s h
  refine Keeps.attempt (((settleAll_asks p.entries fun _ h => h).keeps tend h).mono
    fun r past s h => ?_)
  cases r with
  | error e => exact h
  | ok done =>
      refine Keeps.attempt ((hscripts p.pending (fun _ h => h) past s h).mono fun r past s h => ?_)
      cases r with
      | error e => exact h
      | ok done =>
          refine Keeps.attempt (((cleanUp_asks p options).keeps tend h).mono fun r past s h => ?_)
          cases r with
          | error e => exact h
          | ok cleaned => exact h

end SchemaMigration.Update
