import SchemaMigration.Proofs.Update.Requests

/-! # Courses — a run as steps from phase to phase

    Carrying out a plan settles its entries, applies its scripts and looks after
    counters, and stops with the first failure.  Seen from outside, this is a
    machine whose steps are exchanges:

    * `Phase` is how far the machine has come, and what it still has to do;
    * `Step` lists the exchanges of each phase with the phases they lead to;
    * `Course` is a sequence of steps with the answers of the surroundings;
    * `apply_course`: at every moment of a run the machine is in some phase, and
      the last one tells how the run ends.

    A property of every moment is then shown by one case for each kind of step. -/

namespace SchemaMigration.Update

open Ledger Program

/-! ## Phases and steps -/

/-- How far a run has come with its plan. -/
inductive Phase where
  /-- Entries are left that may need a change in the ledger. -/
  | settling (rest : List PlannedFile)
  /-- Scripts are left to be applied. -/
  | applying (rest : List PlannedFile)
  /-- A script was run with status zero, and is to be recorded. -/
  | recording (e : PlannedFile) (rest : List PlannedFile)
  /-- Only counters are left to be looked after. -/
  | tidying
  /-- The run was stopped in a phase by an error. -/
  | stopped (phase : Phase) (error : UpdateError)

/-- Why a script counts as failed, if it does. -/
def failure? : Except DatabaseError Int → Option String
  | .error cause => some cause.message
  | .ok status => if status ≠ 0 then some s!"SQL client exited with status {status}" else none

/-- The error by which the ledger answers an exchange. -/
def error? : Exchange interface → Option UpdateError
  | ⟨.ledger _, .error error⟩ => some error
  | _ => none

/-- The requests by which counters are looked after. -/
inductive Tidies (p : Plan) : Request → Prop where
  | clear {path : String} (hp : path ∈ p.recovered) :
      Tidies p (.ledger (.change (.clearMissing path)))
  | count {d : DeadReference} (hd : d ∈ p.dead) : Tidies p (.ledger (.countMissing d.path))
  | remove {d : DeadReference} (hd : d ∈ p.dead) : Tidies p (.ledger (.change (.remove d.path)))

/-- The exchanges of a run, with the phases that they are made in and lead to. -/
inductive Step (p : Plan) : Phase → Exchange interface → Phase → Prop where
  | report (phase : Phase) (line : Log.Line) : Step p phase ⟨.log line, ()⟩ phase
  | clock (phase : Phase) (time : Nat) : Step p phase ⟨.stopwatch, time⟩ phase
  | settle {e : PlannedFile} {c : Change} (hc : ledgerChange e = some c)
      (rest : List PlannedFile) :
      Step p (.settling (e :: rest)) ⟨.ledger (.change c), .ok ()⟩ (.settling rest)
  | refuse {e : PlannedFile} {c : Change} (hc : ledgerChange e = some c)
      (rest : List PlannedFile) (error : UpdateError) :
      Step p (.settling (e :: rest)) ⟨.ledger (.change c), .error error⟩
        (.stopped (.settling (e :: rest)) error)
  | run (e : PlannedFile) (rest : List PlannedFile) :
      Step p (.applying (e :: rest)) ⟨.runScript e.script.location, .ok 0⟩ (.recording e rest)
  | fail (e : PlannedFile) (rest : List PlannedFile) {outcome : Except DatabaseError Int}
      {detail : String} (hf : failure? outcome = some detail) :
      Step p (.applying (e :: rest)) ⟨.runScript e.script.location, outcome⟩
        (.stopped (.applying (e :: rest)) (.scriptFailed e.script.path detail))
  | record (e : PlannedFile) (rest : List PlannedFile) (speed : Nat) :
      Step p (.recording e rest)
        ⟨.ledger (.change (.record e.script.path e.script.hash speed)), .ok ()⟩ (.applying rest)
  | lose (e : PlannedFile) (rest : List PlannedFile) (speed : Nat) (error : UpdateError) :
      Step p (.recording e rest)
        ⟨.ledger (.change (.record e.script.path e.script.hash speed)), .error error⟩
        (.stopped (.recording e rest) error)
  | tidy {m : Exchange interface} (hq : Tidies p m.1) (hm : error? m = none) :
      Step p .tidying m .tidying
  | leave {m : Exchange interface} {error : UpdateError} (hq : Tidies p m.1)
      (hm : error? m = some error) : Step p .tidying m (.stopped .tidying error)

/-- How a run goes on to another phase without an exchange. -/
inductive Turn (p : Plan) : Phase → Phase → Prop where
  | skip {e : PlannedFile} (hc : ledgerChange e = none) (rest : List PlannedFile) :
      Turn p (.settling (e :: rest)) (.settling rest)
  | settled : Turn p (.settling []) (.applying p.pending)
  | applied : Turn p (.applying []) .tidying

variable {σ : Type}

/-- From the start of a plan in `s`, the run has come to a phase by some exchanges, and
    has left the surroundings in some state. -/
inductive Course (w : Surroundings σ) (p : Plan) (s : σ) :
    Phase → List (Exchange interface) → σ → Prop where
  | start : Course w p s (.settling p.entries) [] s
  | turn {before after : Phase} {past : List (Exchange interface)} {u : σ}
      (h : Course w p s before past u) (ht : Turn p before after) : Course w p s after past u
  | step {before after : Phase} {past : List (Exchange interface)} {u t : σ}
      {m : Exchange interface} (h : Course w p s before past u) (hs : Step p before m after)
      (ha : w.answer m.1 u = (m.2, t)) : Course w p s after (past ++ [m]) t

/-! ## What a step does to the ledger -/

section

variable {w : Surroundings σ} {u t : σ} {c : Change}

/-- An exchange that asks for no change leaves the ledger alone. -/
theorem records_of_quiet {m : Exchange interface} (ha : w.answer m.1 u = (m.2, t))
    (hq : m.1.change? = none) : w.records t = w.records u := by
  have hrecords := w.quiet m.1 u hq
  rwa [ha] at hrecords

/-- A change that fails has no effect. -/
theorem records_of_failed {error : UpdateError}
    (ha : w.answer (.ledger (.change c)) u = (.error error, t)) : w.records t = w.records u := by
  have hsame := w.unchanged c u error (by rw [ha])
  rwa [ha] at hsame

end

/-! ## Parts of a run -/

/-- The run is in some phase. -/
def OnCourse (w : Surroundings σ) (p : Plan) (s : σ) (past : List (Exchange interface)) (u : σ) :
    Prop :=
  ∃ phase, Course w p s phase past u

/-- A part of a run has come to a phase, or was stopped by its error. -/
def Comes (w : Surroundings σ) (p : Plan) (s : σ) (phase : Phase) {α : Type}
    (result : Except UpdateError α) (past : List (Exchange interface)) (u : σ) : Prop :=
  match result with
  | .ok _ => Course w p s phase past u
  | .error error => ∃ before, Course w p s (.stopped before error) past u

variable {w : Surroundings σ} {p : Plan} {s u : σ} {phase : Phase}
variable {past : List (Exchange interface)} {e : PlannedFile}

/-- A question is a step for every answer to it, and the run goes on from there. -/
theorem ask_course {α : Type} {q : Request} {next : q.Reply → Program interface α}
    {post : α → List (Exchange interface) → σ → Prop} (h : Course w p s phase past u)
    (hnext : ∀ r, ∃ after, Step p phase ⟨q, r⟩ after ∧ ∀ past u, Course w p s after past u →
      (next r).Keeps w.answer (OnCourse w p s) post past u) :
    (Program.ask (I := interface) q next).Keeps w.answer (OnCourse w p s) post past u := by
  obtain ⟨after, hs, hkeeps⟩ := hnext (w.answer q u).1
  have hcourse := Course.step h hs rfl
  exact ⟨⟨after, hcourse⟩, hkeeps _ _ hcourse⟩

/-- One part after another, where the first one brings the phase of the second. -/
theorem attempt_course {α β : Type} {part : Run α} {next : α → Run β} {first last : Phase}
    (h : part.run.Keeps w.answer (OnCourse w p s) (Comes w p s first) past u)
    (hnext : ∀ a past u, Course w p s first past u →
      (next a).run.Keeps w.answer (OnCourse w p s) (Comes w p s last) past u) :
    (part >>= next).run.Keeps w.answer (OnCourse w p s) (Comes w p s last) past u := by
  refine Keeps.attempt (h.mono fun r past u hr => ?_)
  cases r with
  | ok a => exact hnext a past u hr
  | error error => exact hr

/-- Reporting a line keeps every phase. -/
theorem log_course (line : Log.Line) (h : Course w p s phase past u) :
    (log line).run.Keeps w.answer (OnCourse w p s) (Comes w p s phase) past u :=
  ask_course h fun _ => ⟨phase, .report phase line, fun _ _ h => h⟩

/-- Settling an entry takes the course past it. -/
theorem settle_course {rest : List PlannedFile} (h : Course w p s (.settling (e :: rest)) past u) :
    (settle e).run.Keeps w.answer (OnCourse w p s) (Comes w p s (.settling rest)) past u := by
  have hreport : ((announcement e).elim (pure ()) log : Run Unit).run.Keeps w.answer
      (OnCourse w p s) (Comes w p s (.settling (e :: rest))) past u := by
    cases announcement e with
    | none => exact h
    | some line => exact log_course line h
  rw [settle_eq]
  -- The report comes first, where there is one, and settles nothing.
  refine attempt_course hreport fun _ past u h => ?_
  cases hc : ledgerChange e with
  | none => exact .turn h (.skip hc rest)
  | some c =>
      refine ask_course h fun reply => ?_
      cases reply with
      | ok done => exact ⟨_, .settle hc rest, fun _ _ h => h⟩
      | error error => exact ⟨_, .refuse hc rest error, fun _ _ h => ⟨_, h⟩⟩

/-- Settling all entries takes the course to the scripts. -/
theorem settleAll_course {rest : List PlannedFile} (h : Course w p s (.settling rest) past u) :
    (settleAll rest).run.Keeps w.answer (OnCourse w p s) (Comes w p s (.applying p.pending))
      past u := by
  induction rest generalizing past u with
  | nil => exact .turn h .settled
  | cons e rest ih => exact attempt_course (settle_course h) fun _ _ _ h => ih h

/-- Applying a script takes the course past it, or stops it. -/
theorem applyScript_course {rest : List PlannedFile}
    (h : Course w p s (.applying (e :: rest)) past u) :
    (applyScript e.script).run.Keeps w.answer (OnCourse w p s) (Comes w p s (.applying rest))
      past u := by
  rw [applyScript_run]
  refine ask_course h fun _ => ⟨_, .report _ _, fun past u h => ?_⟩
  refine ask_course h fun started => ⟨_, .clock _ started, fun past u h => ?_⟩
  refine ask_course h fun outcome => ?_
  cases outcome with
  -- The client could not be called, or has exited with another status: both stop the course here.
  | error cause => exact ⟨_, .fail e rest rfl, fun _ _ h => ⟨_, h⟩⟩
  | ok status =>
      by_cases hs : status = 0
      · subst hs
        refine ⟨_, .run e rest, fun past u h => ?_⟩
        rw [ended_zero]
        refine ask_course h fun stopped => ⟨_, .clock _ stopped, fun past u h => ?_⟩
        refine ask_course h fun reply => ?_
        cases reply with
        | ok done => exact ⟨_, .record e rest _, fun _ _ h => h⟩
        | error error =>
            -- The failure is reported before it ends the run.
            refine ⟨_, .lose e rest _ error, fun past u h => ?_⟩
            exact ask_course h fun _ => ⟨_, .report _ _, fun _ _ h => ⟨_, h⟩⟩
      · refine ⟨_, .fail e rest (if_pos hs), fun past u h => ?_⟩
        rw [ended_of_ne_zero e.script started hs]
        exact ⟨_, h⟩

/-- Applying all scripts takes the course to the tidying up. -/
theorem applyAll_course {rest : List PlannedFile} (h : Course w p s (.applying rest) past u) :
    (applyAll rest).run.Keeps w.answer (OnCourse w p s) (Comes w p s .tidying) past u := by
  induction rest generalizing past u with
  | nil => exact .turn h .applied
  | cons e rest ih => exact attempt_course (applyScript_course h) fun _ _ _ h => ih h

/-- A change that counters need is made, or its failure ends the run. -/
theorem tidy_course {c : Change} (hq : Tidies p (.ledger (.change c)))
    (h : Course w p s .tidying past u) :
    (change c).run.Keeps w.answer (OnCourse w p s) (Comes w p s .tidying) past u := by
  refine ask_course h fun reply => ?_
  cases reply with
  | ok done => exact ⟨_, .tidy hq rfl, fun _ _ h => h⟩
  | error error => exact ⟨_, .leave hq rfl, fun _ _ h => ⟨_, h⟩⟩

theorem clearAll_course {paths : List String} (hp : ∀ path ∈ paths, path ∈ p.recovered)
    (h : Course w p s .tidying past u) :
    (clearAll paths).run.Keeps w.answer (OnCourse w p s) (Comes w p s .tidying) past u := by
  induction paths generalizing past u with
  | nil => exact h
  | cons path rest ih =>
      refine attempt_course (tidy_course (.clear (hp path List.mem_cons_self)) h) fun _ _ _ h => ?_
      exact ih (fun q hq => hp q (List.mem_cons_of_mem _ hq)) h

/-- Burying a dead reference is part of the tidying up. -/
theorem bury_course (limit : Nat) {d : DeadReference} (hd : d ∈ p.dead)
    (h : Course w p s .tidying past u) :
    (bury limit d.path).run.Keeps w.answer (OnCourse w p s) (Comes w p s .tidying) past u := by
  have hcount : (countMissing d.path).run.Keeps w.answer (OnCourse w p s)
      (Comes w p s .tidying) past u := by
    refine ask_course h fun reply => ?_
    cases reply with
    | ok missing => exact ⟨_, .tidy (.count hd) rfl, fun _ _ h => h⟩
    | error error => exact ⟨_, .leave (.count hd) rfl, fun _ _ h => ⟨_, h⟩⟩
  refine attempt_course hcount fun missing _ _ h => ?_
  by_cases hm : missing > limit
  · rw [if_pos hm]
    refine attempt_course (log_course _ h) fun _ _ _ h => ?_
    exact attempt_course (tidy_course (.remove hd) h) fun _ _ _ h => h
  · rw [if_neg hm]
    exact attempt_course (log_course _ h) fun _ _ _ h => h

theorem buryAll_course (limit : Nat) {ds : List DeadReference} (hd : ∀ d ∈ ds, d ∈ p.dead)
    (h : Course w p s .tidying past u) :
    (buryAll limit ds).run.Keeps w.answer (OnCourse w p s) (Comes w p s .tidying) past u := by
  induction ds generalizing past u with
  | nil => exact h
  | cons d rest ih =>
      refine attempt_course (bury_course limit (hd d List.mem_cons_self) h) fun one _ _ h => ?_
      have hrest := ih (fun d' hd' => hd d' (List.mem_cons_of_mem _ hd')) h
      exact attempt_course hrest fun others _ _ h => h

/-- All of the cleaning up is part of the tidying up. -/
theorem cleanUp_course {options : Options} (h : Course w p s .tidying past u) :
    (cleanUp p options).run.Keeps w.answer (OnCourse w p s) (Comes w p s .tidying) past u := by
  rw [cleanUp]
  -- Without a limit there is nothing to clean up.
  cases options.limit? with
  | none => exact h
  | some limit =>
      refine attempt_course (clearAll_course (fun _ h => h) h) fun _ _ _ h => ?_
      exact buryAll_course limit (fun _ h => h) h

/-! ## Whole runs -/

/-- Carrying out a plan goes from phase to phase, and comes to its end in the last one,
    or is stopped by the error that it answers. -/
theorem apply_course (w : Surroundings σ) (p : Plan) (options : Options) (s : σ) :
    (apply p options).run.Keeps w.answer (OnCourse w p s) (Comes w p s .tidying) [] s := by
  refine attempt_course (settleAll_course .start) fun _ _ _ h => ?_
  refine attempt_course (applyAll_course h) fun _ _ _ h => ?_
  exact attempt_course (cleanUp_course h) fun cleaned _ _ h => h

/-- Wherever a run is interrupted, it is in some phase. -/
theorem course_of_moment {options : Options}
    {before after : List (Exchange interface × σ)}
    (h : (apply p options).run.trail w.answer s = before ++ after) :
    OnCourse w p s (before.map Prod.fst) (reached s before) :=
  (apply_course w p options s).moment ⟨_, .start⟩ before after h

/-- The whole run ends in the last phase, or stopped by its error. -/
theorem course_of_end (w : Surroundings σ) (p : Plan) (options : Options) (s : σ) :
    Comes w p s .tidying (w.perform (apply p options) s).1
      (((apply p options).run.trail w.answer s).map Prod.fst)
      (w.perform (apply p options) s).2 :=
  (apply_course w p options s).outcome

end SchemaMigration.Update
