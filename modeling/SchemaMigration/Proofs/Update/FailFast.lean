import SchemaMigration.Proofs.Update.Bench
import SchemaMigration.Proofs.Update.Course
import SchemaMigration.Proofs.Update.Success

/-! # Failing fast — what a failure leaves behind

    A run that fails has done everything before the failure and nothing after it.
    `Account` tells, for every phase, which scripts were run so far, which changes
    of the ledger were tried, and what the ledger holds; every step keeps it
    (`Account.step`), so it is true at the end of every run:

    * `FailsFast.order`: the scripts that are run are the first pending ones;
    * `FailsFast.refused`: a failure before the scripts keeps all of them from being run;
    * `FailsFast.failed`, `FailsFast.lost`: a script that fails, or is not recorded,
      ends the run, with the scripts before it recorded and no counter touched. -/

namespace SchemaMigration.Update

open Ledger Program

variable {σ : Type} {w : Surroundings σ} {p : Plan} {s u : σ}
variable {phase : Phase} {past : List (Exchange interface)} {e : PlannedFile}

/-! ## Counting exchanges -/

/-- The script that an exchange runs, and how it ends. -/
def ran? : Exchange interface → Option (Path × Except DatabaseError Int)
  | ⟨.runScript location, outcome⟩ => some (location, outcome)
  | _ => none

/-- The answer to a request that records a script. -/
def recorded? : Exchange interface → Option (Except UpdateError Unit)
  | ⟨.ledger (.change (.record _ _ _)), reply⟩ => some reply
  | _ => none

/-- The failure of a request that renames, rehashes or archives a record. -/
def refused? : Exchange interface → Option UpdateError
  | ⟨.ledger (.change (.rename _ _)), .error error⟩ => some error
  | ⟨.ledger (.change (.rehash _ _)), .error error⟩ => some error
  | ⟨.ledger (.change (.archive _)), .error error⟩ => some error
  | _ => none

/-- The change that an exchange tries to make. -/
def tried? (m : Exchange interface) : Option Change := m.1.change?

/-- How often what was asked so far. -/
structure Tally (past : List (Exchange interface)) (ran : List (Path × Except DatabaseError Int))
    (recorded : List (Except UpdateError Unit)) (refused : List UpdateError)
    (tried : List Change) : Prop where
  ran : past.filterMap ran? = ran
  recorded : past.filterMap recorded? = recorded
  refused : past.filterMap refused? = refused
  tried : past.filterMap tried? = tried

section

variable {ran : List (Path × Except DatabaseError Int)} {recorded : List (Except UpdateError Unit)}
variable {refused : List UpdateError} {tried : List Change}

/-- One more exchange adds to each list what it is. -/
theorem Tally.append (h : Tally past ran recorded refused tried) (m : Exchange interface) :
    Tally (past ++ [m]) (ran ++ (ran? m).toList) (recorded ++ (recorded? m).toList)
      (refused ++ (refused? m).toList) (tried ++ (tried? m).toList) := by
  have hone : ∀ {β : Type} (f : Exchange interface → Option β),
      [m].filterMap f = (f m).toList := fun f => by cases hf : f m <;> simp [hf]
  constructor
  · rw [List.filterMap_append, h.ran, hone]
  · rw [List.filterMap_append, h.recorded, hone]
  · rw [List.filterMap_append, h.refused, hone]
  · rw [List.filterMap_append, h.tried, hone]

end

/-- The changes that the entries of a plan need in the ledger alone. -/
def settlements (p : Plan) : List Change := p.entries.filterMap ledgerChange

/-- A script that was run with status zero. -/
def clean (e : PlannedFile) : Path × Except DatabaseError Int := (e.script.location, .ok 0)

/-! ## The account of a run -/

/-- All entries are settled and some scripts are applied and recorded, which is all that
    has happened to the ledger; more was run, asked of the ledger to be recorded, or tried. -/
def Midway (w : Surroundings σ) (p : Plan) (s : σ) (done : List PlannedFile)
    (ran : List (Path × Except DatabaseError Int)) (recorded : List (Except UpdateError Unit))
    (tried : List Change) (past : List (Exchange interface)) (u : σ) : Prop :=
  ∃ cs, Recordings done cs ∧ Made (settlements p ++ cs) (w.view s) (w.view u)
    ∧ Tally past (done.map clean ++ ran) (done.map (fun _ => .ok ()) ++ recorded) []
        (settlements p ++ cs ++ tried)

/-- What a run has done so far, by the phase that it is in. -/
def Account (w : Surroundings σ) (p : Plan) (s : σ) :
    Phase → List (Exchange interface) → σ → Prop
  | .settling rest, past, u => ∃ done, p.entries = done ++ rest
      ∧ Made (done.filterMap ledgerChange) (w.view s) (w.view u)
      ∧ Tally past [] [] [] (done.filterMap ledgerChange)
  | .applying rest, past, u => ∃ done, p.pending = done ++ rest
      ∧ Midway w p s done [] [] [] past u
  | .recording e rest, past, u => ∃ done, p.pending = done ++ e :: rest
      ∧ Midway w p s done [clean e] [] [] past u
  | .stopped (.settling _) error, past, _ => ∃ tried, Tally past [] [] [error] tried
  | .stopped (.applying (e :: rest)) error, past, u => ∃ done outcome detail,
      p.pending = done ++ e :: rest ∧ failure? outcome = some detail
      ∧ error = .scriptFailed e.script.path detail
      ∧ Midway w p s done [(e.script.location, outcome)] [] [] past u
  | .stopped (.recording e rest) error, past, u => ∃ done speed, p.pending = done ++ e :: rest
      ∧ Midway w p s done [clean e] [.error error]
          [.record e.script.path e.script.hash speed] past u
  | .stopped (.applying []) _, _, _ => False
  | .stopped (.stopped _ _) _, _, _ => False
  | .tidying, past, _ | .stopped .tidying _, past, _ => ∃ tried,
      Tally past (p.pending.map clean) (p.pending.map fun _ => .ok ()) [] tried

/-! ## What a step adds to the account -/

section

variable {done : List PlannedFile} {m : Exchange interface} {t : σ}
variable {ran : List (Path × Except DatabaseError Int)} {recorded : List (Except UpdateError Unit)}
variable {tried : List Change}

/-- An exchange that is none of the counted ones. -/
structure Uncounted (m : Exchange interface) : Prop where
  ran : ran? m = none
  recorded : recorded? m = none
  refused : refused? m = none
  tried : tried? m = none

theorem Tally.uncounted {refused : List UpdateError}
    (h : Tally past ran recorded refused tried) (hm : Uncounted m) :
    Tally (past ++ [m]) ran recorded refused tried := by
  simpa [hm.ran, hm.recorded, hm.refused, hm.tried] using h.append m

theorem Midway.uncounted (h : Midway w p s done ran recorded tried past u) (hm : Uncounted m)
    (ha : w.answer m.1 u = (m.2, t)) : Midway w p s done ran recorded tried (past ++ [m]) t := by
  obtain ⟨cs, hcs, hmade, htally⟩ := h
  rw [← w.view_eq_of_records_eq (records_of_quiet ha hm.tried)] at hmade
  exact ⟨cs, hcs, hmade, htally.uncounted hm⟩

/-- What is neither counted nor asked of the ledger changes no account. -/
theorem Account.uncounted (h : Account w p s phase past u) (hm : Uncounted m)
    (ha : w.answer m.1 u = (m.2, t)) : Account w p s phase (past ++ [m]) t := by
  -- In every phase the account is of what was counted, and that has not grown.
  cases phase with
  | settling rest =>
      obtain ⟨done, hsplit, hmade, htally⟩ := h
      rw [← w.view_eq_of_records_eq (records_of_quiet ha hm.tried)] at hmade
      exact ⟨done, hsplit, hmade, htally.uncounted hm⟩
  | applying rest =>
      obtain ⟨done, hsplit, hmid⟩ := h
      exact ⟨done, hsplit, hmid.uncounted hm ha⟩
  | recording e rest =>
      obtain ⟨done, hsplit, hmid⟩ := h
      exact ⟨done, hsplit, hmid.uncounted hm ha⟩
  | tidying =>
      obtain ⟨tried, htally⟩ := h
      exact ⟨tried, htally.uncounted hm⟩
  | stopped before error =>
      cases before with
      | settling rest =>
          obtain ⟨tried, htally⟩ := h
          exact ⟨tried, htally.uncounted hm⟩
      | applying rest =>
          cases rest with
          | nil => exact h
          | cons e rest =>
              obtain ⟨done, outcome, detail, hsplit, hfail, herror, hmid⟩ := h
              exact ⟨done, outcome, detail, hsplit, hfail, herror, hmid.uncounted hm ha⟩
      | recording e rest =>
          obtain ⟨done, speed, hsplit, hmid⟩ := h
          exact ⟨done, speed, hsplit, hmid.uncounted hm ha⟩
      | tidying =>
          obtain ⟨tried, htally⟩ := h
          exact ⟨tried, htally.uncounted hm⟩
      | stopped before error => exact h

/-- Running a script is counted, and leaves the ledger alone. -/
theorem Midway.run (h : Midway w p s done [] [] [] past u) {location : Path}
    {outcome : Except DatabaseError Int}
    (ha : w.answer (.runScript location) u = (outcome, t)) :
    Midway w p s done [(location, outcome)] [] []
      (past ++ [⟨.runScript location, outcome⟩]) t := by
  obtain ⟨cs, hcs, hmade, htally⟩ := h
  rw [← w.view_eq_of_records_eq (records_of_quiet (m := ⟨.runScript location, outcome⟩) ha rfl)]
    at hmade
  have := htally.append ⟨.runScript location, outcome⟩
  exact ⟨cs, hcs, hmade, by simpa [ran?, recorded?, refused?, tried?, Request.change?] using this⟩

/-- A script that is recorded has been dealt with. -/
theorem Midway.record (h : Midway w p s done [clean e] [] [] past u) {speed : Nat}
    (ha : w.answer (.ledger (.change (.record e.script.path e.script.hash speed))) u
      = (.ok (), t)) :
    Midway w p s (done ++ [e]) [] [] []
      (past ++ [⟨.ledger (.change (.record e.script.path e.script.hash speed)), .ok ()⟩]) t := by
  obtain ⟨cs, hcs, hmade, htally⟩ := h
  obtain ⟨time, hview⟩ := change_ok ha
  have := htally.append ⟨.ledger (.change (.record e.script.path e.script.hash speed)), .ok ()⟩
  refine ⟨cs ++ [.record e.script.path e.script.hash speed], ?_, ?_, ?_⟩
  · exact List.rel_append hcs (.cons ⟨speed, rfl⟩ .nil)
  · rw [← List.append_assoc]
    exact hmade.append (.cons time (hview ▸ .nil _))
  · simpa [ran?, recorded?, refused?, tried?, Request.change?] using this

/-- A script that could not be recorded leaves the ledger alone. -/
theorem Midway.lose (h : Midway w p s done [clean e] [] [] past u) {speed : Nat}
    {error : UpdateError}
    (ha : w.answer (.ledger (.change (.record e.script.path e.script.hash speed))) u
      = (.error error, t)) :
    Midway w p s done [clean e] [.error error] [.record e.script.path e.script.hash speed]
      (past ++ [⟨.ledger (.change (.record e.script.path e.script.hash speed)), .error error⟩])
      t := by
  obtain ⟨cs, hcs, hmade, htally⟩ := h
  rw [← w.view_eq_of_records_eq (records_of_failed ha)] at hmade
  have :=
    htally.append ⟨.ledger (.change (.record e.script.path e.script.hash speed)), .error error⟩
  exact ⟨cs, hcs, hmade, by simpa [ran?, recorded?, refused?, tried?, Request.change?] using this⟩

/-- Looking after counters runs no script, records none, and settles no entry. -/
theorem Tidies.tally (hq : Tidies p m.1) {refused : List UpdateError}
    (h : Tally past ran recorded refused tried) :
    Tally (past ++ [m]) ran recorded refused (tried ++ m.1.change?.toList) := by
  have := h.append m
  obtain ⟨q, reply⟩ := m
  cases hq with
  | clear hp => simpa [ran?, recorded?, refused?, tried?] using this
  | count hd => simpa [ran?, recorded?, refused?, tried?] using this
  | remove hd => simpa [ran?, recorded?, refused?, tried?] using this

/-- Settling an entry is tried; a failure is a refusal. -/
theorem Tally.settle {c : Change} (hc : ledgerChange e = some c) {reply : Except UpdateError Unit}
    (h : Tally past [] [] [] tried) :
    Tally (past ++ [⟨.ledger (.change c), reply⟩]) [] []
      (match reply with
        | .ok _ => []
        | .error error => [error]) (tried ++ [c]) := by
  have := h.append ⟨.ledger (.change c), reply⟩
  rcases ledgerChange_cases hc with ⟨old, -, rfl⟩ | ⟨-, rfl⟩ | ⟨record, -, rfl⟩
  · cases reply <;> simpa [ran?, recorded?, refused?, tried?, Request.change?] using this
  · cases reply <;> simpa [ran?, recorded?, refused?, tried?, Request.change?] using this
  · cases reply <;> simpa [ran?, recorded?, refused?, tried?, Request.change?] using this

end

variable {before after : Phase}

/-- A turn keeps the account. -/
theorem Account.turn (h : Account w p s before past u) (ht : Turn p before after) :
    Account w p s after past u := by
  cases ht with
  | @skip e hc rest =>
      obtain ⟨done, hsplit, hmade, htally⟩ := h
      -- An entry that calls for no change is passed over, so the changes made are the same.
      have hdone : (done ++ [e]).filterMap ledgerChange = done.filterMap ledgerChange := by
        simp [hc]
      exact ⟨done ++ [e], by simpa using hsplit, hdone ▸ hmade, hdone ▸ htally⟩
  | settled =>
      obtain ⟨done, hsplit, hmade, htally⟩ := h
      have hdone : done.filterMap ledgerChange = settlements p := by
        rw [settlements, hsplit, List.append_nil]
      -- All entries are behind, so the changes made are all the settlements.
      rw [hdone] at hmade htally
      exact ⟨[], rfl, [], .nil, by simpa using hmade, by simpa using htally⟩
  | applied =>
      obtain ⟨done, hsplit, cs, -, -, htally⟩ := h
      rw [List.append_nil] at hsplit
      rw [← hsplit, List.append_nil, List.append_nil] at htally
      exact ⟨_, htally⟩

/-- A step keeps the account. -/
theorem Account.step {m : Exchange interface} {t : σ} (h : Account w p s before past u)
    (hs : Step p before m after) (ha : w.answer m.1 u = (m.2, t)) :
    Account w p s after (past ++ [m]) t := by
  cases hs with
  | report phase line => exact h.uncounted ⟨rfl, rfl, rfl, rfl⟩ ha
  | clock phase time => exact h.uncounted ⟨rfl, rfl, rfl, rfl⟩ ha
  | @settle e c hc rest =>
      obtain ⟨done, hsplit, hmade, htally⟩ := h
      obtain ⟨time, hview⟩ := change_ok ha
      have hdone : (done ++ [e]).filterMap ledgerChange = done.filterMap ledgerChange ++ [c] := by
        simp [hc]
      refine ⟨done ++ [e], by simpa using hsplit, ?_, ?_⟩
      · rw [hdone]
        exact hmade.append (.cons time (hview ▸ .nil _))
      · rw [hdone]
        exact htally.settle hc
  -- A refused change has been tried all the same, and is the only refusal.
  | @refuse e c hc rest error =>
      obtain ⟨done, hsplit, hmade, htally⟩ := h
      exact ⟨_, htally.settle hc⟩
  | run e rest =>
      obtain ⟨done, hsplit, hmid⟩ := h
      exact ⟨done, hsplit, hmid.run ha⟩
  | @fail e rest outcome detail hf =>
      obtain ⟨done, hsplit, hmid⟩ := h
      exact ⟨done, outcome, detail, hsplit, hf, rfl, hmid.run ha⟩
  -- Only now does the script count as done; up to here it had run without a record.
  | record e rest speed =>
      obtain ⟨done, hsplit, hmid⟩ := h
      exact ⟨done ++ [e], by simpa using hsplit, hmid.record ha⟩
  | lose e rest speed error =>
      obtain ⟨done, hsplit, hmid⟩ := h
      exact ⟨done, speed, hsplit, hmid.lose ha⟩
  -- Cleaning up is not accounted for, beyond being tried.
  | tidy hq =>
      obtain ⟨tried, htally⟩ := h
      exact ⟨_, hq.tally htally⟩
  | leave hq =>
      obtain ⟨tried, htally⟩ := h
      exact ⟨_, hq.tally htally⟩

/-- The account is true wherever a run has come. -/
theorem Course.account (h : Course w p s phase past u) : Account w p s phase past u := by
  induction h with
  | start => exact ⟨[], rfl, .nil _, rfl, rfl, rfl, rfl⟩
  | turn _ ht ih => exact ih.turn ht
  | step _ hs ha ih => exact ih.step hs ha

/-! ## The end of a run -/

/-- Of a plan the ledger changes are made and the first scripts are recorded, and nothing
    else has happened to the ledger; `more` was tried besides. -/
def LeftAt (w : Surroundings σ) (p : Plan) (s : σ) (k : Nat) (more : List Change)
    (past : List (Exchange interface)) (t : σ) : Prop :=
  ∃ cs, Recordings (p.pending.take k) cs ∧ Made (settlements p ++ cs) (w.view s) (w.view t)
    ∧ past.filterMap tried? = settlements p ++ cs ++ more

/-- What is true of a run that has ended, of its exchanges, and of the ledger that it leaves. -/
structure FailsFast (w : Surroundings σ) (p : Plan) (s : σ) (result : Except UpdateError Summary)
    (past : List (Exchange interface)) (t : σ) : Prop where
  /-- The scripts that are run are the first pending ones, in order. -/
  order : (past.filterMap ran?).map Prod.fst <+: p.pending.map fun e => e.script.location
  /-- A failure to rename, rehash or archive is the result, and no script is run. -/
  refused : ∀ error ∈ past.filterMap refused?, past.filterMap ran? = [] ∧ result = .error error
  /-- A script that fails ends the run with its path. -/
  failed : ∀ k e location outcome detail, p.pending[k]? = some e →
    (past.filterMap ran?)[k]? = some (location, outcome) → failure? outcome = some detail →
    result = .error (.scriptFailed e.script.path detail) ∧ LeftAt w p s k [] past t
  /-- A script that is not recorded ends the run with the error of the ledger. -/
  lost : ∀ k e error, p.pending[k]? = some e →
    (past.filterMap recorded?)[k]? = some (.error error) →
    result = .error error
      ∧ ∃ speed, LeftAt w p s k [.record e.script.path e.script.hash speed] past t

/-- A value that no element is mapped to, if it is found behind the mapped ones, is the last. -/
theorem eq_of_map_append_singleton {α β : Type} {f : α → β} {l : List α} {b b' : β} {k : Nat}
    (h : (l.map f ++ [b'])[k]? = some b) (hne : ∀ a, f a ≠ b) : k = l.length ∧ b' = b := by
  by_cases hk : k < l.length
  · rw [List.getElem?_append_left (by simpa using hk), List.getElem?_map] at h
    obtain ⟨a, -, ha⟩ := Option.map_eq_some_iff.mp h
    exact absurd ha (hne a)
  · rw [List.getElem?_append_right (by simpa using hk), List.length_map] at h
    obtain ⟨hlt, heq⟩ := List.getElem?_eq_some_iff.mp h
    have hzero : k - l.length = 0 := by simpa using hlt
    exact ⟨by omega, by simpa [hzero] using heq⟩

/-- A clean run is not one that fails. -/
theorem clean_ne {location : Path} {outcome : Except DatabaseError Int} {detail : String}
    (hf : failure? outcome = some detail) (e : PlannedFile) : clean e ≠ (location, outcome) := by
  intro heq
  obtain ⟨-, rfl⟩ := Prod.mk.inj heq
  cases hf

section

variable {done rest : List PlannedFile} {ran : List (Path × Except DatabaseError Int)}
variable {recorded : List (Except UpdateError Unit)} {tried : List Change}

/-- Where scripts were run up to one, they are the first pending ones. -/
theorem Midway.order (h : Midway w p s done ran recorded tried past u)
    (hsplit : p.pending = done ++ e :: rest) (hran : ran.map Prod.fst = [e.script.location]) :
    (past.filterMap ran?).map Prod.fst <+: p.pending.map fun e => e.script.location := by
  obtain ⟨cs, -, -, htally⟩ := h
  rw [htally.ran, List.map_append, List.map_map, hran, hsplit]
  exact ⟨rest.map fun e => e.script.location, by simp [clean]⟩

/-- Midway through the scripts, the ledger is as a stop leaves it there. -/
theorem Midway.leftAt (h : Midway w p s done ran recorded tried past u)
    (hsplit : p.pending = done ++ e :: rest) : LeftAt w p s done.length tried past u := by
  obtain ⟨cs, hcs, hmade, htally⟩ := h
  refine ⟨cs, ?_, hmade, htally.tried⟩
  rw [hsplit, List.take_left]
  exact hcs

/-- The pending script with the number of those before it. -/
theorem getElem?_done {e' : PlannedFile} (hsplit : p.pending = done ++ e :: rest)
    (h : p.pending[done.length]? = some e') : e = e' := by
  rw [hsplit, List.getElem?_append_right (Nat.le_refl _), Nat.sub_self] at h
  exact Option.some.inj h

/-- Among scripts that were run with status zero, none has failed. -/
theorem Tally.unfailed {refused : List UpdateError}
    (h : Tally past (done.map clean) recorded refused tried) {k : Nat} {location : Path}
    {outcome : Except DatabaseError Int} {detail : String}
    (hran : (past.filterMap ran?)[k]? = some (location, outcome)) :
    failure? outcome ≠ some detail := by
  intro hf
  rw [h.ran, List.getElem?_map] at hran
  obtain ⟨e, -, he⟩ := Option.map_eq_some_iff.mp hran
  exact clean_ne hf e he

/-- Among scripts that were recorded, none is lost. -/
theorem Tally.unlost {refused : List UpdateError}
    (h : Tally past ran (done.map fun _ => .ok ()) refused tried) {k : Nat} {error : UpdateError} :
    (past.filterMap recorded?)[k]? ≠ some (.error error) := by
  intro hrec
  rw [h.recorded, List.getElem?_map] at hrec
  obtain ⟨e, -, he⟩ := Option.map_eq_some_iff.mp hrec
  cases he

/-- Where nothing was refused, no refusal is found. -/
theorem Tally.unrefused (h : Tally past ran recorded [] tried) (error : UpdateError) :
    error ∉ past.filterMap refused? := by
  rw [h.refused]
  exact List.not_mem_nil

variable {error : UpdateError} {t : σ}

/-- An account that tells of no failure of a script, nor of recording one. -/
theorem failsFast_of_tally {result : Except UpdateError Summary}
    (h : Tally past (p.pending.map clean) (p.pending.map fun _ => .ok ()) [] tried) :
    FailsFast w p s result past t := by
  constructor
  case order =>
    rw [h.ran, List.map_map]
    exact List.prefix_refl _
  case refused => exact fun error herror => absurd herror (h.unrefused error)
  case failed => exact fun k e location outcome detail _ hran hf => absurd hf (h.unfailed hran)
  case lost => exact fun k e error _ hrec => absurd hrec h.unlost

/-- An account that ends with a change that was refused, before any script was run. -/
theorem failsFast_of_refused (h : Tally past [] [] [error] tried) :
    FailsFast w p s (.error error) past t := by
  constructor
  case order =>
    rw [h.ran]
    exact List.nil_prefix
  case refused =>
    intro error' herror
    rw [h.refused] at herror
    rw [List.mem_singleton.mp herror]
    exact ⟨h.ran, rfl⟩
  -- No script was run before the refusal, so none has failed or lost its record.
  case failed =>
    intro k e location outcome detail _ hran _
    rw [h.ran] at hran
    cases hran
  case lost =>
    intro k e error' _ hrec
    rw [h.recorded] at hrec
    cases hrec

/-- An account that ends with a script that has failed. -/
theorem failsFast_of_failed (hsplit : p.pending = done ++ e :: rest)
    {outcome : Except DatabaseError Int} {detail : String} (hf : failure? outcome = some detail)
    (h : Midway w p s done [(e.script.location, outcome)] [] [] past t) :
    FailsFast w p s (.error (.scriptFailed e.script.path detail)) past t := by
  obtain ⟨cs, -, -, htally⟩ := id h
  constructor
  case order => exact h.order hsplit rfl
  case refused => exact fun error herror => absurd herror (htally.unrefused error)
  case failed =>
    intro k e' location' outcome' detail' he' hran hf'
    rw [htally.ran] at hran
    -- All runs but the last were clean, so the one that failed is the last one.
    obtain ⟨rfl, heq⟩ := eq_of_map_append_singleton hran (clean_ne hf')
    obtain ⟨-, rfl⟩ := Prod.mk.inj heq
    obtain rfl := Option.some.inj (hf.symm.trans hf')
    obtain rfl := getElem?_done hsplit he'
    exact ⟨rfl, h.leftAt hsplit⟩
  case lost =>
    intro k e' error _ hrec
    rw [List.append_nil] at htally
    exact absurd hrec htally.unlost

/-- An account that ends with a script that was run and is not recorded. -/
theorem failsFast_of_lost (hsplit : p.pending = done ++ e :: rest) {speed : Nat}
    (h : Midway w p s done [clean e] [.error error] [.record e.script.path e.script.hash speed]
      past t) : FailsFast w p s (.error error) past t := by
  obtain ⟨cs, -, -, htally⟩ := id h
  constructor
  case order => exact h.order hsplit rfl
  case refused => exact fun error herror => absurd herror (htally.unrefused error)
  case failed =>
    intro k e' location outcome detail _ hran hf
    rw [show done.map clean ++ [clean e] = (done ++ [e]).map clean by simp] at htally
    exact absurd hf (htally.unfailed hran)
  case lost =>
    intro k e' error' he' hrec
    rw [htally.recorded] at hrec
    obtain ⟨rfl, heq⟩ := eq_of_map_append_singleton hrec fun _ heq => by cases heq
    obtain rfl := Except.error.inj heq
    obtain rfl := getElem?_done hsplit he'
    exact ⟨rfl, speed, h.leftAt hsplit⟩

end

/-- What the account says of a run that has come to its end. -/
theorem Account.failsFast {result : Except UpdateError Summary} {t : σ}
    (hend : (∃ summary, result = .ok summary ∧ Account w p s .tidying past t)
      ∨ ∃ before error, result = .error error ∧ Account w p s (.stopped before error) past t) :
    FailsFast w p s result past t := by
  rcases hend with ⟨summary, rfl, tried, htally⟩ | ⟨before, error, rfl, h⟩
  · exact failsFast_of_tally htally
  cases before with
  | settling rest =>
      obtain ⟨tried, htally⟩ := h
      exact failsFast_of_refused htally
  | applying rest =>
      cases rest with
      -- Applying cannot stop with nothing left to apply.
      | nil => exact h.elim
      | cons e rest =>
          obtain ⟨done, outcome, detail, hsplit, hf, rfl, hmid⟩ := h
          exact failsFast_of_failed hsplit hf hmid
  | recording e rest =>
      obtain ⟨done, speed, hsplit, hmid⟩ := h
      exact failsFast_of_lost hsplit hmid
  | tidying =>
      obtain ⟨tried, htally⟩ := h
      exact failsFast_of_tally htally
  | stopped before error => exact h.elim

/-- Carrying out any plan fails fast, whatever scripts and ledger statements fail. -/
theorem apply_failsFast (w : Surroundings σ) (p : Plan) (options : Options) (s : σ) :
    FailsFast w p s (w.perform (apply p options) s).1
      (((apply p options).run.trail w.answer s).map Prod.fst)
      (w.perform (apply p options) s).2 := by
  have hend := course_of_end w p options s
  refine Account.failsFast ?_
  cases hresult : (w.perform (apply p options) s).1 with
  | ok summary =>
      rw [hresult] at hend
      exact Or.inl ⟨summary, rfl, Course.account hend⟩
  | error error =>
      rw [hresult] at hend
      obtain ⟨before, hcourse⟩ := hend
      exact Or.inr ⟨before, error, rfl, hcourse.account⟩

/-- A file that has moved, and three new ones. -/
def movedAndNew : List Script :=
  [Bench.live "a.sql" "first", Bench.live "b.sql" "second", Bench.live "c.sql" "third",
    Bench.live "new.sql" "moved"]

/-- The second of the new files fails. -/
def failingBench : Bench :=
  ⟨[], [⟨"/updates/b.sql"⟩], [Bench.applied "old.sql" "moved"], by decide⟩

/-- The run ends with the path of the second file, when the record has moved and the first
    file is recorded. -/
theorem apply_failsFast_second :
    let p := Bench.surroundings.planFor movedAndNew [] .standard failingBench
    (Bench.surroundings.perform (apply p .standard) failingBench).1
        = .error (.scriptFailed "b.sql" "SQL client exited with status 1")
      ∧ LeftAt Bench.surroundings p failingBench 1 []
          (((apply p .standard).run.trail Bench.answer failingBench).map Prod.fst)
          (Bench.surroundings.perform (apply p .standard) failingBench).2 :=
  (apply_failsFast Bench.surroundings _ .standard failingBench).failed 1
    ⟨Bench.live "b.sql" "second", .pending .new⟩ ⟨"/updates/b.sql"⟩ (.ok 1) _
    (by cbv) (by cbv) (by cbv)

end SchemaMigration.Update
