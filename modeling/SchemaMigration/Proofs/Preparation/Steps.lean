import SchemaMigration.Proofs.Preparation.DryRun

/-! # Steps — what each step of a preparation may run

    Preparing a database is three steps: it is made to exist, populated and brought
    up to date.  Each of them runs files of its own kind only, however the database,
    the runner, the operator and the downloader answer:

    * `databaseExists_opens`, `createDatabase_opens`, `ensureDatabase_opens`: the
      first step runs the creation script and nothing else, and succeeds only if the
      database was found or its creation ended with status zero;
    * `update_scripted`: the last step runs the scripts that its scan has found. -/

namespace SchemaMigration.Preparation

open Ledger Program Update

variable {p : Preparation} {past : List (Exchange Site.interface)}
variable {m : Exchange Site.interface} {autoSetup : Bool}

/-! ## Making the database exist -/

/-- The database was found. -/
def Found (past : List (Exchange Site.interface)) : Prop :=
  (⟨.database .exists, .ok true⟩ : Exchange Site.interface) ∈ past

/-- The script is a temporary one with the text that makes the database. -/
def Creation (p : Preparation) (script : Path) (past : List (Exchange Site.interface)) : Prop :=
  (⟨.machine (.makeTemporary p.creationScript), .ok script⟩ : Exchange Site.interface) ∈ past

/-- The creation script was applied, over a connection without a database, and ended with
    status zero. -/
def Created (p : Preparation) (past : List (Exchange Site.interface)) : Prop :=
  ∃ script, Creation p script past ∧ (⟨.runner (.file p.target.connection.withoutDatabase script),
    .ok 0⟩ : Exchange Site.interface) ∈ past

/-- What the first step has done: it succeeds only with evidence, and runs only creation
    scripts, and these only where databases may be made. -/
structure Opened (p : Preparation) (autoSetup ok : Bool) (past : List (Exchange Site.interface)) :
    Prop where
  evidence : ok = true → Found past ∨ autoSetup = true ∧ Created p past
  creates : ∀ m ∈ past, ∀ file outcome, ranFile? m = some (file, outcome) → autoSetup = true
    ∧ ∃ script, file = (p.target.connection.withoutDatabase, script) ∧ Creation p script past

/-- Where nothing succeeds, an exchange that runs nothing changes nothing. -/
theorem Opened.append {ok : Bool} (h : Opened p autoSetup ok past) (hm : ranFile? m = none) :
    Opened p autoSetup ok (past ++ [m]) := by
  constructor
  case evidence =>
    intro hok
    rcases h.evidence hok with hfound | ⟨hauto, script, hscript, hran⟩
    · exact Or.inl (List.mem_append_left _ hfound)
    · exact Or.inr ⟨hauto, script, List.mem_append_left _ hscript, List.mem_append_left _ hran⟩
  case creates =>
    intro x hx file outcome hfile
    rcases List.mem_append.mp hx with hold | hnew
    · obtain ⟨hauto, script, heq, hscript⟩ := h.creates x hold file outcome hfile
      exact ⟨hauto, script, heq, List.mem_append_left _ hscript⟩
    · rw [List.mem_singleton.mp hnew, hm] at hfile
      exact nomatch hfile

variable {σ : Type} {answer : (q : Site.Request) → σ → q.Reply × σ} {s : σ}

/-- A part of the first step keeps to what that step may do. -/
def Opens (answer : (q : Site.Request) → σ → q.Reply × σ) (p : Preparation) (autoSetup : Bool)
    (part : Program Site.interface Bool) (past : List (Exchange Site.interface)) (s : σ) : Prop :=
  part.Keeps answer (fun _ _ => True) (fun ok past _ => Opened p autoSetup ok past) past s

/-- A question that runs nothing may have any answer, and what follows has heard it. -/
theorem opens_ask {q : Site.Request} {next : q.Reply → Program Site.interface Bool} {ok : Bool}
    (h : Opened p autoSetup ok past) (hq : RunsNothing q)
    (hnext : ∀ reply past t, Opened p autoSetup ok past →
      (⟨q, reply⟩ : Exchange Site.interface) ∈ past →
      Opens answer p autoSetup (next reply) past t) :
    Opens answer p autoSetup (.ask q next) past s :=
  ⟨trivial, hnext _ _ _ (h.append (hq _)) (List.mem_append_right _ List.mem_cons_self)⟩

theorem opens_bind {part : Program Site.interface Bool} {next : Bool → Program Site.interface Bool}
    (h : Opens answer p autoSetup part past s)
    (hnext : ∀ ok past t, Opened p autoSetup ok past →
      Opens answer p autoSetup (next ok) past t) :
    Opens answer p autoSetup (part.bind next) past s :=
  (keeps_bind part next past s).mpr (h.mono fun ok past t => hnext ok past t)

/-- A last report changes nothing. -/
theorem opens_log {line : Log.Line} {ok : Bool} (h : Opened p autoSetup ok past) :
    Opens answer p autoSetup ((Site.log line).bind fun _ => .done ok) past s :=
  opens_ask h (fun _ => rfl) fun _ _ _ h _ => h

/-- Looking whether the database exists succeeds only if it does. -/
theorem databaseExists_opens (h : Opened p autoSetup false past) :
    Opens answer p autoSetup p.databaseExists past s := by
  refine opens_ask h (fun _ => rfl) fun reply past t h hheard => ?_
  cases reply with
  | error e => exact opens_log h
  | ok there =>
      cases there with
      | false => exact h
      | true => exact ⟨fun _ => Or.inl hheard, h.creates⟩

/-- The creation script runs over a connection without a database. -/
theorem Opened.run (hauto : autoSetup = true) (h : Opened p autoSetup false past) {script : Path}
    (hscript : Creation p script past) (outcome : Except DatabaseError Int) :
    Opened p autoSetup false
      (past ++ [⟨.runner (.file p.target.connection.withoutDatabase script), outcome⟩]) := by
  refine ⟨nofun, fun x hx file ended hfile => ?_⟩
  rcases List.mem_append.mp hx with hold | hnew
  · obtain ⟨-, other, heq, hother⟩ := h.creates x hold file ended hfile
    exact ⟨hauto, other, heq, List.mem_append_left _ hother⟩
  · rw [List.mem_singleton.mp hnew] at hfile
    obtain ⟨hthis, -⟩ := Prod.mk.inj (Option.some.inj hfile)
    exact ⟨hauto, script, hthis.symm, List.mem_append_left _ hscript⟩

/-- The creation script succeeds with status zero only. -/
theorem runCreation_opens (hauto : autoSetup = true) (h : Opened p autoSetup false past)
    {script : Path} (hscript : Creation p script past) :
    Opens answer p autoSetup (p.runCreation script) past s := by
  refine ⟨trivial, ?_⟩
  generalize (answer (.runner (.file p.target.connection.withoutDatabase script)) s).1 = outcome
  generalize (answer (.runner (.file p.target.connection.withoutDatabase script)) s).2 = t
  have hran := h.run hauto hscript outcome
  cases outcome with
  | error e => exact opens_log hran
  | ok status =>
      cases status with
      | ofNat n =>
          cases n with
          | zero =>
              -- The script was there and has been run with status zero, which is what counts as
              -- created.
              have hcreated : Created p (past ++ [⟨.runner
                  (.file p.target.connection.withoutDatabase script), .ok 0⟩]) :=
                ⟨script, List.mem_append_left _ hscript,
                  List.mem_append_right _ List.mem_cons_self⟩
              have hopened : Opened p autoSetup true _ :=
                ⟨fun _ => Or.inr ⟨hauto, hcreated⟩, hran.creates⟩
              exact opens_log hopened
          | succ n => exact opens_log hran
      | negSucc n => exact opens_log hran

/-- Making the database runs a creation script, and nothing else. -/
theorem createDatabase_opens (hauto : autoSetup = true) (h : Opened p autoSetup false past) :
    Opens answer p autoSetup p.createDatabase past s := by
  refine opens_ask h (fun _ => rfl) fun _ past t h _ => ?_
  refine opens_ask h (fun _ => rfl) fun made past t h hheard => ?_
  cases made with
  | error fault => exact opens_log h
  | ok script =>
      refine opens_bind (runCreation_opens hauto h hheard) fun ok past t h => ?_
      exact opens_ask h (fun _ => rfl) fun _ _ _ h _ => h

/-- A database that is not found is made. -/
theorem ensureDatabase_opens (hauto : autoSetup = true) (h : Opened p autoSetup false past) :
    Opens answer p autoSetup p.ensureDatabase past s := by
  refine opens_bind (databaseExists_opens h) fun ok past t hopened => ?_
  cases ok with
  | true => exact hopened
  | false => exact createDatabase_opens hauto hopened

/-! ## Bringing the database up to date -/

/-- The file is the script of a database that a scan has found. -/
def IsScript (p : Preparation) (file : Connection × Path)
    (past : List (Exchange Site.interface)) : Prop :=
  file.1 = p.target.connection ∧ ∃ source live archived,
    (⟨.machine (.scan source), .ok (live, archived)⟩ : Exchange Site.interface) ∈ past
      ∧ ∃ x ∈ live, x.location = file.2

/-- Every file that was run is a script that a scan has found. -/
def Scripted (p : Preparation) (past : List (Exchange Site.interface)) : Prop :=
  ∀ m ∈ past, ∀ file outcome, ranFile? m = some (file, outcome) → IsScript p file past

/-- One more exchange leaves the past scripted if the file that it runs, if any, is a script. -/
theorem Scripted.append (h : Scripted p past)
    (hm : ∀ file outcome, ranFile? m = some (file, outcome) → IsScript p file past) :
    Scripted p (past ++ [m]) := by
  intro x hx file outcome hfile
  have hscript : IsScript p file past := by
    rcases List.mem_append.mp hx with hold | hnew
    · exact h x hold file outcome hfile
    · rw [List.mem_singleton.mp hnew] at hfile
      exact hm file outcome hfile
  obtain ⟨hconnection, source, live, archived, hscan, hfound⟩ := hscript
  exact ⟨hconnection, source, live, archived, List.mem_append_left _ hscan, hfound⟩

theorem Scripted.quiet (h : Scripted p past) (hm : ranFile? m = none) :
    Scripted p (past ++ [m]) :=
  h.append fun file outcome hfile => by rw [hm] at hfile; exact nomatch hfile

/-- What runs nothing may come before. -/
theorem Scripted.behind {before : List (Exchange Site.interface)}
    (hbefore : ∀ m ∈ before, ranFile? m = none) (h : Scripted p past) :
    Scripted p (before ++ past) := by
  intro m hm file outcome hfile
  rcases List.mem_append.mp hm with hfirst | hlater
  · rw [hbefore m hfirst] at hfile
    exact nomatch hfile
  · obtain ⟨hconnection, source, live, archived, hscan, hfound⟩ := h m hlater file outcome hfile
    exact ⟨hconnection, source, live, archived, List.mem_append_right _ hscan, hfound⟩

/-- The request runs no file but the scripts of a list, over the connection of the database. -/
def Only (p : Preparation) (live : List Script) (q : Site.Request) : Prop :=
  ∀ reply file outcome, ranFile? ⟨q, reply⟩ = some (file, outcome) →
    file.1 = p.target.connection ∧ ∃ x ∈ live, x.location = file.2

/-- The request of an update run runs no script but those of a list. -/
def Within (live : List Script) (q : Update.Request) : Prop :=
  ∀ location, q = .runScript location → ∃ x ∈ live, x.location = location

theorem answerRun_only {live : List Script} {q : Update.Request} (h : Within live q) :
    (answerRun p.target q).Asks (Only p live) := by
  have hnothing : ∀ {part : Program Site.interface q.Reply},
      part.Asks RunsNothing → part.Asks (Only p live) := fun hpart =>
    hpart.mono fun q hq reply file outcome hfile => by rw [hq reply] at hfile; exact nomatch hfile
  cases q with
  | runScript location =>
      refine ⟨fun reply file outcome hfile => ?_, fun _ => trivial⟩
      obtain ⟨hthis, -⟩ := Prod.mk.inj (Option.some.inj hfile)
      rw [← hthis]
      exact ⟨rfl, h location rfl⟩
  | ledger op => exact hnothing (perform_runsNothing p.target.dialect op)
  | _ => exact hnothing ⟨fun _ => rfl, fun _ => trivial⟩

/-- Carrying out a plan runs scripts that were found. -/
theorem apply_within (live archived : List Script) (known : List Record) (options : Options) :
    (Update.apply (Plan.build ⟨live, archived, known, options⟩) options).run.Asks
      (Within live) := by
  refine (apply_asks _ options).mono fun q hq location heq => ?_
  subst heq
  cases hq with
  | tend h => exact nomatch h
  | @run e he =>
      obtain ⟨hl, -⟩ := Plan.mem_pending_iff.mp he
      exact ⟨e.script, Plan.live_of_mem_liveEntries hl, rfl⟩

/-- What only runs the scripts of a list keeps to them, once a scan has found the list. -/
theorem keeps_of_only {α : Type} {part : Program Site.interface α} {source : ScriptSource}
    {live archived : List Script} (hpart : part.Asks (Only p live)) (h : Scripted p past)
    (hscan : (⟨.machine (.scan source), .ok (live, archived)⟩ : Exchange Site.interface) ∈ past) :
    part.Keeps answer (fun _ _ => True) (fun _ past _ => Scripted p past) past s := by
  have hboth : part.Keeps answer
      (fun past _ => Scripted p past
        ∧ (⟨.machine (.scan source), .ok (live, archived)⟩ : Exchange Site.interface) ∈ past)
      (fun _ past _ => Scripted p past
        ∧ (⟨.machine (.scan source), .ok (live, archived)⟩ : Exchange Site.interface) ∈ past)
      past s := by
    refine hpart.keeps (fun q past t hq hpast => ?_) ⟨h, hscan⟩
    refine ⟨hpast.1.append fun file outcome hfile => ?_, List.mem_append_left _ hpast.2⟩
    obtain ⟨hconnection, hfound⟩ := hq _ file outcome hfile
    exact ⟨hconnection, source, live, archived, hpast.2, hfound⟩
  exact hboth.imp (fun _ _ _ => trivial) fun _ _ _ hpast => hpast.1

/-- An update run on a database runs scripts that its scan has found. -/
theorem carryOut_scripted {source : ScriptSource} {options : Options} (h : Scripted p past) :
    (carryOut p.target (Update.update source options)).Keeps answer (fun _ _ => True)
      (fun _ past _ => Scripted p past) past s := by
  rw [carryOut, update_run]
  refine ⟨trivial, ?_⟩
  generalize (answer (.machine (.scan source)) s).1 = found
  generalize (answer (.machine (.scan source)) s).2 = t
  have hscanned := h.quiet (m := ⟨.machine (.scan source), found⟩) rfl
  cases found with
  | error e => exact hscanned
  | ok found =>
      obtain ⟨live, archived⟩ := found
      -- The scan is the first request, and whatever is run later was found by it.
      refine keeps_of_only (Asks.via ?_ fun q (hq : Within live q) => answerRun_only hq) hscanned
        (List.mem_append_right _ List.mem_cons_self)
      constructor
      · intro location heq
        cases heq
      · intro listed
        cases listed with
        | error e => trivial
        | ok known =>
            constructor
            · intro location heq
              cases heq
            · exact fun _ => apply_within live archived known options

/-- An update runs only scripts that it has found itself. -/
theorem runUpdate_scripted (h : Scripted p past) :
    p.runUpdate.Keeps answer (fun _ _ => True) (fun _ past _ => Scripted p past) past s := by
  rw [runUpdate_eq, source_eq]
  refine ⟨trivial, ?_⟩
  generalize (answer (.machine (.isDirectory p.settings.source)) s).1 = there
  generalize (answer (.machine (.isDirectory p.settings.source)) s).2 = t
  have hlooked := h.quiet (m := ⟨.machine (.isDirectory p.settings.source), there⟩) rfl
  cases there with
  | false => exact hlooked
  | true =>
      refine ⟨trivial, ?_⟩
      generalize (answer (.database (.execute createStatement)) t).1 = made
      generalize (answer (.database (.execute createStatement)) t).2 = u
      have hasked := hlooked.quiet (m := ⟨.database (.execute createStatement), made⟩) rfl
      cases made with
      | error cause => exact hasked
      | ok done => exact carryOut_scripted hasked

/-- The last step runs scripts that its scan has found, and no other file. -/
theorem update_scripted (h : Scripted p past) : p.update.Keeps answer (fun _ _ => True)
    (fun _ past _ => Scripted p past) past s := by
  refine ⟨trivial, ?_⟩
  show (p.runUpdate.bind _).Keeps _ _ _ _ _
  rw [keeps_bind]
  refine (runUpdate_scripted (h.quiet rfl)).mono fun result past t hpast => ?_
  cases result with
  | ok summary => exact ⟨trivial, hpast.quiet rfl⟩
  | error e => exact ⟨trivial, trivial, (hpast.quiet rfl).quiet rfl⟩

end SchemaMigration.Preparation
