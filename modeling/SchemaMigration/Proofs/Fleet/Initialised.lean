import SchemaMigration.Proofs.Baseline.Consent
import SchemaMigration.Proofs.Fleet.Gates

/-! # Initialised once — a database that was prepared is not populated again

    Whether a database is populated depends on whether it has tables, and a load that
    succeeds leaves at least one behind, which is the ledger table.  So the table ties
    all later loads to the first that succeeded, whatever happens to the files, the
    settings and the operator in between:

    * `Maintains` and `Resolves` are the requests that a load may make, the second
      those by which a baseline is resolved;
    * `KeepsTable` says that none of them drops the ledger table, and that a listing
      of the tables shows it;
    * `prepareOne_leaves`: a load that succeeds leaves the table behind;
    * `populate_looks`: where the table is, populating looks and does nothing;
    * `initialised_once`: after a load that succeeded, no baseline is resolved. -/

namespace SchemaMigration.Fleet

open Baseline Ledger Preparation Program

/-! ## Requests of a load -/

/-- The requests by which a database is made to exist and brought up to date. -/
inductive Maintains (dialect : Dialect) : Site.Request → Prop where
  | exists : Maintains dialect (.database .exists)
  | consult {q : Database.Request} (h : Consults q) : Maintains dialect (.database q)
  | create : Maintains dialect (.database (.execute createStatement))
  | change (time : Timestamp) (c : Change) :
      Maintains dialect (.database (.execute (c.statement dialect time)))
  | file (connection : Connection) (path : Path) :
      Maintains dialect (.runner (.file connection path))
  | machine (q : Machine.Request) : Maintains dialect (.machine q)

/-- The requests by which a baseline is resolved. -/
inductive Resolves : Site.Request → Prop where
  | operator (q : Operator.Request) : Resolves (.operator q)
  | download (url : String) (destination : Path) : Resolves (.download url destination)
  | file (connection : Connection) (path : Path) : Resolves (.runner (.file connection path))
  | machine (q : Machine.Request) : Resolves (.machine q)

variable {dialect : Dialect} {p : Preparation} {settings : Settings} {target : Target}

/-- Looking at a database is part of bringing it up to date. -/
theorem maintains_of_looks {q : Site.Request} (h : Looks q) : Maintains dialect q := by
  cases h with
  | isDirectory path => exact .machine _
  | scan source => exact .machine _
  | log line => exact .machine _
  | consult h => exact .consult h

/-- Making a database exist and bringing it up to date never asks the operator. -/
theorem question?_of_maintains {m : Exchange Site.interface} (h : Maintains dialect m.1) :
    question? m = none := by
  obtain ⟨q, reply⟩ := m
  cases h <;> rfl

/-- Making a database exist and bringing it up to date downloads nothing. -/
theorem download?_of_maintains {m : Exchange Site.interface} (h : Maintains dialect m.1) :
    download? m = none := by
  obtain ⟨q, reply⟩ := m
  cases h <;> rfl

/-- A last report asks the machine only. -/
theorem log_asks {α : Type} {allowed : Site.Request → Prop} (h : ∀ q, allowed (.machine q))
    {line : Log.Line} {a : α} : ((Site.log line).bind fun _ => .done a).Asks allowed :=
  ⟨h _, fun _ => trivial⟩

theorem databaseExists_maintains : p.databaseExists.Asks (Maintains dialect) := by
  refine ⟨.exists, fun reply => ?_⟩
  cases reply with
  | ok there => trivial
  | error e => exact log_asks .machine

theorem runCreation_maintains (script : Path) :
    (p.runCreation script).Asks (Maintains dialect) := by
  refine ⟨.file _ _, fun outcome => ?_⟩
  cases outcome with
  | error e => exact log_asks .machine
  | ok status =>
      -- Whatever the status of the client, only the report differs.
      cases status with
      | ofNat n =>
          cases n with
          | zero => exact log_asks .machine
          | succ n => exact log_asks .machine
      | negSucc n => exact log_asks .machine

/-- Besides the machine, which lends a place for the creation script, only the client that runs
the script is asked. -/
theorem createDatabase_maintains : p.createDatabase.Asks (Maintains dialect) := by
  refine ⟨.machine _, fun _ => ⟨.machine _, fun made => ?_⟩⟩
  cases made with
  | error fault => exact log_asks .machine
  | ok script => exact (runCreation_maintains script).bind fun _ => ⟨.machine _, fun _ => trivial⟩

theorem ensureExists_maintains : (ensureExists settings p).Asks (Maintains dialect) := by
  refine databaseExists_maintains.bind fun there => ?_
  cases there with
  | true => trivial
  | false =>
      cases hauto : settings.updates.autoSetup with
      | false => exact log_asks .machine
      | true =>
          refine Asks.bind databaseExists_maintains fun there => ?_
          cases there with
          | true => trivial
          | false => exact createDatabase_maintains

/-- A change reads the clock and executes its one statement. -/
theorem change_maintains (c : Change) : (Ledger.change dialect c).Asks (Maintains dialect) := by
  rw [change_eq]
  refine Asks.bind ?_ fun time => ⟨.machine _, fun _ => ⟨.change time c, fun _ => trivial⟩⟩
  cases c with
  | record path hash speed => exact ⟨.machine _, fun _ => trivial⟩
  | _ => trivial

/-- Every operation on the ledger maintains: it consults the table or executes a change. -/
theorem perform_maintains (op : Operation) :
    (Ledger.perform dialect op).Asks (Maintains dialect) := by
  cases op with
  | list => exact list_looks.mono fun _ => maintains_of_looks
  | change c => exact change_maintains c
  | countMissing path =>
      show (Ledger.countMissing dialect path).Asks _
      rw [countMissing_eq]
      refine (change_maintains _).bind fun reply => ?_
      cases reply with
      | error e => trivial
      | ok done =>
          refine ⟨.consult (.count path), fun rows => ?_⟩
          cases rows <;> trivial

/-- An update maintains, whatever its plan and its options: each of its requests is carried out
by maintaining ones. -/
theorem carryOut_maintains {α : Type} (run : Update.Run α) :
    (carryOut target run).Asks (Maintains target.dialect) := by
  -- Nothing is known about the plan, so the run may ask anything; what counts is how each request
  -- is carried out.
  have hany : run.run.Asks fun _ => True := asks_of_forall (fun _ => trivial) run.run
  refine hany.via fun q _ => ?_
  cases q with
  | scan source => exact ⟨.machine _, fun _ => trivial⟩
  | ledger op => exact perform_maintains op
  | runScript location => exact ⟨.file _ _, fun _ => trivial⟩
  | stopwatch => exact ⟨.machine _, fun _ => trivial⟩
  | log line => exact ⟨.machine _, fun _ => trivial⟩

theorem runUpdate_maintains : p.runUpdate.Asks (Maintains p.target.dialect) := by
  rw [runUpdate_eq]
  refine (p.source_looks.mono fun _ => maintains_of_looks).bind fun found => ?_
  cases found with
  | error e => trivial
  | ok source =>
      refine ⟨.create, fun made => ?_⟩
      cases made with
      | error e => trivial
      | ok done => exact carryOut_maintains _

theorem ensureUpdated_maintains :
    (ensureUpdated settings p).Asks (Maintains p.target.dialect) := by
  rw [ensureUpdated]
  by_cases hon : updatesEnabled settings p.target.kind = true
  · rw [if_pos hon]
    refine ⟨.machine _, fun _ => runUpdate_maintains.bind fun result => ?_⟩
    cases result with
    | ok summary => exact log_asks .machine
    | error e => exact ⟨.machine _, fun _ => log_asks .machine⟩
  · rw [if_neg hon]
    exact log_asks .machine

section

variable {r : Resolver}

/-- Deciding what is needed asks the operator at most for their consent to the download. -/
theorem start_resolves : r.start.Asks Resolves := by
  rw [Resolver.start]
  cases r.baseFile with
  | none => exact log_asks .machine
  | some base =>
      cases r.remoteUrl with
      | some url =>
          cases r.automatic with
          | true => exact log_asks .machine
          | false => exact ⟨.operator _, fun _ => trivial⟩
      | none =>
          refine ⟨.machine _, fun there => ?_⟩
          cases there with
          | true => trivial
          | false =>
              cases r.automatic with
              | true => trivial
              | false => trivial

theorem fetch_resolves (url : String) : (r.fetch url).Asks Resolves := by
  rw [Resolver.fetch]
  cases r.baseFile with
  | none => trivial
  | some base =>
      refine ⟨.download _ _, fun outcome => ?_⟩
      cases outcome with
      | ok done => exact log_asks .machine
      | error e => exact log_asks .machine

theorem localFile_resolves : Resolver.localFile.Asks Resolves := by
  refine ⟨.operator _, fun given => ?_⟩
  cases given with
  | none => exact log_asks .machine
  | some text =>
      refine ⟨.machine _, fun there => ?_⟩
      cases there with
      | true => exact log_asks .machine
      | false => trivial

theorem bundledFile_resolves : r.bundledFile.Asks Resolves := by
  rw [Resolver.bundledFile]
  cases r.baseFile with
  | none => exact log_asks .machine
  | some base =>
      refine ⟨.machine _, fun there => ?_⟩
      cases there with
      | false => exact log_asks .machine
      | true =>
          refine ⟨.operator _, fun agreed => ?_⟩
          cases agreed with
          | true => exact log_asks .machine
          | false => exact log_asks .machine

/-- Applying a file reports and runs that file. -/
theorem applyFile_resolves (file : Path) : (r.applyFile file).Asks Resolves := by
  refine ⟨.machine _, fun _ => ⟨.file _ _, fun outcome => ?_⟩⟩
  cases outcome with
  | error e => trivial
  | ok status =>
      cases status with
      | ofNat n =>
          cases n with
          | zero => trivial
          | succ n => trivial
      | negSucc n => trivial

/-- One turn, in whatever stage it starts, makes only requests of a resolution. -/
theorem step_resolves (stage : Stage) : (r.step stage).Asks Resolves := by
  cases stage with
  | needed => exact start_resolves
  | downloading url => exact fetch_resolves url
  | fallback =>
      refine ⟨.operator _, fun own => ?_⟩
      cases own with
      | true => exact localFile_resolves
      | false => exact bundledFile_resolves
  | applying file => exact applyFile_resolves file
  | done applied => trivial
  | failed reason => trivial

/-- All turns together make only requests of a resolution. -/
theorem resolveFrom_resolves (stage : Stage) : (r.resolveFrom stage).Asks Resolves := by
  -- The induction of the turns: a stage is final, or one turn leads to the next.
  induction stage using Resolver.resolveFrom.induct with
  | case1 stage hfinal =>
      rw [Resolver.resolveFrom_of_final hfinal]
      trivial
  | case2 stage hfinal ih =>
      rw [Resolver.resolveFrom_eq ((Bool.not_eq_true _).mp hfinal)]
      refine (step_resolves stage).bind fun next => ?_
      by_cases hallowed : stage.canBecome next = true
      · rw [if_pos hallowed]
        exact ⟨.machine _, fun _ => ih next hallowed⟩
      · rw [if_neg hallowed]
        trivial

end

/-- The requests of a load. -/
def Loads (dialect : Dialect) (q : Site.Request) : Prop := Maintains dialect q ∨ Resolves q

/-- A baseline is resolved by the resolver and reported otherwise. -/
theorem applyBaseline_loads : p.applyBaseline.Asks (Loads dialect) := by
  refine ⟨Or.inr (.machine _), fun _ => ?_⟩
  refine ((resolveFrom_resolves _).mono fun _ => Or.inr).bind fun stage => ?_
  cases stage with
  | done applied =>
      cases applied with
      | none => trivial
      | some file => exact log_asks fun q => Or.inr (.machine q)
  | _ => exact log_asks fun q => Or.inr (.machine q)

/-- Populating lists the tables and, if there are none, applies a baseline. -/
theorem populate_loads : p.populate.Asks (Loads dialect) := by
  rw [populate]
  by_cases hrefresh : p.policy.alwaysRefresh = true
  · rw [if_pos hrefresh]
    exact applyBaseline_loads
  · rw [if_neg hrefresh]
    refine ⟨Or.inl (.consult .tables), fun listed => ?_⟩
    cases listed with
    | error e => exact log_asks fun q => Or.inl (.machine q)
    | ok names =>
        cases names with
        | nil => exact applyBaseline_loads
        | cons name names => trivial

theorem ensurePopulated_loads : (ensurePopulated settings p).Asks (Loads dialect) := by
  rw [ensurePopulated]
  by_cases hauto : settings.updates.autoSetup = true
  · rw [if_pos hauto]
    exact populate_loads
  · rw [if_neg hauto]
    trivial

/-- A load makes no other requests, however it is answered. -/
theorem prepareOne_loads : (prepareOne settings target).Asks (Loads target.dialect) := by
  cases hselected : isSelected settings target with
  | false =>
      obtain ⟨line, heq⟩ := prepareOne_of_not_selected hselected
      rw [heq]
      exact ⟨Or.inl (.machine _), fun _ => trivial⟩
  | true =>
      rw [prepareOne_of_selected hselected]
      refine (ensureExists_maintains.mono fun _ => Or.inl).bind fun ok => ?_
      cases ok with
      | false => trivial
      | true =>
          refine ensurePopulated_loads.bind fun ok => ?_
          cases ok with
          | false => trivial
          | true => exact ensureUpdated_maintains.mono fun _ => Or.inl

/-! ## The ledger table -/

variable {σ : Type} {answer : (q : Site.Request) → σ → q.Reply × σ} {tables : σ → List String}
variable {s : σ}

/-- What a load can rely on about the ledger table, where `tables` names the tables that are
    there. -/
structure KeepsTable (dialect : Dialect) (answer : (q : Site.Request) → σ → q.Reply × σ)
    (tables : σ → List String) : Prop where
  /-- Where making the table succeeds, it is there. -/
  made : ∀ s, (answer (.database (.execute createStatement)) s).1 = .ok () →
    tableName ∈ tables (answer (.database (.execute createStatement)) s).2
  /-- A listing that does not fail shows the tables that are there. -/
  listed : ∀ s names, (answer (.database .tables) s).1 = .ok names →
    ∀ name, name ∈ names ↔ name ∈ tables s
  /-- No script drops the table, and neither does any other request of a load. -/
  kept : ∀ q s, Loads dialect q → tableName ∈ tables s → tableName ∈ tables (answer q s).2

/-- Where the table is, any part of a load leaves it. -/
theorem KeepsTable.run {α : Type} (h : KeepsTable dialect answer tables)
    {part : Program Site.interface α} (hpart : part.Asks (Loads dialect))
    (hs : tableName ∈ tables s) : tableName ∈ tables (part.run answer s).2 := by
  have step : ∀ q (_ : List (Exchange Site.interface)) t, Loads dialect q →
      tableName ∈ tables t → tableName ∈ tables (answer q t).2 := fun q _ t hq => h.kept q t hq
  have hkept : part.Keeps answer (fun _ t => tableName ∈ tables t)
      (fun _ _ t => tableName ∈ tables t) [] s := hpart.keeps step hs
  exact hkept.outcome

/-- An update that succeeds leaves the table behind. -/
theorem KeepsTable.runUpdate (h : KeepsTable p.target.dialect answer tables)
    {past : List (Exchange Site.interface)} :
    p.runUpdate.Keeps answer (fun _ _ => True)
      (fun result _ t => ∀ summary, result = .ok summary → tableName ∈ tables t) past s := by
  rw [runUpdate_eq, source_eq]
  refine ⟨trivial, ?_⟩
  generalize (answer (.machine (.isDirectory p.settings.source)) s).1 = there
  generalize (answer (.machine (.isDirectory p.settings.source)) s).2 = t
  cases there with
  | false => exact nofun
  | true =>
      refine ⟨trivial, ?_⟩
      -- The statement that makes the table is the first of an update; what follows only keeps it.
      have hmade := h.made t
      generalize (answer (.database (.execute createStatement)) t).1 = made at hmade ⊢
      generalize (answer (.database (.execute createStatement)) t).2 = u at hmade ⊢
      cases made with
      | error cause => exact nofun
      | ok done =>
          have step : ∀ q (_ : List (Exchange Site.interface)) t, Maintains p.target.dialect q →
              tableName ∈ tables t → tableName ∈ tables (answer q t).2 :=
            fun q _ t hq => h.kept q t (Or.inl hq)
          exact ((carryOut_maintains _).keeps step (hmade rfl)).imp (fun _ _ _ => trivial)
            fun _ _ _ hthere _ _ => hthere

/-- An update step that reports success leaves the table, since its last report drops nothing. -/
theorem KeepsTable.update (h : KeepsTable p.target.dialect answer tables)
    {past : List (Exchange Site.interface)} :
    p.update.Keeps answer (fun _ _ => True)
      (fun ok _ t => ok = true → tableName ∈ tables t) past s := by
  refine ⟨trivial, ?_⟩
  show (p.runUpdate.bind _).Keeps _ _ _ _ _
  rw [keeps_bind]
  refine h.runUpdate.mono fun result past t hleaves => ?_
  cases result with
  | ok summary => exact ⟨trivial, fun _ => h.kept _ t (Or.inl (.machine _)) (hleaves summary rfl)⟩
  | error e => exact ⟨trivial, trivial, nofun⟩

/-- Two steps, one behind the other, that succeed leave the state of the second. -/
theorem run_gate_of_true {I : Interface} {answer : (q : I.Request) → σ → I.Reply q × σ}
    {first second : Program I Bool}
    (hok : ((first.bind fun ok => if ok = true then second else .done false).run answer s).1
      = true) :
    (first.bind fun ok => if ok = true then second else .done false).run answer s
      = second.run answer (first.run answer s).2 := by
  rw [run_gate, Bool.and_eq_true] at hok
  rw [run_bind, if_pos hok.1]

/-- A load that succeeds leaves the table behind. -/
theorem KeepsTable.prepareOne_leaves (h : KeepsTable target.dialect answer tables)
    (hselected : isSelected settings target = true)
    (hon : updatesEnabled settings target.kind = true)
    (hok : ((prepareOne settings target).run answer s).1 = true) :
    tableName ∈ tables ((prepareOne settings target).run answer s).2 := by
  rw [prepareOne_of_selected hselected] at hok ⊢
  -- Success comes from the last of the three steps, so the state that is left is the update's.
  have hexisting := run_gate_of_true hok
  rw [hexisting] at hok ⊢
  have hpopulated := run_gate_of_true hok
  rw [hpopulated] at hok ⊢
  have hupdate : ensureUpdated settings (preparation settings target)
      = (preparation settings target).update := if_pos hon
  rw [hupdate] at hok ⊢
  have hkeeps : (preparation settings target).update.Keeps answer (fun _ _ => True)
      (fun ok _ t => ok = true → tableName ∈ tables t) [] (populated answer settings target s).2 :=
    KeepsTable.update h
  exact hkeeps.outcome hok

/-! ## Loads of a database that has the table -/

/-- Where the table is, populating looks and does nothing. -/
theorem KeepsTable.populate_looks (h : KeepsTable dialect answer tables)
    (hrefresh : p.policy.alwaysRefresh = false) (hs : tableName ∈ tables s) :
    ∀ m ∈ p.populate.trail answer s, Looks m.1.1 := by
  rw [populate, hrefresh, if_neg Bool.false_ne_true]
  show ∀ m ∈ Program.trail (I := Site.interface) answer (.ask (.database .tables) _) s, _
  rw [trail_ask]
  refine List.forall_mem_cons.mpr ⟨.consult .tables, ?_⟩
  cases hlisted : (answer (.database .tables) s).1 with
  | error e => exact List.forall_mem_singleton.mpr (.log _)
  | ok names =>
      cases names with
      -- A listing without the table would contradict what listings show.
      | nil => exact absurd ((h.listed s [] hlisted tableName).mpr hs) List.not_mem_nil
      | cons name names => exact List.forall_mem_nil _

/-- So does the population step of a load, with automatic setup or without. -/
theorem KeepsTable.populationTrail_looks (h : KeepsTable target.dialect answer tables)
    (hrefresh : (Policy.ofKind target.kind).alwaysRefresh = false) (hs : tableName ∈ tables s) :
    ∀ m ∈ populationTrail answer settings target s, Looks m.1.1 := by
  rw [populationTrail, ensurePopulated]
  by_cases hauto : settings.updates.autoSetup = true
  · rw [if_pos hauto]
    exact h.populate_looks hrefresh (h.run (ensureExists_maintains.mono fun _ => Or.inl) hs)
  · rw [if_neg hauto]
    exact List.forall_mem_nil _

/-- Where the table is, a load only makes the database exist and brings it up to date. -/
theorem KeepsTable.prepareOne_maintains (h : KeepsTable target.dialect answer tables)
    (hrefresh : (Policy.ofKind target.kind).alwaysRefresh = false) (hs : tableName ∈ tables s) :
    ∀ m ∈ (prepareOne settings target).trail answer s, Maintains target.dialect m.1.1 := by
  cases hselected : isSelected settings target with
  | false =>
      obtain ⟨line, t, -, htrail⟩ := trail_of_not_selected answer settings target s hselected
      rw [htrail]
      exact List.forall_mem_singleton.mpr (.machine _)
  | true =>
      rw [trail_of_selected answer settings target s hselected]
      refine List.forall_mem_append.mpr ⟨ensureExists_maintains.trail s, ?_⟩
      by_cases hexists : (existing answer settings target s).1 = true
      · rw [if_pos hexists]
        refine List.forall_mem_append.mpr
          ⟨fun m hm => maintains_of_looks (h.populationTrail_looks hrefresh hs m hm), ?_⟩
        by_cases hpopulated : (populated answer settings target s).1 = true
        · rw [if_pos hpopulated]
          exact Asks.trail (ensureUpdated_maintains (p := preparation settings target)) _
        · rw [if_neg hpopulated]
          exact List.forall_mem_nil _
      · rw [if_neg hexists]
        exact List.forall_mem_nil _

/-- The file makes the database, or is a script that a scan has found. -/
def Routine (p : Preparation) (file : Connection × Path) (past : List (Exchange Site.interface)) :
    Prop :=
  (∃ script, file = (p.target.connection.withoutDatabase, script) ∧ Creation p script past)
    ∨ IsScript p file past

/-- A file stays routine as more is asked. -/
theorem Routine.mono {file : Connection × Path} {past more : List (Exchange Site.interface)}
    (h : Routine p file past) (hsub : past ⊆ more) : Routine p file more := by
  rcases h with ⟨script, heq, hmade⟩ | ⟨hconnection, source, live, archived, hscan, hfound⟩
  · exact Or.inl ⟨script, heq, hsub hmade⟩
  · exact Or.inr ⟨hconnection, source, live, archived, hsub hscan, hfound⟩

/-- Where the table is, the files that a load runs make the database or are scripts. -/
theorem KeepsTable.prepareOne_routine (h : KeepsTable target.dialect answer tables)
    (hrefresh : (Policy.ofKind target.kind).alwaysRefresh = false) (hs : tableName ∈ tables s) :
    ∀ m ∈ ((prepareOne settings target).trail answer s).map Prod.fst, ∀ file outcome,
      ranFile? m = some (file, outcome) → Routine (preparation settings target) file
        (((prepareOne settings target).trail answer s).map Prod.fst) := by
  cases hselected : isSelected settings target with
  | false =>
      obtain ⟨line, t, -, htrail⟩ := trail_of_not_selected answer settings target s hselected
      rw [htrail]
      exact List.forall_mem_singleton.mpr nofun
  | true =>
      rw [trail_of_selected answer settings target s hselected, List.map_append]
      refine List.forall_mem_append.mpr ⟨fun m hm file outcome hran => ?_, ?_⟩
      · obtain ⟨-, hscript⟩ := (existing_opened answer settings target s).creates m hm _ _ hran
        exact Routine.mono (Or.inl hscript) (List.subset_append_left _ _)
      -- The second step runs nothing, and the files of the third are scripts of its own scan.
      by_cases hexists : (existing answer settings target s).1 = true
      · rw [if_pos hexists, List.map_append]
        refine List.forall_mem_append.mpr ⟨fun m hm file outcome hran => ?_, ?_⟩
        · obtain ⟨n, hn, rfl⟩ := List.mem_map.mp hm
          have hnone := runsNothing_of_looks (h.populationTrail_looks hrefresh hs n hn) n.1.2
          exact nomatch hnone.symm.trans hran
        by_cases hpopulated : (populated answer settings target s).1 = true
        · rw [if_pos hpopulated]
          intro m hm file outcome hran
          have hscript := updateTrail_scripted answer settings target s m hm file outcome hran
          exact Routine.mono (Or.inr hscript) (List.subset_append_of_subset_right _
            (List.subset_append_right _ _))
        · rw [if_neg hpopulated]
          exact List.forall_mem_nil _
      · rw [if_neg hexists]
        exact List.forall_mem_nil _

/-! ## Histories of a database -/

/-- One load of a database: the settings of the project, and the state that it starts in. -/
structure Load (σ : Type) where
  settings : Settings
  found : σ

namespace Load

variable (answer : (q : Site.Request) → σ → q.Reply × σ) (target : Target) (l : Load σ)

/-- Whether the load succeeds, and the state that it leaves. -/
def outcome : Bool × σ := (prepareOne l.settings target).run answer l.found

/-- Everything that the load asks, and hears. -/
def exchanges : List (Exchange Site.interface) :=
  ((prepareOne l.settings target).trail answer l.found).map Prod.fst

end Load

/-- Once the table is there at the end of a load, every later load finds it. -/
theorem KeepsTable.found (h : KeepsTable target.dialect answer tables) {loads : ℕ → Load σ}
    (hbetween : ∀ n, tableName ∈ tables ((loads n).outcome answer target).2 →
      tableName ∈ tables (loads (n + 1)).found) {i j : ℕ} (hij : i < j)
    (hleft : tableName ∈ tables ((loads i).outcome answer target).2) :
    tableName ∈ tables (loads j).found := by
  -- A load that finds the table leaves it, and nothing drops it before the next.
  induction j, hij using Nat.le_induction with
  | base => exact hbetween i hleft
  | succ n _ ih => exact hbetween n (h.run prepareOne_loads ih)

/-- No baseline is applied again.  Take any sequence of loads of one database, with any settings
    and any answers of the database, the scripts, the files and the operator, in which nothing
    drops the ledger table.  Once a load has succeeded, with the kind selected and its updates
    enabled, no later one asks the operator, downloads anything or runs a file to populate the
    database; the files that it runs make the database or are scripts that it has found. -/
theorem initialised_once (h : KeepsTable target.dialect answer tables)
    (hkind : target.kind = .auth ∨ target.kind = .characters) (loads : ℕ → Load σ)
    (hbetween : ∀ n, tableName ∈ tables ((loads n).outcome answer target).2 →
      tableName ∈ tables (loads (n + 1)).found) {i j : ℕ} (hij : i < j)
    (hselected : isSelected (loads i).settings target = true)
    (hon : updatesEnabled (loads i).settings target.kind = true)
    (hok : ((loads i).outcome answer target).1 = true) :
    questions ((loads j).exchanges answer target) = []
      ∧ downloads ((loads j).exchanges answer target) = []
      ∧ filesRun (populationTrail answer (loads j).settings target (loads j).found) = []
      ∧ ∀ m ∈ (loads j).exchanges answer target, ∀ file outcome,
          ranFile? m = some (file, outcome) →
          Routine (preparation (loads j).settings target) file
            ((loads j).exchanges answer target) := by
  have hrefresh : (Policy.ofKind target.kind).alwaysRefresh = false := by
    rcases hkind with hkind | hkind <;> rw [hkind] <;> rfl
  have hs := h.found hbetween hij (h.prepareOne_leaves hselected hon hok)
  have hmaintains : ∀ m ∈ (loads j).exchanges answer target, Maintains target.dialect m.1 :=
    List.forall_mem_map.mpr (h.prepareOne_maintains hrefresh hs)
  refine ⟨?_, ?_, ?_, h.prepareOne_routine hrefresh hs⟩
  · exact List.filterMap_eq_nil_iff.mpr fun m hm => question?_of_maintains (hmaintains m hm)
  · exact List.filterMap_eq_nil_iff.mpr fun m hm => download?_of_maintains (hmaintains m hm)
  · refine List.map_eq_nil_iff.mpr (List.filterMap_eq_nil_iff.mpr fun m hm => ?_)
    exact runsNothing_of_looks (h.populationTrail_looks hrefresh hs m hm) _

/-! ## The loads of a small project -/

/-- A project without a base file, next to which the operator has a dump of their own. -/
def ownDump : FileTree :=
  ⟨.folder "project" (.file "own.sql" "CREATE TABLE account".toUTF8
    (.folder "sql" (.folder "updates" (.folder "auth" .empty .empty) .empty) .empty)) .empty, []⟩

/-- The tables after a statement, of which only one makes a table. -/
def afterStatement (sql : String) (names : List String) : List String :=
  if sql = createStatement then tableName :: names else names

/-- A statement takes no table away. -/
theorem subset_afterStatement (sql : String) (names : List String) :
    names ⊆ afterStatement sql names := by
  rw [afterStatement]
  by_cases hsql : sql = createStatement
  · rw [if_pos hsql]
    exact List.subset_cons_self _ _
  · rw [if_neg hsql]
    exact List.Subset.refl _

/-- A database in which every script makes a table of accounts, and an operator who has a dump
    of their own.  The state names the tables that are there. -/
def accounts : (q : Site.Request) → List String → q.Reply × List String
  | .database (.execute sql), names => (.ok (), afterStatement sql names)
  | .database (.executeBatch _), names => (.ok (), names)
  | .database (.query _), names => (.ok [], names)
  | .database .exists, names => (.ok true, names)
  | .database .tables, names => (.ok names, names)
  | .runner (.file _ _), names => (.ok 0, "account" :: names)
  | .runner (.query _ _), names => (.ok none, names)
  | .operator (.confirm _), names => (true, names)
  | .operator (.askPath _), names => (some "/project/own.sql", names)
  | .download _ _, names => (.ok (), names)
  | .machine q, names => ((Rehearsal.answerMachine ownDump q).1, names)

-- This is stated for every text: with a closed one, checking it would compare texts.
theorem execute_accounts (sql : String) (names : List String) :
    (accounts (.database (.execute sql)) names).2 = afterStatement sql names := rfl

theorem tableName_mem_accounts (sql : String) (h : sql = createStatement) (names : List String) :
    tableName ∈ (accounts (.database (.execute sql)) names).2 := by
  rw [execute_accounts, afterStatement, if_pos h]
  exact List.mem_cons_self

/-- Nothing drops a table in that database, and its listings are true. -/
theorem accounts_keepsTable (dialect : Dialect) : KeepsTable dialect accounts id where
  made := fun s _ => tableName_mem_accounts createStatement rfl s
  listed := by
    intro s names h name
    rw [← Except.ok.inj h]
    exact Iff.rfl
  kept := by
    intro q s _ hs
    match q with
    | .database (.execute sql) =>
        rw [execute_accounts]
        exact subset_afterStatement sql s hs
    | .database (.executeBatch _) => exact hs
    | .database (.query _) => exact hs
    | .database .exists => exact hs
    | .database .tables => exact hs
    | .runner (.file _ _) => exact List.mem_cons_of_mem _ hs
    | .runner (.query _ _) => exact hs
    | .operator (.confirm _) => exact hs
    | .operator (.askPath _) => exact hs
    | .download _ _ => exact hs
    | .machine q => exact hs

/-- The auth database of a project. -/
def authTarget : Target :=
  ⟨.auth, ⟨"localhost", "3306", "dbup", "", "auth", .disabled⟩, .replaceInto⟩

/-- The settings of the project, with or without an operator. -/
def authSettings (automatic : Bool) : Settings :=
  ⟨⟨"/project"⟩, none, automatic, .standard, []⟩

/-- An empty database is loaded with an operator, and again and again without one after all
    tables but that of the ledger were dropped. -/
def authLoads (n : ℕ) : Load (List String) :=
  if n = 0 then ⟨authSettings false, []⟩ else ⟨authSettings true, [tableName]⟩

/-- The preparation of the first load. -/
abbrev firstPreparation : Preparation := preparation (authSettings false) authTarget

/-- What the operator has is applied. -/
abbrev applied : Stage := .done (some ⟨"/project/own.sql"⟩)

/-- One turn, evaluated, moves the resolution on. -/
theorem resolveFrom_accounts {r : Resolver} {stage next : Stage} {names after : List String}
    (hfinal : stage.isFinal = false) (hstep : (r.step stage).run accounts names = (next, after))
    (hnext : stage.canBecome next = true) :
    (r.resolveFrom stage).run accounts names = (r.resolveFrom next).run accounts after := by
  rw [Resolver.resolveFrom_eq hfinal, run_bind, hstep, if_pos hnext]
  rfl

/-- Without a base file the operator is asked, and what they have is applied. -/
theorem resolve_accounts :
    firstPreparation.resolver.resolve.run accounts [] = (applied, ["account"]) := by
  have hneeded : (firstPreparation.resolver.step .needed).run accounts [] = (.fallback, []) := by
    decide +kernel
  have hfallback : (firstPreparation.resolver.step .fallback).run accounts []
      = (.applying ⟨"/project/own.sql"⟩, []) := by decide +kernel
  have happlying : (firstPreparation.resolver.step (.applying ⟨"/project/own.sql"⟩)).run accounts []
      = (applied, ["account"]) := by decide +kernel
  rw [Resolver.resolve, resolveFrom_accounts rfl hneeded rfl, resolveFrom_accounts rfl hfallback rfl,
    resolveFrom_accounts rfl happlying rfl, Resolver.resolveFrom_of_final rfl]
  rfl

/-- The first load populates the database, and the ledger table is there after it. -/
theorem outcome_authLoads :
    (authLoads 0).outcome accounts authTarget = (true, [tableName, "account"]) := by
  have hexists : (ensureExists (authSettings false) firstPreparation).run accounts []
      = (true, []) := by decide +kernel
  have hpopulated : (ensurePopulated (authSettings false) firstPreparation).run accounts []
      = (true, ["account"]) := by
    show Program.run accounts (firstPreparation.resolver.resolve.bind _) [] = _
    rw [run_bind, resolve_accounts]
    rfl
  have hupdated : (ensureUpdated (authSettings false) firstPreparation).run accounts ["account"]
      = (true, [tableName, "account"]) := by decide +kernel
  show (prepareOne (authSettings false) authTarget).run accounts [] = _
  rw [prepareOne_of_selected (by decide +kernel), run_bind, hexists, if_pos rfl, run_bind,
    hpopulated, if_pos rfl, hupdated]

/-- The dump of the operator is applied by the first load, and nothing by those after it. -/
theorem initialised_once_own_dump :
    KeepsTable authTarget.dialect accounts id
      ∧ (∀ n, tableName ∈ ((authLoads n).outcome accounts authTarget).2 →
          tableName ∈ (authLoads (n + 1)).found)
      ∧ isSelected (authLoads 0).settings authTarget = true
      ∧ updatesEnabled (authLoads 0).settings authTarget.kind = true
      ∧ (authLoads 0).outcome accounts authTarget = (true, [tableName, "account"])
      ∧ questions ((authLoads 2).exchanges accounts authTarget) = []
      ∧ downloads ((authLoads 2).exchanges accounts authTarget) = []
      ∧ filesRun (populationTrail accounts (authLoads 2).settings authTarget (authLoads 2).found)
        = [] := by
  have hbetween : ∀ n, tableName ∈ ((authLoads n).outcome accounts authTarget).2 →
      tableName ∈ (authLoads (n + 1)).found := fun n _ => List.mem_singleton_self _
  have hselected : isSelected (authLoads 0).settings authTarget = true := by decide +kernel
  have hon : updatesEnabled (authLoads 0).settings authTarget.kind = true := by decide +kernel
  obtain ⟨hquestions, hdownloads, hfiles, -⟩ := initialised_once (accounts_keepsTable _)
    (Or.inl rfl) authLoads hbetween Nat.two_pos hselected hon
    (congrArg Prod.fst outcome_authLoads)
  exact ⟨accounts_keepsTable _, hbetween, hselected, hon, outcome_authLoads, hquestions,
    hdownloads, hfiles⟩

end SchemaMigration.Fleet
