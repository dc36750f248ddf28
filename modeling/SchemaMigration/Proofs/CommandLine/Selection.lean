import Mathlib
import SchemaMigration.CommandLine.Project
import SchemaMigration.Proofs.Database.Kind
import SchemaMigration.Proofs.Program.Trail

/-! # Selections — accepted settings carry the databases of a run

    Settings are looked at four times: they are checked, databases are selected from them,
    connections are made, and a mask tells which databases are prepared.  Each time the
    connection strings, the kinds and the mask are read anew, so that these readings have to
    agree.

    * `check_eq_ok_iff`, `connection_of_check`: what accepted settings promise;
    * `select_eq_ok_iff`: which kinds are selected;
    * `connectAll_error`, `connectAll_ok`: connecting them;
    * `select_honoured` puts these together. -/

namespace SchemaMigration

/-! ## Accepted settings -/

namespace Settings

variable {s : Settings} {k : Kind}

/-- All databases are in order if each of them is. -/
theorem checkDatabases_eq_ok_iff {databases : List (Kind × DatabaseSettings)} :
    checkDatabases databases = .ok () ↔ ∀ d ∈ databases, checkDatabase d.1 d.2 = .ok () := by
  induction databases with
  | nil => exact ⟨fun _ => nofun, fun _ => rfl⟩
  | cons d rest ih =>
      obtain ⟨kind, d⟩ := d
      rw [checkDatabases, List.forall_mem_cons]
      cases hd : checkDatabase kind d with
      | error cause => exact ⟨nofun, fun h => nomatch h.1⟩
      | ok u => exact ih.trans (and_iff_right rfl).symm

/-- Accepted settings name a source directory, their mask selects nothing unknown, and each
    database was found fit to be reached. -/
theorem check_eq_ok_iff :
    s.check = .ok () ↔ s.sourceDirectory.isEmpty = false
      ∧ s.updates.enabledKinds ≤ Kind.fullMask
      ∧ ∀ k d, s.database? k = some d → checkDatabase k d = .ok () := by
  have hdatabases : (∀ d ∈ Kind.all.filterMap fun k => (s.database? k).map fun d => (k, d),
      checkDatabase d.1 d.2 = .ok ())
        ↔ ∀ k d, s.database? k = some d → checkDatabase k d = .ok () := by
    refine List.forall_mem_filterMap.trans ⟨fun h k d hd => ?_, fun h k _ kd hkd => ?_⟩
    · exact h k (Kind.mem_all k) (k, d) (by rw [hd]; rfl)
    · obtain ⟨d, hd, rfl⟩ := Option.map_eq_some_iff.mp hkd
      exact h k d hd
  rw [check, ← hdatabases, ← checkDatabases_eq_ok_iff]
  by_cases hdirectory : s.sourceDirectory.isEmpty = true
  · rw [if_pos hdirectory]
    exact ⟨nofun, fun h => absurd hdirectory (Bool.eq_false_iff.mp h.1)⟩
  · rw [if_neg hdirectory, and_iff_right (Bool.eq_false_iff.mpr hdirectory)]
    by_cases hmask : s.updates.enabledKinds > Kind.fullMask
    · rw [if_pos hmask]
      exact ⟨nofun, fun h => absurd hmask (Nat.not_lt.mpr h.1)⟩
    · rw [if_neg hmask, and_iff_right (Nat.not_lt.mp hmask)]

/-- What was found fit to be reached has a connection. -/
theorem connection_of_checkDatabase {d : DatabaseSettings} (hd : s.database? k = some d)
    (h : checkDatabase k d = .ok ()) : ∃ c, s.connection k = .ok c := by
  simp only [connection, hd]
  rw [checkDatabase] at h
  cases hbackend : d.backend with
  | duckdb => exact ⟨_, rfl⟩
  | mysql =>
      cases hread : readConnection k d.connection with
      | ok c => exact ⟨c, rfl⟩
      | error cause =>
          rw [hbackend, hread] at h
          exact nomatch h

/-- Every database of accepted settings has a connection. -/
theorem connection_of_check (h : s.check = .ok ()) (hk : s.isConfigured k = true) :
    ∃ c, s.connection k = .ok c := by
  obtain ⟨d, hd⟩ := Option.isSome_iff_exists.mp hk
  exact connection_of_checkDatabase hd ((check_eq_ok_iff.mp h).2.2 k d hd)

/-- A kind is enabled if it is configured and in the mask. -/
theorem mem_enabled :
    k ∈ s.enabled ↔ s.isConfigured k = true ∧ k.inMask s.updates.enabledKinds = true := by
  rw [enabled, List.mem_filter, Bool.and_eq_true, and_iff_right (Kind.mem_all k)]
  exact and_comm

end Settings

namespace CommandLine

open Program

variable {σ : Type} {s : Settings} {k : Kind} {requested kinds : List Kind}
variable {answer : (q : Host.Request) → σ → q.Reply × σ} {st t : σ}

/-! ## The selected kinds -/

theorem firstUnconfigured?_eq_none_iff :
    firstUnconfigured? s kinds = none ↔ ∀ k ∈ kinds, s.isConfigured k = true := by
  rw [firstUnconfigured?, List.find?_eq_none]
  exact forall₂_congr fun k _ => by rw [Bool.not_eq_true', Bool.not_eq_false]

/-- Without a request the enabled kinds are selected, otherwise the requested ones, each once
    and in order, if all of them are configured. -/
theorem select_eq_ok_iff :
    select s requested = .ok kinds
      ↔ if requested = [] then kinds = s.enabled
        else (∀ k ∈ requested, s.isConfigured k = true)
          ∧ kinds = Kind.dropRepeats (Kind.sort requested) := by
  rw [select]
  simp only [List.isEmpty_iff]
  by_cases hnone : requested = []
  · rw [if_pos hnone, if_pos hnone]
    exact ⟨fun h => (Except.ok.inj h).symm, fun h => congrArg _ h.symm⟩
  · rw [if_neg hnone, if_neg hnone]
    -- Sorting and dropping repeats leave the same kinds to be checked.
    have hconfigured : (∀ k ∈ requested, s.isConfigured k = true)
        ↔ firstUnconfigured? s (Kind.dropRepeats (Kind.sort requested)) = none := by
      rw [firstUnconfigured?_eq_none_iff]
      exact forall_congr' fun k => by rw [Kind.mem_dropRepeats, Kind.mem_sort]
    rw [hconfigured]
    cases hfirst : firstUnconfigured? s (Kind.dropRepeats (Kind.sort requested)) with
    | none => simp [eq_comm]
    | some kind => simp

/-- Selected is what was asked for, or whatever is enabled if nothing was. -/
theorem mem_of_select (h : select s requested = .ok kinds) (k : Kind) :
    k ∈ kinds ↔ if requested = [] then s.isConfigured k = true
      ∧ k.inMask s.updates.enabledKinds = true else k ∈ requested := by
  rw [select_eq_ok_iff] at h
  by_cases hnone : requested = []
  · rw [if_pos hnone] at h ⊢
    rw [h, Settings.mem_enabled]
  · rw [if_neg hnone] at h ⊢
    rw [h.2, Kind.mem_dropRepeats, Kind.mem_sort]

/-- What is selected is in ascending order, each kind once. -/
theorem pairwise_of_select (h : select s requested = .ok kinds) :
    kinds.Pairwise fun a b => a.rank < b.rank := by
  rw [select_eq_ok_iff] at h
  by_cases hnone : requested = []
  · rw [if_pos hnone] at h
    rw [h]
    exact Kind.pairwise_all.sublist List.filter_sublist
  · rw [if_neg hnone] at h
    rw [h.2]
    exact Kind.pairwise_dropRepeats (Kind.pairwise_sort requested)

/-- Whatever is selected is configured. -/
theorem configured_of_select (h : select s requested = .ok kinds) (hk : k ∈ kinds) :
    s.isConfigured k = true := by
  have hmem := (mem_of_select h k).mp hk
  rw [select_eq_ok_iff] at h
  by_cases hnone : requested = []
  · rw [if_pos hnone] at hmem
    exact hmem.1
  · rw [if_neg hnone] at h hmem
    exact h.1 k hmem

/-- The mask of the run selects the selected kinds, and after a request no others. -/
theorem inMask_settingsFor (h : select s requested = .ok kinds) (k : Kind) :
    k ∈ kinds ↔ (requested = [] → s.isConfigured k = true)
      ∧ k.inMask (settingsFor s requested kinds).updates.enabledKinds = true := by
  rw [settingsFor]
  simp only [List.isEmpty_iff]
  by_cases hnone : requested = []
  · rw [if_pos hnone, mem_of_select h, if_pos hnone]
    exact and_congr_left' (imp_iff_right hnone).symm
  · rw [if_neg hnone]
    exact Kind.inMask_maskOf.symm.trans (and_iff_right fun heq => absurd heq hnone).symm

/-! ## Connections -/

/-- The failures that the host brings about: a client program that is not there, or an engine
    that cannot be opened. -/
inductive Failure.OfHost : Failure → Prop where
  | client (kind : Kind) (cause : DatabaseError) : OfHost (.client kind cause)
  | engine (file : String) (cause : DatabaseError) : OfHost (.engine file cause)

/-- What cannot fail is carried out before the rest. -/
theorem run_perform_bind {α β : Type} (p : Program Host.interface α) (f : α → Run β) :
    (perform p >>= f).run.run answer st
      = (f (p.run answer st).1).run.run answer (p.run answer st).2 := by
  have hlift : (perform p).run.run answer st = (.ok (p.run answer st).1, (p.run answer st).2) :=
    run_bind answer p _ st
  rw [attempt_bind, run_bind, hlift]

/-- Where the settings have a connection, only the host can stand in the way of using it. -/
theorem connect_error {f : Failure} (hk : ∃ c, s.connection k = .ok c)
    (h : (connect s k).run.run answer st = (.error f, t)) : f.OfHost := by
  obtain ⟨c, hc⟩ := hk
  cases hd : s.database? k with
  | none =>
      rw [Settings.connection, hd] at hc
      exact nomatch hc
  | some d =>
      simp only [connect, hd, hc] at h
      -- With a connection that can be read, only the client or the engine is left to fail.
      cases hbackend : d.backend with
      | mysql =>
          simp only [hbackend, run_perform_bind] at h
          split at h
          next => exact nomatch (Prod.mk.inj h).1
          next cause _ =>
            obtain rfl := Except.error.inj (Prod.mk.inj h).1
            exact .client k cause
      | duckdb =>
          simp only [hbackend, run_perform_bind] at h
          split at h
          next => exact nomatch (Prod.mk.inj h).1
          next =>
            obtain rfl := Except.error.inj (Prod.mk.inj h).1
            exact .engine _ _

/-- Databases whose settings have connections are connected unless the host stands in the
    way. -/
theorem connectAll_error {f : Failure} (h : ∀ k ∈ kinds, ∃ c, s.connection k = .ok c)
    (hrun : (connectAll s kinds).run.run answer st = (.error f, t)) : f.OfHost := by
  induction kinds generalizing st with
  | nil => exact nomatch (Prod.mk.inj hrun).1
  | cons k rest ih =>
      obtain ⟨hk, hrest⟩ := List.forall_mem_cons.mp h
      rw [connectAll, run_attempt_eq_error] at hrun
      rcases hrun with hfirst | ⟨link, u, -, hothers⟩
      · exact connect_error hk hfirst
      · rw [run_attempt_eq_error] at hothers
        rcases hothers with hothers | ⟨others, v, -, hdone⟩
        · exact ih hrest hothers
        · exact nomatch (Prod.mk.inj hdone).1

/-- The connected databases are those asked for, in this order. -/
theorem connectAll_ok {links : List Linked}
    (hrun : (connectAll s kinds).run.run answer st = (.ok links, t)) :
    links.map Linked.kind = kinds := by
  induction kinds generalizing st links t with
  | nil =>
      obtain rfl := Except.ok.inj (Prod.mk.inj hrun).1
      rfl
  | cons k rest ih =>
      rw [connectAll, run_attempt_eq_ok] at hrun
      obtain ⟨link, u, -, hothers⟩ := hrun
      rw [run_attempt_eq_ok] at hothers
      obtain ⟨others, v, hrest, hdone⟩ := hothers
      obtain rfl := Except.ok.inj (Prod.mk.inj hdone).1
      exact congrArg (k :: ·) (ih hrest)

/-- Which kinds a run prepares is nothing to a connection. -/
theorem connectAll_settingsFor (s : Settings) (requested selected kinds : List Kind) :
    connectAll (settingsFor s requested selected) kinds = connectAll s kinds := by
  have hconnect (k : Kind) : connect (settingsFor s requested selected) k = connect s k := by
    rw [settingsFor]
    split <;> rfl
  induction kinds with
  | nil => rfl
  | cons k rest ih => rw [connectAll, connectAll, ih, hconnect]

/-- The members of a fleet are of the kinds that were linked, in the same order. -/
theorem map_kind_members (links : List Linked) :
    (members links).map (fun m => m.target.kind) = links.map Linked.kind := by
  have hlinks : links.zipIdx.map Prod.fst = links := List.zipIdx_map_fst 0 links
  calc (members links).map (fun m => m.target.kind)
      = (links.zipIdx.map Prod.fst).map Linked.kind := by
        rw [members, List.map_map, List.map_map]
        rfl
    _ = links.map Linked.kind := by rw [hlinks]

/-- Databases that were connected in order are prepared as they stand. -/
theorem inOrder_members {links : List Linked}
    (h : (links.map Linked.kind).Pairwise fun a b => a.rank < b.rank) :
    Fleet.inOrder (members links) = members links := by
  rw [← map_kind_members, List.pairwise_map] at h
  exact List.mergeSort_of_pairwise (h.imp fun hlt => decide_eq_true (Nat.le_of_lt hlt))

/-! ## The whole run -/

theorem isEnabled_ofKind (k : Kind) (mask : Nat) :
    (Policy.ofKind k).isEnabled mask = k.inMask mask := by
  cases k <;> rfl

/-- What a run makes of the kinds that were selected for a request. -/
structure Honoured (s : Settings) (requested kinds : List Kind) : Prop where
  ascending : kinds.Pairwise fun a b => a.rank < b.rank
  configured : ∀ k ∈ kinds, s.isConfigured k = true
  connection : ∀ k ∈ kinds, ∃ c, s.connection k = .ok c
  mem_iff : ∀ k, k ∈ kinds ↔ if requested = [] then s.isConfigured k = true
    ∧ k.inMask s.updates.enabledKinds = true else k ∈ requested
  /-- The mask of the run lets every selected database be prepared. -/
  enabled : ∀ k ∈ kinds,
    (Policy.ofKind k).isEnabled (settingsFor s requested kinds).updates.enabledKinds = true
  /-- After a request the mask lets no other database be prepared. -/
  only : requested ≠ [] → ∀ k,
    (Policy.ofKind k).isEnabled (settingsFor s requested kinds).updates.enabledKinds = true →
      k ∈ kinds
  /-- No connection is refused for what the settings say. -/
  refused : ∀ {σ : Type} (answer : (q : Host.Request) → σ → q.Reply × σ) (st t : σ) (f : Failure),
    (connectAll (settingsFor s requested kinds) kinds).run.run answer st = (.error f, t) → f.OfHost
  /-- The databases that are prepared are the selected ones, in their order. -/
  prepared : ∀ {σ : Type} (answer : (q : Host.Request) → σ → q.Reply × σ) (st t : σ)
    (links : List Linked),
    (connectAll (settingsFor s requested kinds) kinds).run.run answer st = (.ok links, t) →
      (Fleet.inOrder (members links)).map (fun m => m.target.kind) = kinds

/-- Accepted settings honour every selection that is made from them. -/
theorem select_honoured (h : s.check = .ok ()) (hselect : select s requested = .ok kinds) :
    Honoured s requested kinds := by
  have hascending := pairwise_of_select hselect
  have hconnection : ∀ k ∈ kinds, ∃ c, s.connection k = .ok c := fun k hk =>
    Settings.connection_of_check h (configured_of_select hselect hk)
  exact {
    ascending := hascending
    configured := fun k hk => configured_of_select hselect hk
    connection := hconnection
    mem_iff := mem_of_select hselect
    enabled := fun k hk => by
      rw [isEnabled_ofKind]
      exact ((inMask_settingsFor hselect k).mp hk).2
    only := fun hrequested k hmask => by
      rw [isEnabled_ofKind] at hmask
      exact (inMask_settingsFor hselect k).mpr ⟨fun hnone => absurd hnone hrequested, hmask⟩
    refused := fun answer st t f hrun => by
      rw [connectAll_settingsFor] at hrun
      exact connectAll_error hconnection hrun
    prepared := fun answer st t links hrun => by
      have hlinks := connectAll_ok hrun
      rw [inOrder_members (hlinks ▸ hascending), map_kind_members, hlinks] }

/-- The settings of a project with a server and an embedded database. -/
def twoDatabases : Settings where
  sourceDirectory := ⟨"/project"⟩
  clientProgram := none
  automatic := false
  updates := { UpdateSettings.standard with enabledKinds := Kind.world.flag }
  databases :=
    [(.world, ⟨.duckdb, "world.db", true, none⟩),
      (.auth, ⟨.mysql, "localhost;3306;dbup;secret;auth", true, none⟩)]

/-- A request in any order, with repetitions, overrules the mask. -/
theorem select_honoured_twoDatabases :
    twoDatabases.check = .ok ()
      ∧ select twoDatabases [.world, .auth, .world] = .ok [.auth, .world]
      ∧ Honoured twoDatabases [.world, .auth, .world] [.auth, .world] := by
  have hcheck : twoDatabases.check = .ok () := by decide +kernel
  have hselect : select twoDatabases [.world, .auth, .world] = .ok [.auth, .world] := by cbv
  exact ⟨hcheck, hselect, select_honoured hcheck hselect⟩

end CommandLine

end SchemaMigration
