import SchemaMigration.Proofs.Update.Bench
import SchemaMigration.Proofs.Update.History
import SchemaMigration.Proofs.Update.Outcome

/-! # Protection — an applied script whose file stays is left alone

    As long as every scan finds the file of a record with the content of the
    record, no plan asks anything of it: its own entry is applied, no other entry
    touches a live path, and a record with a file is not dead.

    * `Spared` is what a request has to leave alone, and `allowed_spared` says that
      every request of a plan does;
    * `Heeded` says it of all requests so far, `Standing` that the record is there;
    * `record_protected`: both hold at every moment, whatever else changes or fails. -/

namespace SchemaMigration.Update

open Ledger Plan Program

variable {σ : Type} {w : Surroundings σ} {start s : σ} {r₀ : Record}
variable {past : List (Exchange interface)} {live archived : List Script} {options : Options}

/-! ## One plan -/

/-- The request leaves the record of a path alone, except for its counter, which may be
    reset, and runs no script but another live one. -/
def Spared (path : String) (live : List Script) (q : Request) : Prop :=
  (∀ c, q.change? = some c → path ∈ c.paths → c = .clearMissing path)
    ∧ ∀ location, q = .runScript location → ∃ x ∈ live, x.location = location ∧ x.path ≠ path

/-- The files hold the script of a record, and no two live ones have one path. -/
def Holds (r₀ : Record) (live : List Script) : Prop :=
  (live.map Script.path).Nodup ∧ ∃ x ∈ live, x.path = r₀.path ∧ x.hash = r₀.hash

/-- The record is there, up to its counter. -/
def Standing (w : Surroundings σ) (r₀ : Record) (s : σ) : Prop :=
  ∃ n, w.view s r₀.path = some { r₀ with missingRuns := n }

/-- The file of a standing record is applied. -/
theorem applied_of_standing (h : Standing w r₀ s) (hholds : Holds r₀ live) {e : PlannedFile}
    (he : e ∈ liveEntries (w.inputFor live archived options s)) (hp : e.script.path = r₀.path) :
    e.verdict = .applied := by
  obtain ⟨hn, x, hx, hpath, hhash⟩ := hholds
  have hsame : e.script = x :=
    List.inj_on_of_nodup_map hn (live_of_mem_liveEntries he) hx (hp.trans hpath.symm)
  obtain ⟨n, hr⟩ := h
  obtain ⟨l₁, l₂, -, hv⟩ := mem_liveEntries_iff.mp he
  have hrec : recordAt? (w.inputFor live archived options s).records e.script.path
      = some (Record.asRead { r₀ with missingRuns := n }) := by
    rw [hp]
    exact recordAt?_of_view hr
  rw [hv]
  exact liveVerdict_of_same hrec (by rw [hsame, hhash]; rfl)

/-- The script of a standing record is not run again. -/
theorem pending_ne_of_standing (h : Standing w r₀ s) (hholds : Holds r₀ live) {e : PlannedFile}
    (he : e ∈ (w.planFor live archived options s).pending) :
    e.script ∈ live ∧ e.script.path ≠ r₀.path := by
  obtain ⟨hl, hp⟩ := mem_pending_iff.mp he
  refine ⟨live_of_mem_liveEntries hl, fun hpath => ?_⟩
  rw [applied_of_standing h hholds hl hpath] at hp
  exact nomatch hp

/-- No entry touches a standing record: its path is live, and its own entry is applied. -/
theorem not_touched_of_standing (h : Standing w r₀ s) (hholds : Holds r₀ live) {e : PlannedFile}
    (he : e ∈ (w.planFor live archived options s).entries) : r₀.path ∉ touched e := by
  obtain ⟨x, hx, hpath, -⟩ := hholds.2
  obtain ⟨own, hown, rfl⟩ := exists_entry_of_live hx
  intro htouch
  rw [← hpath] at htouch
  obtain rfl := eq_of_touched_live hholds.1 hown he htouch
  rw [touched_of_isQuiet (by rw [applied_of_standing h hholds hown hpath]; rfl)] at htouch
  exact nomatch htouch

/-- A record whose file is there is not dead. -/
theorem not_dead_of_holds (hholds : Holds r₀ live) :
    r₀.path ∉ (w.planFor live archived options s).dead.map DeadReference.path := by
  obtain ⟨x, hx, hpath, -⟩ := hholds.2
  intro hd
  obtain ⟨r, hr, hp⟩ := mem_dead_iff_view.mp hd
  have hrpath : r.path = r₀.path := w.path_of_view hr
  exact hp (Or.inl (isLive_iff.mpr ⟨x, hx, hpath.trans hrpath.symm⟩))

/-- No plan asks anything of a standing record whose file is there. -/
theorem allowed_spared (h : Standing w r₀ s) (hholds : Holds r₀ live) {q : Request}
    (hq : Allowed (w.planFor live archived options s) q) : Spared r₀.path live q := by
  have hdead : r₀.path ∉ (w.planFor live archived options s).dead.map DeadReference.path :=
    not_dead_of_holds hholds
  cases hq with
  | tend hq =>
      refine ⟨fun c hc hmem => ?_, fun location hloc => ?_⟩
      · cases hq with
        | log line => exact nomatch hc
        | @settle e c' he hchange =>
            obtain rfl := Option.some.inj hc
            rw [paths_of_ledgerChange hchange] at hmem
            exact absurd hmem (not_touched_of_standing h hholds he)
        | @clear path hp =>
            obtain rfl := Option.some.inj hc
            rw [List.mem_singleton.mp hmem]
        | @count d hd =>
            obtain rfl := Option.some.inj hc
            rw [List.mem_singleton.mp hmem] at hdead
            exact absurd (List.mem_map_of_mem hd) hdead
        | @remove d hd =>
            obtain rfl := Option.some.inj hc
            rw [List.mem_singleton.mp hmem] at hdead
            exact absurd (List.mem_map_of_mem hd) hdead
      · subst hloc
        exact nomatch hq
  | stopwatch => exact ⟨nofun, nofun⟩
  | @run e he =>
      refine ⟨nofun, fun location hloc => ?_⟩
      obtain ⟨hlive, hne⟩ := pending_ne_of_standing h hholds he
      exact ⟨e.script, hlive, Request.runScript.inj hloc, hne⟩
  | @record e he speed =>
      refine ⟨fun c hc hmem => ?_, nofun⟩
      obtain rfl := Option.some.inj hc
      exact absurd (List.mem_singleton.mp hmem).symm (pending_ne_of_standing h hholds he).2

/-- What is spared leaves the record standing. -/
theorem Standing.step (h : Standing w r₀ s) {q : Request}
    (hq : ∀ c, q.change? = some c → r₀.path ∈ c.paths → c = .clearMissing r₀.path) :
    Standing w r₀ (w.answer q s).2 := by
  obtain ⟨n, hr⟩ := h
  rcases w.view_answer q s with hsame | ⟨c, time, hc, hview⟩
  · exact ⟨n, by rw [hsame, hr]⟩
  · by_cases hmem : r₀.path ∈ c.paths
    · obtain rfl := hq c hc hmem
      refine ⟨0, ?_⟩
      rw [hview, Change.onto_clearMissing_self, hr]
      rfl
    · refine ⟨n, ?_⟩
      rw [hview, Change.onto_of_notMem hmem, hr]

/-! ## Histories -/

/-- Every request so far left the record alone. -/
def Heeded (r₀ : Record) (past : List (Exchange interface)) : Prop :=
  ∀ before m after, past = before ++ m :: after →
    (∀ c, m.1.change? = some c → r₀.path ∈ c.paths → c = .clearMissing r₀.path)
      ∧ ∀ location, m.1 = .runScript location →
          ∃ live, Found before live ∧ ∃ x ∈ live, x.location = location ∧ x.path ≠ r₀.path

theorem Heeded.append {m : Exchange interface} (h : Heeded r₀ past)
    (hchange : ∀ c, m.1.change? = some c → r₀.path ∈ c.paths → c = .clearMissing r₀.path)
    (hrun : ∀ location, m.1 = .runScript location →
      ∃ live, Found past live ∧ ∃ x ∈ live, x.location = location ∧ x.path ≠ r₀.path) :
    Heeded r₀ (past ++ [m]) := by
  intro before m' after heq
  rcases List.eq_nil_or_concat after with rfl | ⟨init, last, rfl⟩
  · obtain ⟨rfl, hlast⟩ := List.append_inj' heq rfl
    obtain rfl := List.singleton_inj.mp hlast
    exact ⟨hchange, hrun⟩
  · rw [List.concat_eq_append, ← List.cons_append, ← List.append_assoc] at heq
    exact h before m' init (List.append_inj' heq rfl).1

/-- Every scan so far found the script of the record. -/
def HeldBy (r₀ : Record) (past : List (Exchange interface)) : Prop :=
  ∀ m ∈ past, ∀ live archived, found? m = some (live, archived) → Holds r₀ live

theorem HeldBy.of_append {more : List (Exchange interface)} (h : HeldBy r₀ (past ++ more)) :
    HeldBy r₀ past := fun m hm => h m (List.mem_append_left _ hm)

/-- As long as scans find its script, the record stands and was left alone. -/
def Protected (w : Surroundings σ) (r₀ : Record) (past : List (Exchange interface)) (s : σ) :
    Prop :=
  HeldBy r₀ past → Standing w r₀ s ∧ Heeded r₀ past

/-- A request that spares the record keeps it protected. -/
theorem Protected.step (h : Protected w r₀ past s) (hfound : Found past live) {q : Request}
    (hq : HeldBy r₀ past → Spared r₀.path live q) :
    Protected w r₀ (past ++ [⟨q, (w.answer q s).1⟩]) (w.answer q s).2 := by
  intro hheld
  obtain ⟨hstanding, hheeded⟩ := h hheld.of_append
  obtain ⟨hchange, hrun⟩ := hq hheld.of_append
  exact ⟨hstanding.step hchange, hheeded.append hchange fun location hloc =>
    ⟨live, hfound, hrun location hloc⟩⟩

/-- While a plan is carried out, its files are the last ones that were found, and what it
    asks spares the record. -/
def Sparing (w : Surroundings σ) (r₀ : Record) (live : List Script) (p : Plan)
    (past : List (Exchange interface)) (s : σ) : Prop :=
  Found past live ∧ (HeldBy r₀ past → ∀ q, Allowed p q → Spared r₀.path live q)
    ∧ Protected w r₀ past s

/-- A single run keeps the record protected. -/
theorem update_protected (source : ScriptSource) (options : Options)
    (past : List (Exchange interface)) (s : σ) (h : Protected w r₀ past s) :
    (update source options).run.Keeps w.answer (Protected w r₀) (fun _ => Protected w r₀)
      past s := by
  refine update_keeps (fun q past s hq hrun h hheld => ?_) ?_ h
  · -- Reading and reporting neither change the ledger nor run a script.
    obtain ⟨hstanding, hheeded⟩ := h hheld.of_append
    have hchange : ∀ c, q.change? = some c → r₀.path ∈ c.paths → c = .clearMissing r₀.path := by
      rw [hq]
      exact nofun
    exact ⟨hstanding.step hchange,
      hheeded.append hchange fun location hloc => absurd hloc (hrun location)⟩
  · -- The plan is made while the record stands, so it spares the record to its end.
    intro live archived past s hfound h
    have hcarry : (apply (w.planFor live archived options s) options).run.Keeps w.answer
        (Sparing w r₀ live (w.planFor live archived options s))
        (fun _ => Sparing w r₀ live (w.planFor live archived options s)) past s := by
      refine (apply_asks _ options).keeps ?_ ?_
      · rintro q past s hq ⟨hfound, hspared, h⟩
        exact ⟨hfound.append (by simpa using hq.not_scan _),
          fun hheld => hspared hheld.of_append, h.step hfound fun hheld => hspared hheld q hq⟩
      · refine ⟨hfound, fun hheld q hq => ?_, h⟩
        obtain ⟨m, hm, archived', hbrought⟩ := hfound.exists_mem
        exact allowed_spared (h hheld).1 (hheld m hm live archived' hbrought) hq
    exact hcarry.imp (fun _ _ h => h.2.2) fun _ _ _ h => h.2.2

/-- No re-execution of an applied script: while every scan of a history finds a script with
    the path and content of a record, the record is never moved, archived, rehashed,
    overwritten, removed or counted as missing, and no run applies the script. -/
theorem record_protected (runs : List (ScriptSource × Options)) (hr₀ : r₀ ∈ w.records start)
    (hfound : ∀ m ∈ (history runs).trail w.answer start, ∀ live archived,
      found? m.1 = some (live, archived) →
        (live.map Script.path).Nodup ∧ ∃ x ∈ live, x.path = r₀.path ∧ x.hash = r₀.hash) :
    (∀ before after, (history runs).trail w.answer start = before ++ after →
      ∃ n, { r₀ with missingRuns := n } ∈ w.records (reached start before))
    ∧ ∀ before m after, (history runs).trail w.answer start = before ++ m :: after →
        (∀ c, m.1.1.change? = some c → r₀.path ∈ c.paths → c = .clearMissing r₀.path)
        ∧ ∀ location, m.1.1 = .runScript location → ∃ live, Found (before.map Prod.fst) live
            ∧ (∃ x ∈ live, x.location = location ∧ x.path ≠ r₀.path)
            ∧ ((live.map Script.location).Nodup →
                ∀ x ∈ live, x.path = r₀.path → x.location ≠ location) := by
  have hinit : Protected w r₀ [] start := fun _ =>
    ⟨⟨r₀.missingRuns, w.mem_records_iff.mp hr₀⟩, fun before m after heq => by simp at heq⟩
  have hmoment := (history_keeps update_protected runs [] start hinit).moment hinit
  have hheld : ∀ before after, (history runs).trail w.answer start = before ++ after →
      HeldBy r₀ (before.map Prod.fst) := by
    intro before after hsplit m hm live archived hbrought
    obtain ⟨n, hn, rfl⟩ := List.mem_map.mp hm
    exact hfound n (hsplit ▸ List.mem_append_left _ hn) live archived hbrought
  constructor
  · intro before after hsplit
    obtain ⟨⟨n, hr⟩, -⟩ := hmoment before after hsplit (hheld before after hsplit)
    exact ⟨n, mem_of_viewOf hr⟩
  · intro before m after hsplit
    have hsplit' : (history runs).trail w.answer start = (before ++ [m]) ++ after := by
      rw [hsplit, List.append_assoc]
      rfl
    have hheeded := (hmoment (before ++ [m]) after hsplit' (hheld _ after hsplit')).2
    obtain ⟨hchange, hrun⟩ := hheeded (before.map Prod.fst) m.1 [] (by simp)
    refine ⟨hchange, fun location hloc => ?_⟩
    obtain ⟨live, hlive, x, hx, rfl, hne⟩ := hrun location hloc
    -- Where files differ in their locations, the script that is run is not the record's.
    refine ⟨live, hlive, ⟨x, hx, rfl, hne⟩, fun hn y hy hpath hsame => hne ?_⟩
    rw [← List.inj_on_of_nodup_map hn hy hx hsame, hpath]

/-- An archived record whose file is live again, beside a new file that fails. -/
def returnBench : Bench :=
  ⟨[([Bench.live "a.sql" "first", Bench.live "b.sql" "second"], []),
      ([Bench.live "a.sql" "first"], [])],
    [⟨"/updates/b.sql"⟩], [⟨"a.sql", "first", .epoch, 7, .archived, 2⟩], by decide⟩

/-- The record outlives a run that fails and a run whose files have changed, and its file
    is applied in neither. -/
theorem record_protected_return :
    (∀ before after, (history Bench.twice).trail Bench.answer returnBench = before ++ after →
      ∃ n, ⟨"a.sql", "first", .epoch, 7, .archived, n⟩ ∈ (reached returnBench before).records)
    ∧ ∀ before m after,
      (history Bench.twice).trail Bench.answer returnBench = before ++ m :: after →
        (∀ c, m.1.1.change? = some c → "a.sql" ∈ c.paths → c = .clearMissing "a.sql")
        ∧ m.1.1 ≠ .runScript ⟨"/updates/a.sql"⟩ := by
  have hholds : (((history Bench.twice).trail Bench.answer returnBench).filterMap
      (fun m => found? m.1)).all (fun f => decide ((f.1.map Script.path).Nodup
        ∧ (f.1.map Script.location).Nodup ∧ Bench.live "a.sql" "first" ∈ f.1)) = true := by cbv
  have hfiles : ∀ m ∈ (history Bench.twice).trail Bench.answer returnBench, ∀ live archived,
      found? m.1 = some (live, archived) → (live.map Script.path).Nodup
        ∧ (live.map Script.location).Nodup ∧ Bench.live "a.sql" "first" ∈ live := by
    intro m hm live archived hfound
    exact of_decide_eq_true (List.all_eq_true.mp hholds (live, archived)
      (List.mem_filterMap.mpr ⟨m, hm, hfound⟩))
  have hr₀ : ⟨"a.sql", "first", .epoch, 7, .archived, 2⟩
      ∈ Bench.surroundings.records returnBench := List.mem_cons_self
  obtain ⟨hstays, hasked⟩ := record_protected Bench.twice hr₀ fun m hm live archived hfound => by
    obtain ⟨hpaths, -, hx⟩ := hfiles m hm live archived hfound
    exact ⟨hpaths, _, hx, rfl, rfl⟩
  refine ⟨hstays, fun before m after hsplit => ?_⟩
  obtain ⟨hchange, hrun⟩ := hasked before m after hsplit
  refine ⟨hchange, fun hloc => ?_⟩
  obtain ⟨live, hlive, -, hnot⟩ := hrun _ hloc
  obtain ⟨_, hscan, archived, hfound⟩ := hlive.exists_mem
  obtain ⟨k, hk, rfl⟩ := List.mem_map.mp hscan
  obtain ⟨-, hlocations, hx⟩ :=
    hfiles k (hsplit ▸ List.mem_append_left _ hk) live archived hfound
  exact hnot hlocations _ hx rfl rfl

end SchemaMigration.Update
