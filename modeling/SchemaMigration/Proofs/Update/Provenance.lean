import SchemaMigration.Proofs.Update.Bench
import SchemaMigration.Proofs.Update.History
import SchemaMigration.Proofs.Update.Outcome

/-! # Provenance — where the contents in a ledger come from

    A record says that its content was applied.  Whatever files come and go, and
    wherever runs fail, a content gets into the ledger in one way only: its script
    was run with status zero, and is recorded next.

    * `Attested` is the invariant, which also says that no record lacks a hash;
    * `entries_ne_rehash`: where no record lacks a hash, none is filled in, so a
      plan attaches a hash by recording alone;
    * `history_attested`: the invariant holds at every moment of every history. -/

namespace SchemaMigration.Update

open Ledger Plan Program

variable {σ : Type} {w : Surroundings σ} {start s : σ}
variable {past : List (Exchange interface)} {live archived : List Script} {options : Options}

/-- Every content in the ledger was there at the start, or a script with it was run. -/
def Attested (w : Surroundings σ) (start : σ) (past : List (Exchange interface)) (s : σ) : Prop :=
  ∀ path r, w.view s path = some r → r.hash ≠ ""
    ∧ ((∃ path₀ r₀, w.view start path₀ = some r₀ ∧ r₀.hash = r.hash)
      ∨ ∃ x, Ran past x ∧ x.hash = r.hash)

/-- Every live script that was found has a hash. -/
def Hashed (past : List (Exchange interface)) : Prop :=
  ∀ m ∈ past, ∀ live archived, found? m = some (live, archived) → ∀ x ∈ live, x.hash ≠ ""

theorem Hashed.of_append {more : List (Exchange interface)} (h : Hashed (past ++ more)) :
    Hashed past := fun m hm => h m (List.mem_append_left _ hm)

/-- A request keeps the ledger attested if it attaches the contents of scripts that were
    run only. -/
theorem Attested.step (h : Attested w start past s) (q : Request)
    (hbrings : ∀ c hash, q.change? = some c → c.brings = some hash →
      hash ≠ "" ∧ ∃ x, Ran past x ∧ x.hash = hash) :
    Attested w start (past ++ [⟨q, (w.answer q s).1⟩]) (w.answer q s).2 := by
  -- A content that was known before the request still is.
  have hold : ∀ path r, w.view s path = some r → r.hash ≠ ""
      ∧ ((∃ path₀ r₀, w.view start path₀ = some r₀ ∧ r₀.hash = r.hash)
        ∨ ∃ x, Ran (past ++ [⟨q, (w.answer q s).1⟩]) x ∧ x.hash = r.hash) := by
    intro path r hr
    obtain ⟨hne, hknown⟩ := h path r hr
    exact ⟨hne, hknown.imp_right fun ⟨x, hran, hx⟩ => ⟨x, hran.append _, hx⟩⟩
  intro path r hr
  rcases w.view_answer q s with hsame | ⟨c, time, hc, hview⟩
  · rw [hsame] at hr
    exact hold path r hr
  · rw [hview] at hr
    rcases Change.hash_onto hr with hbring | ⟨path₀, r₀, hr₀, hhash⟩
    · obtain ⟨hne, x, hran, hx⟩ := hbrings c r.hash hc hbring
      exact ⟨hne, Or.inr ⟨x, hran.append _, hx⟩⟩
    · rw [← hhash]
      exact hold path₀ r₀ hr₀

/-- A request that changes nothing keeps the ledger attested. -/
theorem Attested.unchanged (h : Attested w start past s) {q : Request} (hq : q.change? = none) :
    Attested w start (past ++ [⟨q, (w.answer q s).1⟩]) (w.answer q s).2 := by
  refine h.step q fun c hash hc => ?_
  rw [hq] at hc
  exact nomatch hc

/-- Where every record has a hash, no plan fills one in. -/
theorem entries_ne_rehash (h : Attested w start past s) :
    ∀ e ∈ (w.planFor live archived options s).entries, e.verdict ≠ .rehash := by
  intro e he hv
  obtain ⟨-, -, r, hr, hblank⟩ := blank_of_rehash he hv
  exact (h _ r hr).1 hblank

/-- Looking after the ledger attaches no content, unless hashes are filled in. -/
theorem Tends.brings {p : Plan} {q : Request} (h : Tends p q)
    (hp : ∀ e ∈ p.entries, e.verdict ≠ .rehash) {c : Change} (hc : q.change? = some c) :
    c.brings = none := by
  cases h with
  | log line => exact nomatch hc
  | @settle e c' he hchange =>
      obtain rfl := Option.some.inj hc
      rcases ledgerChange_cases hchange with ⟨old, -, rfl⟩ | ⟨hv, -⟩ | ⟨record, -, rfl⟩
      · rfl
      · exact absurd hv (hp e he)
      · rfl
  | clear hp => exact Option.some.inj hc ▸ rfl
  | count hd => exact Option.some.inj hc ▸ rfl
  | remove hd => exact Option.some.inj hc ▸ rfl

/-- The ledger is attested while a plan without blank records is carried out, and the
    files of the plan are the last ones that were found. -/
def Carrying (w : Surroundings σ) (start : σ) (live : List Script) (p : Plan)
    (past : List (Exchange interface)) (s : σ) : Prop :=
  Found past live
    ∧ (Hashed past → (∀ e ∈ p.entries, e.verdict ≠ .rehash) ∧ Attested w start past s)

namespace Carrying

variable {p : Plan} {q : Request}

/-- Looking after the ledger attaches nothing. -/
theorem tend (h : Carrying w start live p past s) (hq : Tends p q) :
    Carrying w start live p (past ++ [⟨q, (w.answer q s).1⟩]) (w.answer q s).2 := by
  obtain ⟨hfound, h⟩ := h
  refine ⟨hfound.append (by simpa using hq.not_scan _), fun hhashed => ?_⟩
  obtain ⟨hplain, hatt⟩ := h hhashed.of_append
  refine ⟨hplain, hatt.step q fun c hash hc hbring => ?_⟩
  rw [hq.brings hplain hc] at hbring
  exact nomatch hbring

/-- An exchange that changes no record carries the contents on. -/
theorem unchanged (h : Carrying w start live p past s) (hq : Allowed p q)
    (hnone : q.change? = none) :
    Carrying w start live p (past ++ [⟨q, (w.answer q s).1⟩]) (w.answer q s).2 := by
  obtain ⟨hfound, h⟩ := h
  refine ⟨hfound.append (by simpa using hq.not_scan _), fun hhashed => ?_⟩
  obtain ⟨hplain, hatt⟩ := h hhashed.of_append
  exact ⟨hplain, hatt.unchanged hnone⟩

/-- A script is recorded after it was run, two requests earlier. -/
theorem record {x : Script} (hx : x ∈ live) {earlier : List (Exchange interface)}
    {stopped speed : Nat} (hq : q = .ledger (.change (.record x.path x.hash speed)))
    (h : Carrying w start live p
      (earlier ++ [⟨.runScript x.location, .ok 0⟩] ++ [⟨.stopwatch, stopped⟩]) s) :
    Carrying w start live p
      (earlier ++ [⟨.runScript x.location, .ok 0⟩] ++ [⟨.stopwatch, stopped⟩]
        ++ [⟨q, (w.answer q s).1⟩]) (w.answer q s).2 := by
  obtain ⟨hfound, h⟩ := h
  subst hq
  refine ⟨hfound.append (by simp [isScan]), fun hhashed => ?_⟩
  obtain ⟨hplain, hatt⟩ := h hhashed.of_append
  refine ⟨hplain, hatt.step _ fun c hash hc hbring => ?_⟩
  obtain rfl := Option.some.inj hc
  obtain rfl := Option.some.inj hbring
  have hearlier : Found earlier live := (hfound.of_append rfl).of_append rfl
  obtain ⟨m, hm, archived, hbrought⟩ := hfound.exists_mem
  refine ⟨hhashed.of_append m hm live archived hbrought _ hx, x, ?_, rfl⟩
  exact ⟨earlier, live, [⟨.stopwatch, stopped⟩], by simp, hearlier, hx⟩

end Carrying

/-- A single run keeps the ledger attested. -/
theorem update_attested (source : ScriptSource) (options : Options)
    (past : List (Exchange interface)) (s : σ) (h : Hashed past → Attested w start past s) :
    (update source options).run.Keeps w.answer
      (fun past s => Hashed past → Attested w start past s)
      (fun _ past s => Hashed past → Attested w start past s) past s := by
  refine update_keeps (fun q past s hq _ h hhashed => (h hhashed.of_append).unchanged hq) ?_ h
  intro live archived past s hfound h
  set p := w.planFor live archived options s with hp
  have hcarry : (apply p options).run.Keeps w.answer (Carrying w start live p)
      (fun _ => Carrying w start live p) past s := by
    refine apply_keeps (fun q past s hq h => h.tend hq)
      (fun q past s hq hnone h => h.unchanged hq hnone) (fun e he q earlier stopped s speed hq h => ?_)
      ⟨hfound, fun hhashed => ⟨entries_ne_rehash (h hhashed), h hhashed⟩⟩
    exact Carrying.record (live_of_mem_liveEntries (mem_pending_iff.mp he).1) hq h
  exact hcarry.imp (fun past s h hhashed => (h.2 hhashed).2) fun _ past s h hhashed =>
    (h.2 hhashed).2

/-- The ledger never claims a content that was not executed: at every moment of every
    history, every content in it was there at the start, or belongs to a live script
    that was run with status zero before. -/
theorem history_attested (runs : List (ScriptSource × Options))
    (hstart : ∀ r ∈ w.records start, r.hash ≠ "")
    (hfound : ∀ m ∈ (history runs).trail w.answer start, ∀ live archived,
      found? m.1 = some (live, archived) → ∀ x ∈ live, x.hash ≠ "") :
    ∀ before after, (history runs).trail w.answer start = before ++ after →
      ∀ r ∈ w.records (reached start before),
        (∃ r₀ ∈ w.records start, r₀.hash = r.hash)
          ∨ ∃ x, Ran (before.map Prod.fst) x ∧ x.hash = r.hash := by
  have hinit : Attested w start [] start := fun path r hr =>
    ⟨hstart r (mem_of_viewOf hr), Or.inl ⟨path, r, hr, rfl⟩⟩
  have hkeeps := history_keeps update_attested runs [] start fun _ => hinit
  intro before after hsplit r hr
  -- The hypothesis is about the whole history; up to any moment it holds of what was scanned by
  -- then.
  have hhashed : Hashed (before.map Prod.fst) := by
    intro m hm live archived hbrought
    obtain ⟨n, hn, rfl⟩ := List.mem_map.mp hm
    exact hfound n (hsplit ▸ List.mem_append_left _ hn) live archived hbrought
  have hatt := hkeeps.moment (fun _ => hinit) before after hsplit hhashed
  obtain ⟨-, ⟨path₀, r₀, hr₀, hhash⟩ | hran⟩ := hatt r.path r (w.mem_records_iff.mp hr)
  · exact Or.inl ⟨r₀, mem_of_viewOf hr₀, hhash⟩
  · exact Or.inr hran

/-- Two new files, of which the second one fails. -/
def halfBench : Bench :=
  ⟨[([Bench.live "a.sql" "first", Bench.live "b.sql" "second"], [])], [⟨"/updates/b.sql"⟩], [],
    by decide⟩

/-- The one content that two runs leave was executed, since the ledger held none before. -/
theorem history_attested_half :
    ((history Bench.twice).run Bench.answer halfBench).2.records.map Record.hash = ["first"]
      ∧ ∃ x, Ran (((history Bench.twice).trail Bench.answer halfBench).map Prod.fst) x
        ∧ x.hash = "first" := by
  have hend : ((history Bench.twice).run Bench.answer halfBench).2.records.map Record.hash
      = ["first"] := by cbv
  have hhashed : (((history Bench.twice).trail Bench.answer halfBench).filterMap
      (fun m => found? m.1)).all (fun f => f.1.all fun x => x.hash ≠ "") = true := by cbv
  have hstart : ∀ r ∈ Bench.surroundings.records halfBench, r.hash ≠ "" :=
    List.forall_mem_nil _
  have hattested := history_attested Bench.twice hstart fun m hm live archived hfound x hx =>
    have hall := List.all_eq_true.mp hhashed (live, archived)
      (List.mem_filterMap.mpr ⟨m, hm, hfound⟩)
    of_decide_eq_true (List.all_eq_true.mp hall x hx)
  -- The last moment of the trail is the end of the second run.
  obtain ⟨r, hr, hhash⟩ :
      ∃ r ∈ ((history Bench.twice).run Bench.answer halfBench).2.records, r.hash = "first" :=
    List.mem_map.mp (hend ▸ List.mem_cons_self)
  rw [← reached_trail] at hr
  rcases hattested _ [] (List.append_nil _).symm r hr with ⟨r₀, hr₀, -⟩ | ⟨x, hran, hx⟩
  · exact absurd hr₀ List.not_mem_nil
  · exact ⟨hend, x, hran, hx.trans hhash⟩

end SchemaMigration.Update
