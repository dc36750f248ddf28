import SchemaMigration.Proofs.Update.Absence

/-! # Recovery — records whose files are back

    A record may have its file again because the file is live or archived, because
    its content was moved to a new path, or because the script was run once more.
    Each way the counter goes back to zero, but by different requests: a record
    that is made or moved has none, and any other counter is reset when counters
    are looked after.  A negative limit turns off the looking after altogether:

    * `counter_of_limit`: with a limit, no counter is left to a record with a file;
    * `counter_of_no_limit`: without one, only records that were made or moved lose theirs;
    * `recovered_afresh` says both of a whole run, and `recovered_kept` is a run in
      which a record is found again and its counter stays. -/

namespace SchemaMigration.Update

open Ledger Plan Program Surroundings

variable {σ : Type} {w : Surroundings σ} {s t : σ}
variable {live archived : List Script} {options : Options} {source : ScriptSource}

/-! ## Settled ledgers -/

section

variable {v : View} {q : String} {r : Record}

/-- Where a limit is set, a record with a file has no counter in the end. -/
theorem counter_of_limit (h : Settled w live archived options s v)
    (hcounters : ∀ r ∈ w.records s, r.missingRuns < 2 ^ 32) {limit : Nat}
    (hlimit : options.limit? = some limit) (hd : q ∉ deadPaths w live archived options s)
    (hr : tidied (w.planFor live archived options s) options v q = some r) :
    r.missingRuns = 0 := by
  have hread : readCounter r.missingRuns = 0 := counter_tidied h hlimit hr hd
  rw [tidied_of_not_dead hlimit hd] at hr
  by_cases hrec : q ∈ (w.planFor live archived options s).recovered
  · rw [if_pos hrec] at hr
    obtain ⟨r₀, -, rfl⟩ := Option.map_eq_some_iff.mp hr
    rfl
  · rw [if_neg hrec] at hr
    rwa [readCounter_of_lt (h.counter_lt hcounters hr)] at hread

/-- A record without a counter is missed for the first time the next time. -/
theorem nextCounter_of_eq_zero (hv : v q = some r) (hzero : r.missingRuns = 0) :
    nextCounter v q = 1 := by
  rw [nextCounter, hv]
  show readCounter (r.missingRuns + 1) = 1
  rw [hzero]
  rfl

/-- Where no limit is set, counters are left alone but for the records that start anew. -/
theorem counter_of_no_limit (h : Settled w live archived options s v)
    (hlimit : options.limit? = none)
    (hr : tidied (w.planFor live archived options s) options v q = some r) :
    (StartsAnew w live archived options s q ∧ r.missingRuns = 0)
      ∨ (¬StartsAnew w live archived options s q
        ∧ ∃ r₀, w.view s q = some r₀ ∧ r₀.missingRuns = r.missingRuns) := by
  rw [tidied_of_none hlimit] at hr
  by_cases hq : StartsAnew w live archived options s q
  · exact Or.inl ⟨hq, h.counter_of_startsAnew hq hr⟩
  · exact Or.inr ⟨hq, h.counter_of_not_startsAnew hq hr⟩

end

/-! ## Whole runs -/

/-- What becomes of counters in a successful run.  Where the limit is not negative, every
    listed record that was not dead has no counter, so if no counter was too big to be read,
    the next run without its file is the first one that counts.  Where it is negative, a
    record has no counter if its script was run or took it over, and any other record has
    the counter that it was listed with before. -/
theorem recovered_afresh {summary : Summary} (hn : (live.map Script.path).Nodup)
    (hscan : (w.answer (.scan source) s).1 = .ok (live, archived))
    (h : w.perform (update source options) s = (.ok summary, t)) :
    (0 ≤ options.deadRunLimit → ∀ r ∈ w.listing t, r.path ∉ deadPaths w live archived options s →
        r.missingRuns = 0
          ∧ ((∀ r₀ ∈ w.records s, r₀.missingRuns < 2 ^ 32) → nextCounter (w.view t) r.path = 1))
      ∧ (options.deadRunLimit < 0 → ∀ r ∈ w.listing t,
        (StartsAnew w live archived options s r.path ∧ r.missingRuns = 0)
          ∨ (¬StartsAnew w live archived options s r.path
            ∧ ∃ r₀ ∈ w.listing s, r₀.path = r.path ∧ r₀.missingRuns = r.missingRuns)) := by
  obtain ⟨v, hsettled, ht⟩ := settled_of_ok hn hscan h
  have hview : ∀ stored ∈ w.records t, tidied (w.planFor live archived options s) options v
      stored.path = some stored := by
    intro stored hstored
    rw [← ht]
    exact w.mem_records_iff.mp hstored
  constructor
  -- With a limit, cleaning up has reset whatever was not dead.
  · intro hpos r hr hd
    obtain ⟨stored, hstored, rfl⟩ := w.mem_listing_iff.mp hr
    have hlimit := limit?_of_nonneg hpos
    refine ⟨counter_tidied hsettled hlimit (hview stored hstored) hd, fun hcounters => ?_⟩
    have hzero : stored.missingRuns = 0 :=
      counter_of_limit hsettled hcounters hlimit hd (hview stored hstored)
    exact nextCounter_of_eq_zero (ht ▸ hview stored hstored) hzero
  -- Without a limit, only the entries that start a counter anew have reset any.
  · intro hneg r hr
    obtain ⟨stored, hstored, rfl⟩ := w.mem_listing_iff.mp hr
    rcases counter_of_no_limit hsettled (limit?_of_neg hneg) (hview stored hstored) with
      ⟨hq, hzero⟩ | ⟨hq, r₀, hr₀, hsame⟩
    · refine Or.inl ⟨hq, ?_⟩
      show readCounter stored.missingRuns = 0
      rw [hzero]
      rfl
    · have hlisted : r₀.asRead ∈ w.listing s :=
        w.mem_listing_iff.mpr ⟨r₀, mem_of_viewOf hr₀, rfl⟩
      have hpath : r₀.path = stored.path := path_of_view hr₀
      exact Or.inr ⟨hq, r₀.asRead, hlisted, hpath, congrArg readCounter hsame⟩

/-- A file that is back, and one whose content was known under another path. -/
def returnedLive : List Script := [Bench.live "back.sql" "kept", Bench.live "new.sql" "moved"]

/-- Records that were missed before, one of them to be moved. -/
def returnedBench : Bench where
  scans := [(returnedLive, [])]
  failing := []
  records :=
    [⟨"back.sql", "kept", .epoch, 0, .active, 1⟩, ⟨"old.sql", "moved", .epoch, 0, .active, 2⟩]
  unique := by decide

/-- Records are never removed. -/
def unlimited : Options := ⟨true, true, false, -1⟩

/-- The bench after a run. -/
def returnedAfter (options : Options) : Bench :=
  (Bench.surroundings.perform (update Bench.source options) returnedBench).2

/-- Without a limit, a record is found again and its counter stays. -/
theorem recovered_kept :
    ∃ summary, Bench.surroundings.perform (update Bench.source unlimited) returnedBench
        = (.ok summary, returnedAfter unlimited)
      ∧ ∃ r ∈ Bench.surroundings.listing (returnedAfter unlimited),
        r.path ∉ deadPaths Bench.surroundings returnedLive [] unlimited returnedBench
          ∧ r.missingRuns ≠ 0 := by
  have hafter : Bench.surroundings.listing (returnedAfter unlimited)
      = [⟨"back.sql", "kept", .epoch, 0, .active, 1⟩,
        ⟨"new.sql", "moved", .epoch, 0, .active, 0⟩] := by cbv
  have hdead : deadPaths Bench.surroundings returnedLive [] unlimited returnedBench = [] := by cbv
  refine ⟨⟨0, 0, 0, 0⟩, Prod.ext (by cbv) rfl, ⟨"back.sql", "kept", .epoch, 0, .active, 1⟩, ?_, ?_⟩
  · rw [hafter]
    exact List.mem_cons_self
  · rw [hdead]
    exact ⟨List.not_mem_nil, Nat.one_ne_zero⟩

/-- With the standard limit both counters are gone.  Without one, a counter that is left is
    the one that the record was listed with before. -/
theorem recovered_afresh_returned :
    (∀ r ∈ Bench.surroundings.listing (returnedAfter .standard), r.missingRuns = 0
        ∧ nextCounter (Bench.surroundings.view (returnedAfter .standard)) r.path = 1)
      ∧ ∀ r ∈ Bench.surroundings.listing (returnedAfter unlimited), r.missingRuns ≠ 0 →
        ∃ r₀ ∈ Bench.surroundings.listing returnedBench,
          r₀.path = r.path ∧ r₀.missingRuns = r.missingRuns := by
  have hn : (returnedLive.map Script.path).Nodup := by decide
  have hscan : (Bench.surroundings.answer (.scan Bench.source) returnedBench).1
      = .ok (returnedLive, []) := rfl
  have hlimited : Bench.surroundings.perform (update Bench.source .standard) returnedBench
      = (.ok ⟨0, 0, 0, 0⟩, returnedAfter .standard) := Prod.ext (by cbv) rfl
  have hunlimited : Bench.surroundings.perform (update Bench.source unlimited) returnedBench
      = (.ok ⟨0, 0, 0, 0⟩, returnedAfter unlimited) := Prod.ext (by cbv) rfl
  have hdead : deadPaths Bench.surroundings returnedLive [] .standard returnedBench = [] := by cbv
  have hcounters : ∀ r ∈ Bench.surroundings.records returnedBench, r.missingRuns < 2 ^ 32 := by
    decide
  obtain ⟨hafresh, -⟩ := recovered_afresh hn hscan hlimited
  obtain ⟨-, hkept⟩ := recovered_afresh hn hscan hunlimited
  constructor
  · intro r hr
    obtain ⟨hzero, hnext⟩ := hafresh (by decide) r hr (by rw [hdead]; exact List.not_mem_nil)
    exact ⟨hzero, hnext hcounters⟩
  · intro r hr hleft
    rcases hkept (by decide) r hr with ⟨-, hzero⟩ | ⟨-, hsame⟩
    · exact absurd hzero hleft
    · exact hsame

end SchemaMigration.Update
