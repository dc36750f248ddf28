import Mathlib
import SchemaMigration.Proofs.Update.Surroundings

/-! # Benches — surroundings that are kept in memory

    A bench holds the records of a ledger, what the next scans find, and the
    scripts that fail.  Its ledger never fails but for a change that would give
    two records one path.  It shows that `Surroundings` asks for nothing that a
    plain list of records cannot do, and general statements about runs are
    tried on it. -/

namespace SchemaMigration.Update

open Ledger

/-- Whether a change would give two records one path. -/
def Collides (v : View) : Change → Prop
  | .rename old new => old ≠ new ∧ (v old).isSome ∧ (v new).isSome
  | _ => False

instance (v : View) : (c : Change) → Decidable (Collides v c)
  | .rename old new => inferInstanceAs (Decidable (old ≠ new ∧ (v old).isSome ∧ (v new).isSome))
  | .record _ _ _ => .isFalse id
  | .archive _ => .isFalse id
  | .remove _ => .isFalse id
  | .rehash _ _ => .isFalse id
  | .markMissing _ => .isFalse id
  | .clearMissing _ => .isFalse id

/-! ## Records under their own paths -/

/-- Every record stands under its own path. -/
def Filed (v : View) : Prop := ∀ p r, v p = some r → r.path = p

theorem filed_viewOf (records : List Record) : Filed (viewOf records) := fun _ _ => path_of_viewOf

theorem Filed.update {v : View} (hv : Filed v) {path : String} {x : Option Record}
    (hx : ∀ r, x = some r → r.path = path) : Filed (Function.update v path x) := by
  intro p r h
  by_cases hp : p = path
  · rw [hp, Function.update_self] at h
    exact (hx r h).trans hp.symm
  · rw [Function.update_of_ne hp] at h
    exact hv p r h

theorem Filed.map {v : View} (hv : Filed v) {path : String} {f : Record → Record}
    (hf : ∀ r, (f r).path = r.path) : Filed (Function.update v path ((v path).map f)) := by
  refine hv.update fun r h => ?_
  obtain ⟨r₀, hr₀, rfl⟩ := Option.map_eq_some_iff.mp h
  exact (hf r₀).trans (hv path r₀ hr₀)

/-- A change keeps every record under its own path. -/
theorem Filed.onto {v : View} (hv : Filed v) (time : Timestamp) (c : Change) :
    Filed (c.onto time v) := by
  cases c with
  | record path hash speed =>
      refine hv.update fun r h => ?_
      rw [← Option.some.inj h]
  | remove path => exact hv.update (by simp)
  | rename old new =>
      cases hold : v old with
      | none => rw [Change.onto_rename_of_none hold]; exact hv
      | some r₀ =>
          rw [Change.onto_rename_of_some hold]
          refine (hv.update fun r h => by exact nomatch h).update fun r h => ?_
          rw [← Option.some.inj h, Record.movedTo_path]
  | archive path => exact hv.map Record.shelved_path
  | rehash path hash => exact hv.map fun r => rfl
  | markMissing path => exact hv.map Record.counted_path
  | clearMissing path => exact hv.map Record.cleared_path

/-! ## Lists that hold what a view says -/

/-- The records under some paths. -/
def recordsUnder (paths : List String) (v : View) : List Record := paths.dedup.filterMap v

theorem unique_recordsUnder {v : View} (hv : Filed v)
    (paths : List String) : ((recordsUnder paths v).map Record.path).Nodup := by
  have hn := List.nodup_dedup paths
  -- Induction on the paths without repetition; records under others have other paths.
  rw [recordsUnder]
  generalize paths.dedup = keys at hn
  induction keys with
  | nil => exact List.nodup_nil
  | cons p rest ih =>
      obtain ⟨hp, hrest⟩ := List.nodup_cons.mp hn
      cases hvp : v p with
      | none =>
          rw [List.filterMap_cons_none hvp]
          exact ih hrest
      | some r =>
          rw [List.filterMap_cons_some hvp, List.map_cons, List.nodup_cons]
          refine ⟨fun hmem => ?_, ih hrest⟩
          obtain ⟨r', hr', heq⟩ := List.mem_map.mp hmem
          obtain ⟨q, hq, hvq⟩ := List.mem_filterMap.mp hr'
          have hqp : q = p := by rw [← hv q r' hvq, heq, hv p r hvp]
          exact hp (hqp ▸ hq)

theorem viewOf_recordsUnder {v : View} (hv : Filed v)
    {paths : List String} (hall : ∀ p, v p ≠ none → p ∈ paths) :
    viewOf (recordsUnder paths v) = v := by
  funext p
  cases hvp : v p with
  | none =>
      rw [viewOf_eq_none_iff]
      intro r hr heq
      obtain ⟨q, -, hvq⟩ := List.mem_filterMap.mp hr
      rw [← hv q r hvq, heq, hvp] at hvq
      exact nomatch hvq
  | some r =>
      have hmem : r ∈ recordsUnder paths v := by
        refine List.mem_filterMap.mpr ⟨p, List.mem_dedup.mpr (hall p ?_), hvp⟩
        rw [hvp]; exact Option.some_ne_none r
      have := viewOf_of_mem (unique_recordsUnder hv paths) hmem
      rwa [hv p r hvp] at this

/-! ## Benches -/

/-- A ledger in memory, with the files and scripts around it. -/
structure Bench where
  /-- What the next scans find; the last of them stays. -/
  scans : List (List Script × List Script)
  /-- The scripts that end with status 1. -/
  failing : List Path
  records : List Record
  unique : (records.map Record.path).Nodup

namespace Bench

/-- The bench after a change of its ledger. -/
def after (b : Bench) (c : Change) : Bench :=
  { b with
    records :=
      recordsUnder (b.records.map Record.path ++ c.paths) (c.onto .epoch (viewOf b.records))
    unique := unique_recordsUnder ((filed_viewOf b.records).onto .epoch c) _ }

/-- The change has on the records the effect that it has on their view. -/
theorem viewOf_after (b : Bench) (c : Change) :
    viewOf (b.after c).records = c.onto .epoch (viewOf b.records) := by
  -- A record after the change stands under a path of the change, or was there before.
  refine viewOf_recordsUnder ((filed_viewOf b.records).onto .epoch c) fun p hp => ?_
  by_cases hc : p ∈ c.paths
  · exact List.mem_append_right _ hc
  · rw [Change.onto_of_notMem hc] at hp
    obtain ⟨r, hr⟩ := Option.ne_none_iff_exists'.mp hp
    refine List.mem_append_left _ (List.mem_map.mpr ⟨r, mem_of_viewOf hr, path_of_viewOf hr⟩)

/-- What a scan finds, and the bench after it. -/
def scan (b : Bench) : (List Script × List Script) × Bench :=
  match b.scans with
  | [] => (([], []), b)
  | [last] => (last, b)
  | first :: rest => (first, { b with scans := rest })

/-- Why a change is refused that would give two records one path. -/
def duplicateKey (c : Change) : UpdateError :=
  .ledger c.describe (.execution "Constraint Error: Duplicate key")

/-- Answers the requests of an update run. -/
def answer : (q : Request) → Bench → q.Reply × Bench
  | .scan _, b => (.ok b.scan.1, b.scan.2)
  | .ledger .list, b => (.ok (b.records.map Record.asRead), b)
  | .ledger (.change c), b =>
      if Collides (viewOf b.records) c then (.error (duplicateKey c), b) else (.ok (), b.after c)
  | .ledger (.countMissing path), b =>
      (.ok (counterAt (viewOf (b.after (.markMissing path)).records) path),
        b.after (.markMissing path))
  | .runScript location, b => (.ok (if location ∈ b.failing then 1 else 0), b)
  | .stopwatch, b => (0, b)
  | .log _, b => ((), b)

theorem answer_of_collides {b : Bench} {c : Change} (h : Collides (viewOf b.records) c) :
    answer (.ledger (.change c)) b = (.error (duplicateKey c), b) := if_pos h

theorem answer_of_not_collides {b : Bench} {c : Change} (h : ¬Collides (viewOf b.records) c) :
    answer (.ledger (.change c)) b = (.ok (), b.after c) := if_neg h

theorem records_scan (b : Bench) : b.scan.2.records = b.records := by
  rw [scan]
  split <;> rfl

/-- A bench is a surrounding. -/
def surroundings : Surroundings Bench where
  answer := answer
  records := records
  unique := unique
  quiet := by
    intro q s hq
    cases q with
    | scan source => exact records_scan s
    | ledger op =>
        cases op with
        | list => rfl
        | change c => exact nomatch hq
        | countMissing path => exact nomatch hq
    | runScript location => rfl
    | stopwatch => rfl
    | log line => rfl
  listed := by
    intro s found h
    exact (Except.ok.inj h).symm
  changed := by
    intro c s h
    by_cases hc : Collides (viewOf s.records) c
    · rw [answer_of_collides hc] at h
      exact nomatch h
    · rw [answer_of_not_collides hc]
      exact ⟨.epoch, viewOf_after s c⟩
  unchanged := by
    intro c s e h
    by_cases hc : Collides (viewOf s.records) c
    · rw [answer_of_collides hc]
    · rw [answer_of_not_collides hc] at h
      exact nomatch h
  counted := by
    intro path s n h
    exact ⟨⟨.epoch, viewOf_after s _⟩, (Except.ok.inj h).symm⟩
  uncounted := by
    intro path s e h
    exact nomatch h

/-- The directories that a bench is scanned for. -/
def source : ScriptSource := ⟨⟨"/updates"⟩, ⟨"/archived"⟩⟩

/-- Two runs with the standard options. -/
def twice : List (ScriptSource × Options) := [(source, .standard), (source, .standard)]

/-- A script in the updates directory. -/
def live (path hash : String) : Script := ⟨path, hash, ⟨"/updates/" ++ path⟩, .updates⟩

/-- A record of a script that was applied, and whose file was never missing. -/
def applied (path hash : String) : Record := ⟨path, hash, .epoch, 0, .active, 0⟩

end Bench

end SchemaMigration.Update
