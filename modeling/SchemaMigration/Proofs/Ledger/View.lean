import Mathlib.Algebra.Group.Nat.Defs
import Mathlib.Data.List.Nodup
import Mathlib.Logic.Function.Basic
import SchemaMigration.Ledger.Operation

/-! # Views — a ledger as a map from paths to records

    Seen from outside, a ledger holds at most one record under each path, and a
    change concerns one or two paths:

    * `viewOf` is the map that a list of records stands for;
    * `Change.onto` is what a change does to the map;
    * `Made` is a sequence of changes, each at a time of its own.

    Changes about different paths do not disturb each other
    (`Made.touched`, `Made.untouched`), which is how the outcome of a whole run
    is read off one change at a time. -/

namespace SchemaMigration

/-! ## Counters

    A counter is read back from text, and one that does not fit into 32 bits
    reads as zero.  Only counters are read other than they are stored. -/

namespace Ledger

/-- A stored counter as it is read. -/
def readCounter (n : Nat) : Nat := if n < 2 ^ 32 then n else 0

theorem readCounter_of_lt {n : Nat} (h : n < 2 ^ 32) : readCounter n = n := if_pos h

end Ledger

namespace Record

/-- The record as it is read. -/
def asRead (r : Record) : Record := { r with missingRuns := Ledger.readCounter r.missingRuns }

/-- The record under another path; its file was found there. -/
def movedTo (path : String) (r : Record) : Record := { r with path, missingRuns := 0 }

/-- The record in the archived state. -/
def shelved (r : Record) : Record := { r with state := .archived }

/-- The record with one more run without its file. -/
def counted (r : Record) : Record := { r with missingRuns := r.missingRuns + 1 }

/-- The record with its counter reset. -/
def cleared (r : Record) : Record := { r with missingRuns := 0 }

@[simp] theorem movedTo_path (r : Record) (path : String) : (r.movedTo path).path = path := rfl
@[simp] theorem shelved_path (r : Record) : r.shelved.path = r.path := rfl
@[simp] theorem shelved_hash (r : Record) : r.shelved.hash = r.hash := rfl
@[simp] theorem counted_path (r : Record) : r.counted.path = r.path := rfl
@[simp] theorem counted_hash (r : Record) : r.counted.hash = r.hash := rfl
@[simp] theorem cleared_path (r : Record) : r.cleared.path = r.path := rfl
@[simp] theorem cleared_hash (r : Record) : r.cleared.hash = r.hash := rfl

end Record

/-- What a plan looks at in the record of a path: the content and the state. -/
def Record.stamp (r : Record) : String × RecordState := (r.hash, r.state)

namespace Ledger

/-! ## Views of record lists -/

/-- What a ledger holds under each path. -/
abbrev View := String → Option Record

/-- The view of a list of records. -/
def viewOf (records : List Record) : View := fun path => records.find? fun r => r.path = path

/-- The stamp of the record of a path. -/
def stampAt (v : View) (path : String) : Option (String × RecordState) :=
  (v path).map Record.stamp

/-- A stamp is the content and the state of the record under that path. -/
theorem stampAt_eq_some_iff {v : View} {path hash : String} {state : RecordState} :
    stampAt v path = some (hash, state)
      ↔ ∃ r, v path = some r ∧ r.hash = hash ∧ r.state = state := by
  simp [stampAt, Record.stamp]

theorem stampAt_eq_none_iff {v : View} {path : String} :
    stampAt v path = none ↔ v path = none := by
  simp [stampAt]

/-- What keeps the stamp of one record keeps all stamps. -/
theorem stampAt_update_map {f : Record → Record} (hf : ∀ r, (f r).stamp = r.stamp) (v : View)
    (path p : String) :
    stampAt (Function.update v path ((v path).map f)) p = stampAt v p := by
  by_cases hp : p = path
  · rw [stampAt, stampAt, hp, Function.update_self, Option.map_map]
    exact congrArg (fun g => (v path).map g) (funext hf)
  · rw [stampAt, stampAt, Function.update_of_ne hp]

/-- A record stands under its own path. -/
theorem path_of_viewOf {records : List Record} {path : String} {r : Record}
    (h : viewOf records path = some r) : r.path = path := by
  have := List.find?_some h
  simpa using this

theorem mem_of_viewOf {records : List Record} {path : String} {r : Record}
    (h : viewOf records path = some r) : r ∈ records :=
  List.mem_of_find?_eq_some h

theorem viewOf_eq_none_iff {records : List Record} {path : String} :
    viewOf records path = none ↔ ∀ r ∈ records, r.path ≠ path := by
  simp [viewOf]

/-- Where no path repeats, the view holds every record of the list. -/
theorem viewOf_of_mem {records : List Record} (hn : (records.map Record.path).Nodup)
    {r : Record} (h : r ∈ records) : viewOf records r.path = some r := by
  induction records with
  | nil => exact nomatch h
  | cons a rest ih =>
      obtain ⟨ha, hrest⟩ := List.nodup_cons.mp hn
      rw [viewOf, List.find?_cons]
      rcases List.mem_cons.mp h with heq | hmem
      · rw [heq]; simp
      · have hne : a.path ≠ r.path := fun heq => ha (heq ▸ List.mem_map_of_mem hmem)
        rw [decide_eq_false hne]
        exact ih hrest hmem

/-- Where no two records share a path, the records are what is seen of them. -/
theorem mem_iff_viewOf {records : List Record} (hn : (records.map Record.path).Nodup)
    {r : Record} : r ∈ records ↔ viewOf records r.path = some r :=
  ⟨viewOf_of_mem hn, mem_of_viewOf⟩

/-- Reading records does not move them. -/
theorem viewOf_asRead (records : List Record) (path : String) :
    viewOf (records.map Record.asRead) path = (viewOf records path).map Record.asRead := by
  rw [viewOf, List.find?_map]
  rfl

/-! ## Changes -/

/-- The paths whose records a change is about. -/
def Change.paths : Change → List String
  | .record path _ _ => [path]
  | .archive path => [path]
  | .remove path => [path]
  | .rename old new => [old, new]
  | .rehash path _ => [path]
  | .markMissing path => [path]
  | .clearMissing path => [path]

/-- What a ledger holds after a change that is made at a time.  A change of a
    path without a record does nothing, except that recording adds one. -/
def Change.onto (time : Timestamp) : Change → View → View
  | .record path hash speed, v =>
      Function.update v path (some ⟨path, hash, time, speed, .active, 0⟩)
  | .archive path, v => Function.update v path ((v path).map Record.shelved)
  | .remove path, v => Function.update v path none
  | .rename old new, v =>
      match v old with
      | none => v
      | some r => Function.update (Function.update v old none) new (some (r.movedTo new))
  | .rehash path hash, v => Function.update v path ((v path).map fun r => { r with hash })
  | .markMissing path, v => Function.update v path ((v path).map Record.counted)
  | .clearMissing path, v => Function.update v path ((v path).map Record.cleared)

section

variable (time : Timestamp) (v : View) (path hash : String)

/-- A recorded script is active, and its counter starts at zero. -/
@[simp] theorem Change.onto_record_self (speed : Nat) :
    (record path hash speed).onto time v path = some ⟨path, hash, time, speed, .active, 0⟩ :=
  Function.update_self ..

@[simp] theorem Change.onto_archive_self :
    (archive path).onto time v path = (v path).map Record.shelved := Function.update_self ..

@[simp] theorem Change.onto_remove_self : (remove path).onto time v path = none :=
  Function.update_self ..

@[simp] theorem Change.onto_rehash_self :
    (rehash path hash).onto time v path = (v path).map fun r => { r with hash } :=
  Function.update_self ..

@[simp] theorem Change.onto_markMissing_self :
    (markMissing path).onto time v path = (v path).map Record.counted := Function.update_self ..

@[simp] theorem Change.onto_clearMissing_self :
    (clearMissing path).onto time v path = (v path).map Record.cleared := Function.update_self ..

end

/-- Renaming nothing does nothing. -/
theorem Change.onto_rename_of_none {v : View} {old new : String} (h : v old = none)
    (time : Timestamp) : (rename old new).onto time v = v := by
  simp only [onto, h]

/-- Renaming takes the record away from the old path and puts it under the new one. -/
theorem Change.onto_rename_of_some {v : View} {old new : String} {r : Record}
    (h : v old = some r) (time : Timestamp) :
    (rename old new).onto time v
      = Function.update (Function.update v old none) new (some (r.movedTo new)) := by
  simp only [onto, h]

/-- A change leaves the records of all other paths alone. -/
theorem Change.onto_of_notMem {c : Change} {path : String} (h : path ∉ c.paths)
    (time : Timestamp) (v : View) : c.onto time v path = v path := by
  cases c with
  | rename old new =>
      obtain ⟨hold, hnew⟩ : path ≠ old ∧ path ≠ new := by simpa [paths] using h
      cases hv : v old with
      | none => rw [onto_rename_of_none hv]
      | some r =>
          rw [onto_rename_of_some hv, Function.update_of_ne hnew, Function.update_of_ne hold]
  | _ => exact Function.update_of_ne (by simpa [paths] using h) _ _

/-- A change leaves the stamps of all paths alone that it does not name. -/
theorem Change.stampAt_onto_of_notMem {c : Change} {path : String} (h : path ∉ c.paths)
    (time : Timestamp) (v : View) : stampAt (c.onto time v) path = stampAt v path :=
  congrArg (Option.map Record.stamp) (onto_of_notMem h time v)

/-- What a change makes of its own paths depends only on what was there. -/
theorem Change.onto_congr {c : Change} {v w : View} (h : ∀ p ∈ c.paths, v p = w p)
    (time : Timestamp) : ∀ p ∈ c.paths, c.onto time v p = c.onto time w p := by
  intro p hp
  cases c with
  | rename old new =>
      have hold : v old = w old := h old (by simp [paths])
      cases hv : w old with
      | none =>
          rw [onto_rename_of_none hv, onto_rename_of_none (hold.trans hv)]
          exact h p hp
      | some r =>
          rw [onto_rename_of_some hv, onto_rename_of_some (hold.trans hv)]
          -- The new path may be the old one, and is looked at first.
          by_cases hnew : p = new
          · rw [hnew, Function.update_self, Function.update_self]
          · have heq : p = old := by simpa [paths, hnew] using hp
            rw [Function.update_of_ne hnew, Function.update_of_ne hnew, heq,
              Function.update_self, Function.update_self]
  | _ =>
      obtain rfl := List.mem_singleton.mp hp
      have hself := h p (List.mem_singleton_self p)
      simp only [onto, Function.update_self, hself]

/-- The content that a change attaches to a record. -/
def Change.brings : Change → Option String
  | .record _ hash _ => some hash
  | .rehash _ hash => some hash
  | _ => none

/-- What keeps the contents of records passes on a content that was there. -/
theorem hash_of_map {v : View} {path : String} {f : Record → Record}
    (hf : ∀ r, (f r).hash = r.hash) {r : Record} (h : (v path).map f = some r) :
    ∃ q₀ r₀, v q₀ = some r₀ ∧ r₀.hash = r.hash := by
  obtain ⟨r₀, hr₀, rfl⟩ := Option.map_eq_some_iff.mp h
  exact ⟨path, r₀, hr₀, (hf r₀).symm⟩

/-- A content in the ledger was there before a change or is attached by it. -/
theorem Change.hash_onto {c : Change} {time : Timestamp} {v : View} {q : String} {r : Record}
    (h : c.onto time v q = some r) :
    c.brings = some r.hash ∨ ∃ q₀ r₀, v q₀ = some r₀ ∧ r₀.hash = r.hash := by
  by_cases hq : q ∈ c.paths
  · -- Recording and rehashing attach a content; the others pass on the one they find.
    cases c with
    | record path hash speed =>
        rw [List.mem_singleton.mp hq, onto_record_self] at h
        exact Or.inl (Option.some.inj h ▸ rfl)
    | rehash path hash =>
        rw [List.mem_singleton.mp hq, onto_rehash_self] at h
        obtain ⟨r₀, -, rfl⟩ := Option.map_eq_some_iff.mp h
        exact Or.inl rfl
    | remove path =>
        rw [List.mem_singleton.mp hq, onto_remove_self] at h
        exact nomatch h
    | rename old new =>
        cases hold : v old with
        | none =>
            rw [onto_rename_of_none hold] at h
            exact Or.inr ⟨q, r, h, rfl⟩
        | some r₀ =>
            rw [onto_rename_of_some hold] at h
            by_cases hnew : q = new
            · rw [hnew, Function.update_self] at h
              exact Or.inr ⟨old, r₀, hold, Option.some.inj h ▸ rfl⟩
            · have heq : q = old := by simpa [paths, hnew] using hq
              rw [Function.update_of_ne hnew, heq, Function.update_self] at h
              exact nomatch h
    | archive path =>
        rw [List.mem_singleton.mp hq, onto_archive_self] at h
        exact Or.inr (hash_of_map Record.shelved_hash h)
    | markMissing path =>
        rw [List.mem_singleton.mp hq, onto_markMissing_self] at h
        exact Or.inr (hash_of_map Record.counted_hash h)
    | clearMissing path =>
        rw [List.mem_singleton.mp hq, onto_clearMissing_self] at h
        exact Or.inr (hash_of_map Record.cleared_hash h)
  · rw [onto_of_notMem hq] at h
    exact Or.inr ⟨q, r, h, rfl⟩

/-! ## Sequences of changes -/

/-- `w` is what a sequence of changes, each at some time, turns `v` into. -/
inductive Made : List Change → View → View → Prop where
  | nil (v : View) : Made [] v v
  | cons {c : Change} {cs : List Change} {v w : View} (time : Timestamp)
      (rest : Made cs (c.onto time v) w) : Made (c :: cs) v w

/-- Changes that are made one after the other are made together. -/
theorem Made.append {cs ds : List Change} {u v w : View} (h₁ : Made cs u v)
    (h₂ : Made ds v w) : Made (cs ++ ds) u w := by
  induction h₁ with
  | nil v => exact h₂
  | cons time _ ih => exact .cons time (ih h₂)

/-- A path that no change is about keeps its record. -/
theorem Made.untouched {cs : List Change} {v w : View} (h : Made cs v w) {path : String}
    (hp : ∀ c ∈ cs, path ∉ c.paths) : w path = v path := by
  induction h with
  | nil v => rfl
  | @cons c cs v w time _ ih =>
      rw [ih fun d hd => hp d (List.mem_cons_of_mem _ hd)]
      exact Change.onto_of_notMem (hp c List.mem_cons_self) time v

/-- Where every path is the concern of one change only, each change has the
    effect that it would have alone. -/
theorem Made.touched {cs : List Change} {v w : View} (h : Made cs v w)
    (hn : (cs.flatMap Change.paths).Nodup) {c : Change} (hc : c ∈ cs) :
    ∃ time, ∀ p ∈ c.paths, w p = c.onto time v p := by
  induction h with
  | nil v => exact nomatch hc
  | @cons d cs v w time rest ih =>
      rw [List.flatMap_cons, List.nodup_append'] at hn
      obtain ⟨-, hcs, hdisj⟩ := hn
      rcases List.mem_cons.mp hc with heq | hmem
      · -- Later changes are about other paths.
        subst heq
        refine ⟨time, fun p hp => ?_⟩
        refine rest.untouched fun e he hpe => hdisj hp ?_
        exact List.mem_flatMap.mpr ⟨e, he, hpe⟩
      · -- The change before is about other paths, so it shows the same records to `c`.
        obtain ⟨t, ht⟩ := ih hcs hmem
        refine ⟨t, fun p hp => ?_⟩
        rw [ht p hp]
        refine Change.onto_congr (fun q hq => ?_) t p hp
        refine Change.onto_of_notMem (fun hqd => hdisj hqd ?_) time v
        exact List.mem_flatMap.mpr ⟨c, hmem, hq⟩

end Ledger

end SchemaMigration
