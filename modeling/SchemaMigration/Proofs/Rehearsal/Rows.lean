import SchemaMigration.Proofs.Ledger.Operations
import SchemaMigration.Proofs.Rehearsal.Statements
import SchemaMigration.Proofs.Update.Capacity

/-! # Rows — the ledger table of the rehearsal store

    The store keeps its rows in ascending order of their names and runs a statement
    by putting rows in their places and taking rows away.  Seen as records, that is
    what a change is meant to do, as long as the numbers in the rows can be read:

    * `insertRecord_sorted`, `rowAt_insertRecord`: putting a row in its place;
    * `run_keeping`, `run_moving`: a statement that changes one row;
    * `run_ofChange`: what the statement of a change does to the records. -/

namespace SchemaMigration.Rehearsal

open Ledger Update

variable {r : StoredRecord} {rows after : List StoredRecord} {name : String}

/-! ## Rows as records -/

namespace StoredRecord

/-- The record that is read from a row. -/
def record (r : StoredRecord) : Record where
  path := r.name
  hash := r.hash
  appliedAt := (Timestamp.read? r.appliedAt).getD .epoch
  speed := (Text.unsigned? 64 r.speed).getD 0
  state := (RecordState.ofColumn? r.state).getD .active
  missingRuns := (Text.unsigned? 32 r.missingRuns).getD 0

/-- The numbers in the row can be read. -/
def Valid (r : StoredRecord) : Prop :=
  (Text.unsigned? 32 r.missingRuns).isSome = true ∧ (Text.unsigned? 64 r.speed).isSome = true

instance (r : StoredRecord) : Decidable r.Valid := inferInstanceAs (Decidable (_ ∧ _))

/-- The columns of a row are read as its record, whatever they hold. -/
theorem ofRow_columns (r : StoredRecord) : (ofRow r.columns).map Prod.fst = some r.record := by
  rw [columns, ofRow]
  show some _ = some _
  rw [record]
  cases hstate : RecordState.ofColumn? r.state with
  | none => simp [hstate]
  | some state => simp [hstate]

end StoredRecord

/-- All columns of all rows are read as the records. -/
theorem readRows_columns (rows : List StoredRecord) :
    readRows (rows.map StoredRecord.columns) = rows.map StoredRecord.record := by
  rw [readRows, List.filterMap_map, ← List.filterMap_eq_map]
  exact List.filterMap_congr fun r _ => r.ofRow_columns

/-- The row of each name. -/
def rowAt (rows : List StoredRecord) (name : String) : Option StoredRecord :=
  rows.find? fun r => r.name = name

theorem rowAt_cons (r : StoredRecord) (rows : List StoredRecord) (name : String) :
    rowAt (r :: rows) name = if r.name = name then some r else rowAt rows name := by
  rw [rowAt, List.find?_cons]
  by_cases h : r.name = name
  · rw [if_pos h, decide_eq_true h]
  · rw [if_neg h, decide_eq_false h]
    rfl

theorem name_of_rowAt (h : rowAt rows name = some r) : r.name = name := by
  simpa using List.find?_some h

theorem mem_of_rowAt (h : rowAt rows name = some r) : r ∈ rows := List.mem_of_find?_eq_some h

theorem rowAt_eq_none_iff : rowAt rows name = none ↔ ∀ r ∈ rows, r.name ≠ name := by
  simp [rowAt]

/-- The records that the table holds under each path. -/
def seen (rows : List StoredRecord) : View := viewOf (rows.map StoredRecord.record)

/-- What is seen are the rows as records. -/
theorem seen_eq_comp (rows : List StoredRecord) :
    seen rows = Option.map StoredRecord.record ∘ rowAt rows :=
  funext fun _ => List.find?_map ..

theorem seen_of_rowAt (h : rowAt rows name = some r) : seen rows name = some r.record := by
  rw [seen_eq_comp, Function.comp_apply, h, Option.map_some]

theorem seen_of_rowAt_none (h : rowAt rows name = none) : seen rows name = none := by
  rw [seen_eq_comp, Function.comp_apply, h, Option.map_none]

theorem isSome_seen (rows : List StoredRecord) (name : String) :
    (seen rows name).isSome = (rowAt rows name).isSome := by
  rw [seen_eq_comp, Function.comp_apply, Option.isSome_map]

/-! ## Rows in order -/

/-- The rows stand in ascending order of different names. -/
def Sorted (rows : List StoredRecord) : Prop := rows.Pairwise fun r s => r.name < s.name

instance (rows : List StoredRecord) : Decidable (Sorted rows) :=
  inferInstanceAs (Decidable (List.Pairwise _ _))

/-- Rows in strictly ascending order have pairwise different names. -/
theorem Sorted.nodup (h : Sorted rows) :
    ((rows.map StoredRecord.record).map Record.path).Nodup := by
  rw [List.map_map, List.Nodup, List.pairwise_map]
  refine h.imp fun {r s} hlt heq => ?_
  change r.name = s.name at heq
  rw [heq] at hlt
  exact String.lt_irrefl _ hlt

/-- In order, a row is there exactly if it is the one of its name. -/
theorem Sorted.mem_iff (h : Sorted rows) : r ∈ rows ↔ rowAt rows r.name = some r := by
  refine ⟨fun hr => ?_, mem_of_rowAt⟩
  induction rows with
  | nil => exact nomatch hr
  | cons other rest ih =>
      obtain ⟨hother, hrest⟩ := List.pairwise_cons.mp h
      rw [rowAt_cons]
      rcases List.mem_cons.mp hr with rfl | hr
      · exact if_pos rfl
      · have hne : other.name ≠ r.name := fun heq =>
          String.lt_irrefl _ (heq ▸ hother r hr : r.name < r.name)
        rw [if_neg hne]
        exact ih hrest hr

/-- Inserting a row brings no other row with it. -/
theorem mem_insertRecord {s : StoredRecord} (h : s ∈ insertRecord r rows) : s = r ∨ s ∈ rows := by
  induction rows with
  | nil => exact Or.inl (List.mem_singleton.mp h)
  | cons other rest ih =>
      rw [insertRecord] at h
      by_cases heq : r.name = other.name
      · rw [if_pos heq] at h
        exact (List.mem_cons.mp h).imp_right (List.mem_cons_of_mem _)
      · rw [if_neg heq] at h
        by_cases hle : r.name ≤ other.name
        · rw [if_pos hle] at h
          exact List.mem_cons.mp h
        · rw [if_neg hle] at h
          rcases List.mem_cons.mp h with rfl | hrest
          · exact Or.inr List.mem_cons_self
          · exact (ih hrest).imp_right (List.mem_cons_of_mem _)

/-- A row that is put in its place is the one of its name. -/
theorem rowAt_insertRecord (r : StoredRecord) (rows : List StoredRecord) :
    rowAt (insertRecord r rows) = Function.update (rowAt rows) r.name (some r) := by
  -- The row goes over the one of its name, in front of the first later one, or further on.
  induction rows with
  | nil =>
      funext name
      rw [insertRecord, rowAt_cons, Function.update_apply]
      exact if_congr eq_comm rfl rfl
  | cons other rest ih =>
      funext name
      rw [insertRecord, Function.update_apply]
      by_cases heq : r.name = other.name
      · rw [if_pos heq, rowAt_cons, rowAt_cons, ← heq]
        by_cases hname : name = r.name
        · rw [if_pos hname, if_pos hname.symm]
        · rw [if_neg hname, if_neg (Ne.symm hname), if_neg (Ne.symm hname)]
      · rw [if_neg heq]
        by_cases hle : r.name ≤ other.name
        · rw [if_pos hle, rowAt_cons]
          exact if_congr eq_comm rfl rfl
        · rw [if_neg hle, rowAt_cons, ih, Function.update_apply, rowAt_cons]
          by_cases hname : name = r.name
          · rw [if_pos hname, if_pos hname, if_neg fun h => heq (hname.symm.trans h.symm)]
          · rw [if_neg hname, if_neg hname]

theorem mem_insertRecord_self (r : StoredRecord) (rows : List StoredRecord) :
    r ∈ insertRecord r rows :=
  mem_of_rowAt ((congrFun (rowAt_insertRecord r rows) r.name).trans (Function.update_self ..))

/-- Inserting a row shows its record under its name and leaves the others as they were. -/
theorem seen_insertRecord (r : StoredRecord) (rows : List StoredRecord) :
    seen (insertRecord r rows) = Function.update (seen rows) r.name (some r.record) := by
  rw [seen_eq_comp, rowAt_insertRecord, Function.comp_update, ← seen_eq_comp, Option.map_some]

/-- Inserting keeps the order. -/
theorem insertRecord_sorted (h : Sorted rows) (r : StoredRecord) :
    Sorted (insertRecord r rows) := by
  induction rows with
  | nil => exact List.pairwise_singleton _ _
  | cons other rest ih =>
      obtain ⟨hother, hrest⟩ := List.pairwise_cons.mp h
      rw [insertRecord]
      -- The row replaces one of its name, goes in front of the first greater one, or further
      -- behind.
      by_cases heq : r.name = other.name
      · rw [if_pos heq]
        exact List.pairwise_cons.mpr ⟨fun s hs => heq ▸ hother s hs, hrest⟩
      · rw [if_neg heq]
        by_cases hle : r.name ≤ other.name
        · rw [if_pos hle]
          have hlt : r.name < other.name := by
            by_contra hnot
            exact heq (String.le_antisymm hle (String.not_lt.mp hnot))
          refine List.pairwise_cons.mpr ⟨fun s hs => ?_, h⟩
          rcases List.mem_cons.mp hs with rfl | hs
          · exact hlt
          · exact String.lt_trans hlt (hother s hs)
        · rw [if_neg hle]
          refine List.pairwise_cons.mpr ⟨fun s hs => ?_, ih hrest⟩
          rcases mem_insertRecord hs with rfl | hs
          · exact String.not_le.mp hle
          · exact hother s hs

/-- Erasing a name takes away its row and no other. -/
theorem rowAt_eraseRecord (name : String) (rows : List StoredRecord) :
    rowAt (eraseRecord name rows) = Function.update (rowAt rows) name none := by
  funext other
  rw [rowAt, eraseRecord, List.find?_filter, Function.update_apply]
  by_cases hother : other = name
  · subst hother
    rw [if_pos rfl]
    simp
  · rw [if_neg hother, rowAt]
    congr 1
    funext r
    by_cases h : r.name = other
    · simp [h, hother]
    · simp [h]

/-- Erasing a name leaves nothing to be seen of it, and the others as they were. -/
theorem seen_eraseRecord (name : String) (rows : List StoredRecord) :
    seen (eraseRecord name rows) = Function.update (seen rows) name none := by
  rw [seen_eq_comp, rowAt_eraseRecord, Function.comp_update, ← seen_eq_comp, Option.map_none]

/-- Where no row has a name, taking that row away does nothing. -/
theorem eraseRecord_of_none (h : rowAt rows name = none) : eraseRecord name rows = rows :=
  List.filter_eq_self.mpr fun r hr => decide_eq_true (rowAt_eq_none_iff.mp h r hr)

theorem eraseRecord_sorted (h : Sorted rows) (name : String) : Sorted (eraseRecord name rows) :=
  h.filter _

theorem mem_of_mem_eraseRecord {s : StoredRecord} (h : s ∈ eraseRecord name rows) : s ∈ rows :=
  List.mem_of_mem_filter h

/-! ## Counters -/

/-- A counter that can be read is the number that the store counts from. -/
theorem counterValue_of_unsigned? {text : String} {n : Nat}
    (h : Text.unsigned? 32 text = some n) : counterValue text = n := by
  rw [Text.unsigned?, Option.filter_eq_some_iff] at h
  obtain ⟨hdigits, hfits⟩ := h
  have hsmall : n < 2 ^ 32 := of_decide_eq_true hfits
  have hsigned : Text.fitsSigned 64 (n : Int) = true := by
    rw [Text.fitsSigned, decide_eq_true_iff]
    show -((2 ^ 63 : Nat) : Int) ≤ n ∧ (n : Int) < (2 ^ 63 : Nat)
    omega
  rw [counterValue]
  split
  next rest heq =>
    -- No number starts with a minus sign.
    rw [heq] at hdigits
    cases hdigits
  next rest heq =>
    rw [heq] at hdigits
    change Text.digits? rest = some n at hdigits
    rw [hdigits]
    show ((some (n : Int)).filter (Text.fitsSigned 64)).getD 0 = n
    rw [Option.filter_some, if_pos hsigned, Option.getD_some]
  next hminus hplus =>
    split at hdigits
    next rest heq => exact absurd heq (hplus rest)
    next =>
      rw [hdigits]
      show ((some (n : Int)).filter (Text.fitsSigned 64)).getD 0 = n
      rw [Option.filter_some, if_pos hsigned, Option.getD_some]

/-- A counter that is read from a row has been read already. -/
theorem readCounter_record (r : StoredRecord) :
    readCounter r.record.missingRuns = r.record.missingRuns := by
  refine readCounter_of_lt ?_
  show (Text.unsigned? 32 r.missingRuns).getD 0 < 2 ^ 32
  cases h : Text.unsigned? 32 r.missingRuns with
  | none => exact Nat.two_pow_pos 32
  | some n =>
      rw [Text.unsigned?, Option.filter_eq_some_iff] at h
      exact of_decide_eq_true h.2

/-- Reading a record that was read from a row changes nothing. -/
theorem asRead_record (r : StoredRecord) : r.record.asRead = r.record := by
  rw [Record.asRead, readCounter_record]

/-- The counter that is selected for a path is the one of its record. -/
theorem counterOfRows_selected (rows : List StoredRecord) (path : String) :
    counterOfRows ((rows.filter fun r => r.name = path).map fun r => [r.missingRuns])
      = counterAt (seen rows) path := by
  rw [counterOfRows, List.head?_map, List.head?_filter, counterAt, seen_eq_comp]
  change ((((rowAt rows path).map _).bind _).bind _).getD 0 = _
  rw [Function.comp_apply]
  cases rowAt rows path with
  | none => rfl
  | some r => exact (readCounter_record r).symm

theorem unsigned?_zero : Text.unsigned? 32 "0" = some 0 :=
  (Text.unsigned?_toString 32 0).trans (if_pos (Nat.two_pow_pos 32))

/-- A row with its counter reset. -/
def StoredRecord.reset (r : StoredRecord) : StoredRecord := { r with missingRuns := "0" }

theorem StoredRecord.Valid.reset (h : r.Valid) : r.reset.Valid :=
  ⟨Option.isSome_of_eq_some unsigned?_zero, h.2⟩

/-- A reset counter is seen as a cleared one. -/
theorem record_reset (r : StoredRecord) : r.reset.record = r.record.cleared := by
  show StoredRecord.record { r with missingRuns := "0" } = _
  rw [StoredRecord.record, unsigned?_zero]
  rfl

/-- A row with one more run without its file. -/
def StoredRecord.counted (r : StoredRecord) : StoredRecord :=
  { r with missingRuns := toString (counterValue r.missingRuns + 1) }

/-- A counter grows by one, if its column has room. -/
theorem unsigned?_counted {n : Nat} (h : Text.unsigned? 32 r.missingRuns = some n) :
    Text.unsigned? 32 r.counted.missingRuns = if n + 1 < 2 ^ 32 then some (n + 1) else none := by
  show Text.unsigned? 32 (toString (counterValue r.missingRuns + 1)) = _
  rw [counterValue_of_unsigned? h]
  exact Text.unsigned?_toString 32 (n + 1)

/-! ## Statements that change one row -/

/-- The row after assignments. -/
def assigned (changes : List Assignment) (r : StoredRecord) : StoredRecord :=
  changes.foldl Assignment.apply r

/-- A change of a row that is there: the row is taken away and put in its new place, unless
    another row has its new name. -/
theorem run_update_of_some {changes : List Assignment}
    (h : rowAt rows name = some r) :
    (LedgerStatement.update changes name).run rows
      = if (eraseRecord name rows).any fun o => o.name = (assigned changes r).name then
          .error s!"Constraint Error: Duplicate key \"name: {(assigned changes r).name}\""
        else .ok (insertRecord (assigned changes r) (eraseRecord name rows), []) := by
  rw [LedgerStatement.run, show rows.find? (fun r => r.name = name) = some r from h]
  rfl

theorem run_update_of_none {changes : List Assignment}
    (h : rowAt rows name = none) :
    (LedgerStatement.update changes name).run rows = .ok (rows, []) := by
  rw [LedgerStatement.run, show rows.find? (fun r => r.name = name) = none from h]

/-- A change that keeps names is made where the row is, if it is there. -/
theorem run_keeping (hrows : Sorted rows) (name : String) {changes : List Assignment}
    (hname : ∀ r, (assigned changes r).name = r.name) :
    ∃ after, (LedgerStatement.update changes name).run rows = .ok (after, [])
      ∧ Sorted after
      ∧ rowAt after = Function.update (rowAt rows) name ((rowAt rows name).map (assigned changes))
      ∧ (rowAt rows name = none → after = rows) := by
  cases hrow : rowAt rows name with
  | none =>
      refine ⟨rows, run_update_of_none hrow, hrows, ?_, fun _ => rfl⟩
      rw [Option.map_none, ← hrow, Function.update_eq_self]
  | some r =>
      have hr := name_of_rowAt hrow
      -- The row keeps its name, which is free since the row was taken away.
      have hfree : ¬((eraseRecord name rows).any fun o => o.name = (assigned changes r).name)
          = true := by
        rw [hname, hr]
        simp [eraseRecord]
      refine ⟨_, (run_update_of_some hrow).trans (if_neg hfree),
        insertRecord_sorted (eraseRecord_sorted hrows name) _, ?_, nofun⟩
      rw [rowAt_insertRecord, rowAt_eraseRecord, hname, hr, Function.update_idem, Option.map_some]

/-- A row under another name, with its counter reset. -/
def StoredRecord.moved (name : String) (r : StoredRecord) : StoredRecord :=
  { r.reset with name }

/-- A name is still there without the row of another one, unless they are the same. -/
theorem any_eraseRecord (old new : String) (rows : List StoredRecord) :
    ((eraseRecord old rows).any fun o => o.name = new) = true
      ↔ old ≠ new ∧ (rowAt rows new).isSome = true := by
  rw [← List.isSome_find?]
  change (rowAt (eraseRecord old rows) new).isSome = true ↔ _
  rw [rowAt_eraseRecord]
  by_cases h : new = old
  · rw [h, Function.update_self]
    exact ⟨nofun, fun hne => absurd rfl hne.1⟩
  · rw [Function.update_of_ne h]
    exact (and_iff_right (Ne.symm h)).symm

/-- A row that is there gets another name, unless another row has it. -/
theorem run_moving (time : Timestamp) {old : String} (new : String) (h : rowAt rows old = some r) :
    (LedgerStatement.ofChange time (.rename old new)).run rows
      = if old ≠ new ∧ (rowAt rows new).isSome = true then
          .error s!"Constraint Error: Duplicate key \"name: {new}\""
        else .ok (insertRecord (r.moved new) (eraseRecord old rows), []) :=
  (run_update_of_some h).trans (if_congr (any_eraseRecord old new rows) rfl rfl)

theorem rowAt_moved (old new : String) (r : StoredRecord) (rows : List StoredRecord) :
    rowAt (insertRecord (r.moved new) (eraseRecord old rows))
      = Function.update (Function.update (rowAt rows) old none) new (some (r.moved new)) := by
  rw [rowAt_insertRecord, rowAt_eraseRecord]
  rfl

theorem moved_sorted (h : Sorted rows) (old new : String) (r : StoredRecord) :
    Sorted (insertRecord (r.moved new) (eraseRecord old rows)) :=
  insertRecord_sorted (eraseRecord_sorted h old) _

/-- The time that is read from a row that was recorded at a time. -/
def recordedTime (time : Timestamp) : Timestamp :=
  (Timestamp.read? time.renderSeconds).getD .epoch

/-- The table after a change that was made: its rows are in order, its numbers can be read
    if the change fits, and then its records are what the change makes of them. -/
structure Does (time : Timestamp) (c : Change) (rows after : List StoredRecord) : Prop where
  sorted : Sorted after
  valid : (∀ r ∈ rows, r.Valid) → Fits (seen rows) c → ∀ r ∈ after, r.Valid
  effect : (∀ r ∈ rows, r.Valid) → (∀ r ∈ after, r.Valid) →
    seen after = c.onto (recordedTime time) (seen rows)

/-- A change of what stands under one name. -/
theorem run_inPlace (hrows : Sorted rows) {changes : List Assignment} {path : String} {c : Change}
    {g : Record → Record} {time : Timestamp}
    (hname : ∀ r, (assigned changes r).name = r.name)
    (honto : ∀ v, c.onto (recordedTime time) v = Function.update v path ((v path).map g))
    (hvalid : ∀ r, r.Valid → seen rows path = some r.record → Fits (seen rows) c →
      (assigned changes r).Valid)
    (heffect : ∀ r, r.Valid → (assigned changes r).Valid →
      (assigned changes r).record = g r.record) :
    ∃ after, (LedgerStatement.update changes path).run rows = .ok (after, [])
      ∧ Does time c rows after := by
  obtain ⟨after, hrun, hsorted, hafter, hnone⟩ := run_keeping hrows path hname
  refine ⟨after, hrun, hsorted, ?_, ?_⟩
  · intro hall hfits s hs
    rw [hsorted.mem_iff, hafter] at hs
    by_cases hpath : s.name = path
    · rw [hpath, Function.update_self] at hs
      obtain ⟨r, hrow, rfl⟩ := Option.map_eq_some_iff.mp hs
      exact hvalid r (hall r (mem_of_rowAt hrow)) (seen_of_rowAt hrow) hfits
    · rw [Function.update_of_ne hpath] at hs
      exact hall s (mem_of_rowAt hs)
  · intro hall hvalidAfter
    rw [honto, seen_eq_comp, hafter, Function.comp_update, ← seen_eq_comp]
    congr 1
    -- Only the row of the path matters: without one both sides see nothing there.
    cases hrow : rowAt rows path with
    | none => rw [seen_of_rowAt_none hrow, Option.map_none, Option.map_none, Option.map_none]
    | some r =>
        have hmoved : rowAt after path = some (assigned changes r) := by
          rw [hafter, Function.update_self, hrow, Option.map_some]
        have hrecord := heffect r (hall r (mem_of_rowAt hrow))
          (hvalidAfter _ (mem_of_rowAt hmoved))
        rw [seen_of_rowAt hrow, Option.map_some, Option.map_some, Option.map_some, hrecord]

/-- Recording a script puts its row in place. -/
theorem run_record (hrows : Sorted rows) (time : Timestamp) (path hash : String) (speed : Nat) :
    ∃ after, (LedgerStatement.ofChange time (.record path hash speed)).run rows = .ok (after, [])
      ∧ Does time (.record path hash speed) rows after := by
  set new : StoredRecord := ⟨path, hash, "RELEASED", time.renderSeconds, toString speed, "0"⟩
  have hspeed : Text.unsigned? 64 new.speed = if speed < 2 ^ 64 then some speed else none :=
    Text.unsigned?_toString 64 speed
  refine ⟨insertRecord new rows, rfl, insertRecord_sorted hrows new, ?_, ?_⟩
  · intro hall hfits s hs
    rcases mem_insertRecord hs with rfl | hs
    · have hsmall : speed < 2 ^ 63 := hfits
      rw [StoredRecord.Valid, hspeed, if_pos (by omega), unsigned?_zero]
      exact ⟨rfl, rfl⟩
    · exact hall s hs
  · intro hall hafter
    have hfits := (hafter new (mem_insertRecord_self _ _)).2
    rw [hspeed] at hfits
    have hrecord : new.record = ⟨path, hash, recordedTime time, speed, .active, 0⟩ := by
      -- A speed that does not fit is ruled out by the rows that are left, not by those before.
      by_cases hsmall : speed < 2 ^ 64
      · rw [StoredRecord.record, hspeed, if_pos hsmall, unsigned?_zero]
        rfl
      · rw [if_neg hsmall] at hfits
        exact nomatch hfits
    rw [seen_insertRecord, hrecord]
    rfl

/-- Counting a run without the file moves the counter on, as long as it fits. -/
theorem run_markMissing (hrows : Sorted rows) (time : Timestamp) (path : String) :
    ∃ after, (LedgerStatement.ofChange time (.markMissing path)).run rows = .ok (after, [])
      ∧ Does time (.markMissing path) rows after := by
  refine run_inPlace (g := Record.counted) hrows (fun _ => rfl) (fun _ => rfl) ?_ ?_
  · rintro r ⟨hcounter, hspeed⟩ hseen hfits
    obtain ⟨n, hn⟩ := Option.isSome_iff_exists.mp hcounter
    have hsmall : r.record.missingRuns < 2 ^ 32 - 1 := hfits _ hseen
    rw [StoredRecord.record, hn] at hsmall
    change n < 2 ^ 32 - 1 at hsmall
    refine ⟨?_, hspeed⟩
    show (Text.unsigned? 32 r.counted.missingRuns).isSome = true
    rw [unsigned?_counted hn, if_pos (by omega), Option.isSome_some]
  · rintro r ⟨hcounter, -⟩ ⟨hfits, -⟩
    obtain ⟨n, hn⟩ := Option.isSome_iff_exists.mp hcounter
    change (Text.unsigned? 32 r.counted.missingRuns).isSome = true at hfits
    show r.counted.record = r.record.counted
    rw [unsigned?_counted hn] at hfits
    by_cases hsmall : n + 1 < 2 ^ 32
    · rw [StoredRecord.record, unsigned?_counted hn, if_pos hsmall, StoredRecord.record, hn]
      rfl
    · rw [if_neg hsmall] at hfits
      exact nomatch hfits

/-- Renaming is refused if another row has the new name. -/
theorem run_rename (hrows : Sorted rows) (time : Timestamp) (old new : String) :
    (∃ reason, (LedgerStatement.ofChange time (.rename old new)).run rows = .error reason
        ∧ Collides (seen rows) (.rename old new))
      ∨ ∃ after, (LedgerStatement.ofChange time (.rename old new)).run rows = .ok (after, [])
        ∧ Does time (.rename old new) rows after := by
  cases hrow : rowAt rows old with
  | none =>
      exact Or.inr ⟨rows, run_update_of_none hrow, hrows, fun h _ => h,
        fun _ _ => (Change.onto_rename_of_none (seen_of_rowAt_none hrow) _).symm⟩
  | some r =>
      have hseen := seen_of_rowAt hrow
      have hrun := run_moving time new hrow
      -- A row may be renamed to the name that it has; only another row stands in the way.
      by_cases hother : old ≠ new ∧ (rowAt rows new).isSome = true
      · rw [if_pos hother] at hrun
        exact Or.inl ⟨_, hrun, hother.1, Option.isSome_of_eq_some hseen,
          (isSome_seen rows new).trans hother.2⟩
      · rw [if_neg hother] at hrun
        refine Or.inr ⟨_, hrun, moved_sorted hrows old new r, ?_, ?_⟩
        · intro hall _ s hs
          rcases mem_insertRecord hs with rfl | hs
          · exact (hall r (mem_of_rowAt hrow)).reset
          · exact hall s (mem_of_mem_eraseRecord hs)
        · intro _ _
          have hmoved : (r.moved new).record = r.record.movedTo new := by
            show { r.reset.record with path := new } = _
            rw [record_reset]
            rfl
          rw [seen_eq_comp, rowAt_moved, Function.comp_update, Function.comp_update,
            ← seen_eq_comp, Option.map_none, Option.map_some, hmoved,
            Change.onto_rename_of_some hseen]

/-- A change of one path is made, unless it collides. -/
theorem run_ofChange (hrows : Sorted rows) (time : Timestamp) (c : Change) :
    (∃ reason, (LedgerStatement.ofChange time c).run rows = .error reason
        ∧ Collides (seen rows) c)
      ∨ ∃ after, (LedgerStatement.ofChange time c).run rows = .ok (after, [])
        ∧ Does time c rows after := by
  cases c with
  | record path hash speed => exact Or.inr (run_record hrows time path hash speed)
  | archive path =>
      exact Or.inr (run_inPlace (g := Record.shelved) hrows (fun _ => rfl) (fun _ => rfl)
        (fun _ hr _ _ => hr) fun _ _ _ => rfl)
  | remove path =>
      refine Or.inr ⟨_, rfl, eraseRecord_sorted hrows path, ?_, ?_⟩
      · exact fun hall _ r hr => hall r (mem_of_mem_eraseRecord hr)
      · exact fun _ _ => seen_eraseRecord path rows
  | rename old new => exact run_rename hrows time old new
  | rehash path hash =>
      exact Or.inr (run_inPlace (g := fun r => { r with hash := hash }) hrows (fun _ => rfl)
        (fun _ => rfl) (fun _ hr _ _ => hr) fun _ _ _ => rfl)
  | markMissing path => exact Or.inr (run_markMissing hrows time path)
  | clearMissing path =>
      refine Or.inr (run_inPlace (g := Record.cleared) hrows (fun _ => rfl) (fun _ => rfl) ?_ ?_)
      · exact fun r hr _ _ => hr.reset
      · exact fun r _ _ => record_reset r

end SchemaMigration.Rehearsal
