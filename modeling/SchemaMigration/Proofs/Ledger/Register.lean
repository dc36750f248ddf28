import SchemaMigration.Proofs.Ledger.View

/-! # Registers — a ledger as a finite map

    Apart from when and how fast its scripts were applied, a ledger is a map from
    paths to contents, states and counters.  A register is this map, with the
    operations of a ledger on it:

    * `Change.enter` and `Operation.enter` are what operations do to a register;
    * `Lists` says that a list of records is a register, in ascending order;
    * `enterAll_below`: no counter is higher than the number of operations. -/

namespace SchemaMigration

/-- What a ledger holds of a path, apart from when and how fast it was applied. -/
structure Holding where
  hash : String
  state : RecordState
  missingRuns : Nat
  deriving DecidableEq, Repr

/-- The holding of a record. -/
def Record.holding (r : Record) : Holding := ⟨r.hash, r.state, r.missingRuns⟩

namespace Ledger

/-- What is held under each path. -/
abbrev Register := String → Option Holding

/-- The register of an empty ledger. -/
def Register.empty : Register := fun _ => none

/-- The counter of a path; a path that holds nothing has none. -/
def Register.counter (held : Register) (path : String) : Nat :=
  (held path).elim 0 Holding.missingRuns

/-! ## Operations -/

/-- Whether a change would put a record onto the path of another one. -/
def Clashes (held : Register) : Change → Prop
  | .rename old new => old ≠ new ∧ (held old).isSome ∧ (held new).isSome
  | _ => False

instance (held : Register) : (c : Change) → Decidable (Clashes held c)
  | .rename old new =>
      inferInstanceAs (Decidable (old ≠ new ∧ (held old).isSome ∧ (held new).isSome))
  | .record _ _ _ => .isFalse id
  | .archive _ => .isFalse id
  | .remove _ => .isFalse id
  | .rehash _ _ => .isFalse id
  | .markMissing _ => .isFalse id
  | .clearMissing _ => .isFalse id

/-- What a change makes of a register.  A change of a path that holds nothing does nothing,
    except that recording adds a holding, and nor does one that clashes. -/
def Change.enter : Change → Register → Register
  | .record path hash _, held => Function.update held path (some ⟨hash, .active, 0⟩)
  | .archive path, held =>
      Function.update held path ((held path).map fun h => { h with state := .archived })
  | .remove path, held => Function.update held path none
  | .rename old new, held =>
      if Clashes held (.rename old new) then held
      else match held old with
        | none => held
        | some h =>
            Function.update (Function.update held old none) new (some { h with missingRuns := 0 })
  | .rehash path hash, held =>
      Function.update held path ((held path).map fun h => { h with hash })
  | .markMissing path, held =>
      Function.update held path ((held path).map fun h =>
        { h with missingRuns := h.missingRuns + 1 })
  | .clearMissing path, held =>
      Function.update held path ((held path).map fun h => { h with missingRuns := 0 })

/-- Whether a change is about a holding that is not there.  Recording needs none. -/
def Misses (held : Register) : Change → Prop
  | .record _ _ _ => False
  | .archive path => held path = none
  | .remove path => held path = none
  | .rename old _ => held old = none
  | .rehash path _ => held path = none
  | .markMissing path => held path = none
  | .clearMissing path => held path = none

/-- The change that an operation makes; listing makes none. -/
def Operation.made? : Operation → Option Change
  | .list => none
  | .change c => some c
  | .countMissing path => some (.markMissing path)

/-- The paths whose records an operation is about. -/
def Operation.paths (op : Operation) : List String := op.made?.elim [] Change.paths

/-- What an operation makes of a register. -/
def Operation.enter (op : Operation) (held : Register) : Register :=
  op.made?.elim held fun c => c.enter held

/-- What operations make of a register, one after another. -/
def enterAll (ops : List Operation) (held : Register) : Register :=
  ops.foldl (fun held op => op.enter held) held

theorem enterAll_cons (op : Operation) (ops : List Operation) (held : Register) :
    enterAll (op :: ops) held = enterAll ops (op.enter held) := rfl

variable {held : Register} {path old new : String}

/-- Renaming what is not there changes nothing. -/
theorem Change.enter_rename_of_none (h : held old = none) : (rename old new).enter held = held := by
  simp only [enter, h, ite_self]

/-- Renaming moves a holding and resets its counter. -/
theorem Change.enter_rename_of_some {h : Holding} (hold : held old = some h)
    (hfree : ¬Clashes held (.rename old new)) :
    (rename old new).enter held
      = Function.update (Function.update held old none) new (some { h with missingRuns := 0 }) := by
  simp only [enter, if_neg hfree, hold]

/-- A change that clashes changes nothing. -/
theorem Change.enter_of_clashes {c : Change} (h : Clashes held c) : c.enter held = held := by
  cases c with
  | rename old new => exact if_pos h
  | _ => exact h.elim

/-! ## Lists -/

/-- The records are exactly the holdings of a register, in ascending order of their paths. -/
structure Lists (found : List Record) (held : Register) : Prop where
  ascending : found.Pairwise fun r s => r.path < s.path
  exactly : ∀ path h, (∃ r ∈ found, r.path = path ∧ r.holding = h) ↔ held path = some h

/-! ## Counters -/

/-- All counters stay under a bound. -/
def Below (bound : Nat) (held : Register) : Prop :=
  ∀ path h, held path = some h → h.missingRuns < bound

variable {bound : Nat}

theorem Below.mono {larger : Nat} (h : Below bound held) (hle : bound ≤ larger) :
    Below larger held :=
  fun path k hk => Nat.lt_of_lt_of_le (h path k hk) hle

/-- Counters stay below a bound if the new one does. -/
theorem Below.update (h : Below bound held) {value : Option Holding}
    (hvalue : ∀ k, value = some k → k.missingRuns < bound) :
    Below bound (Function.update held path value) := by
  intro other k hk
  by_cases hother : other = path
  · rw [hother, Function.update_self] at hk
    exact hvalue k hk
  · rw [Function.update_of_ne hother] at hk
    exact h other k hk

/-- Counters stay below a bound if what is done to one of them keeps below it. -/
theorem Below.update_map (h : Below bound held) {f : Holding → Holding}
    (hf : ∀ k, k.missingRuns < bound → (f k).missingRuns < bound) :
    Below bound (Function.update held path ((held path).map f)) := by
  refine h.update fun k hk => ?_
  obtain ⟨k₀, hk₀, rfl⟩ := Option.map_eq_some_iff.mp hk
  exact hf k₀ (h path k₀ hk₀)

/-- A change raises no counter by more than one. -/
theorem Change.enter_below (c : Change) (h : Below bound held) :
    Below (bound + 1) (c.enter held) := by
  have hwide : Below (bound + 1) held := h.mono (Nat.le_succ bound)
  cases c with
  | record path hash speed =>
      exact hwide.update fun k hk => Option.some.inj hk ▸ Nat.succ_pos bound
  | archive path => exact hwide.update_map fun _ hk => hk
  | remove path => exact hwide.update nofun
  | rename old new =>
      by_cases hclash : Clashes held (.rename old new)
      · rw [enter_of_clashes hclash]
        exact hwide
      · cases hheld : held old with
        | none =>
            rw [enter_rename_of_none hheld]
            exact hwide
        | some k =>
            rw [enter_rename_of_some hheld hclash]
            have hgone : Below (bound + 1) (Function.update held old none) := hwide.update nofun
            exact hgone.update fun k hk => Option.some.inj hk ▸ Nat.succ_pos bound
  | rehash path hash => exact hwide.update_map fun _ hk => hk
  -- This is the only change that counts on, and by one.
  | markMissing path =>
      refine hwide.update fun k hk => ?_
      obtain ⟨k₀, hk₀, rfl⟩ := Option.map_eq_some_iff.mp hk
      exact Nat.succ_lt_succ (h path k₀ hk₀)
  | clearMissing path => exact hwide.update_map fun _ _ => Nat.succ_pos bound

/-- One operation moves no counter by more than one. -/
theorem Operation.enter_below (op : Operation) (h : Below bound held) :
    Below (bound + 1) (op.enter held) := by
  cases op with
  | list => exact h.mono (Nat.le_succ bound)
  | change c => exact c.enter_below h
  | countMissing path => exact (Change.markMissing path).enter_below h

/-- No counter exceeds the number of operations. -/
theorem enterAll_below (ops : List Operation) (h : Below bound held) :
    Below (bound + ops.length) (enterAll ops held) := by
  induction ops generalizing bound held with
  | nil => exact h
  | cons op rest ih =>
      rw [enterAll_cons, List.length_cons, Nat.add_comm rest.length, ← Nat.add_assoc]
      exact ih (op.enter_below h)

theorem below_empty : Below 0 Register.empty := by
  intro path k hk
  exact nomatch (show none = some k from hk)

end Ledger

end SchemaMigration
