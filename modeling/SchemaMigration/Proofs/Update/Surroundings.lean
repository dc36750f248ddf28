import SchemaMigration.Proofs.Ledger.View
import SchemaMigration.Proofs.Program.Trail
import SchemaMigration.Update.Run

/-! # Surroundings — what an update run may rely on

    An update run asks for files, for its ledger, for scripts to be run, for the
    time and for lines to be reported.  `Surroundings` answers all of this from a
    state, in any way that respects the ledger:

    * nothing but a change of the ledger alters the records, so a script leaves
      the ledger table alone;
    * listing answers the records as they are read;
    * a change that succeeds has its effect and one that fails has none, where
      counting a missing run is two statements, of which the second may fail
      after the first;
    * no two records have one path.

    What the files are, which scripts succeed and which statements fail is left
    to the surroundings, and may differ each time. -/

namespace SchemaMigration.Update

open Ledger

/-- The change that a request makes if it makes one. -/
def Request.change? : Request → Option Change
  | .ledger (.change c) => some c
  | .ledger (.countMissing path) => some (.markMissing path)
  | _ => none

/-- The counter of a path as it is read; a path without a record has none. -/
def counterAt (v : View) (path : String) : Nat :=
  ((v path).map fun r => readCounter r.missingRuns).getD 0

/-- Everything around an update run, with the records that the ledger holds. -/
structure Surroundings (σ : Type) where
  answer : (q : Request) → σ → q.Reply × σ
  /-- The stored records, in the order in which they are listed. -/
  records : σ → List Record
  unique : ∀ s, ((records s).map Record.path).Nodup
  quiet : ∀ q s, q.change? = none → records (answer q s).2 = records s
  listed : ∀ s found, (answer (.ledger .list) s).1 = .ok found →
    found = (records s).map Record.asRead
  changed : ∀ c s, (answer (.ledger (.change c)) s).1 = .ok () →
    ∃ time, viewOf (records (answer (.ledger (.change c)) s).2)
      = c.onto time (viewOf (records s))
  unchanged : ∀ c s e, (answer (.ledger (.change c)) s).1 = .error e →
    records (answer (.ledger (.change c)) s).2 = records s
  counted : ∀ path s n, (answer (.ledger (.countMissing path)) s).1 = .ok n →
    (∃ time, viewOf (records (answer (.ledger (.countMissing path)) s).2)
      = (Change.markMissing path).onto time (viewOf (records s)))
      ∧ n = counterAt (viewOf (records (answer (.ledger (.countMissing path)) s).2)) path
  uncounted : ∀ path s e, (answer (.ledger (.countMissing path)) s).1 = .error e →
    records (answer (.ledger (.countMissing path)) s).2 = records s
      ∨ ∃ time, viewOf (records (answer (.ledger (.countMissing path)) s).2)
        = (Change.markMissing path).onto time (viewOf (records s))

namespace Surroundings

variable {σ α : Type} (w : Surroundings σ)

/-- What the ledger holds under each path. -/
def view (s : σ) : View := viewOf (w.records s)

/-- The records as a run is told them. -/
def listing (s : σ) : List Record := (w.records s).map Record.asRead

/-- Carries out a part of a run. -/
def perform (run : Run α) (s : σ) : Except UpdateError α × σ := Program.run w.answer run.run s

/-- What a run plans from, for some files. -/
def inputFor (live archived : List Script) (options : Options) (s : σ) : Plan.Input :=
  ⟨live, archived, w.listing s, options⟩

/-- The plan that a run makes for some files. -/
def planFor (live archived : List Script) (options : Options) (s : σ) : Plan :=
  Plan.build (w.inputFor live archived options s)

theorem path_of_view {w : Surroundings σ} {s : σ} {path : String} {r : Record}
    (h : w.view s path = some r) : r.path = path := path_of_viewOf h

theorem mem_records_iff {s : σ} {r : Record} : r ∈ w.records s ↔ w.view s r.path = some r :=
  mem_iff_viewOf (w.unique s)

/-- A listed record is a stored one as it is read. -/
theorem mem_listing_iff {s : σ} {r : Record} :
    r ∈ w.listing s ↔ ∃ stored ∈ w.records s, stored.asRead = r := List.mem_map

theorem listing_unique (s : σ) : ((w.listing s).map Record.path).Nodup := by
  have := w.unique s
  rw [listing, List.map_map]
  exact this

theorem view_eq_of_records_eq {s t : σ} (h : w.records t = w.records s) : w.view t = w.view s :=
  congrArg viewOf h

/-- Plans are made from the records, so where these are the same, so is the plan. -/
theorem inputFor_eq_of_records_eq {s t : σ} (h : w.records t = w.records s)
    (live archived : List Script) (options : Options) :
    w.inputFor live archived options t = w.inputFor live archived options s := by
  rw [inputFor, inputFor, listing, listing, h]

theorem planFor_eq_of_records_eq {s t : σ} (h : w.records t = w.records s)
    (live archived : List Script) (options : Options) :
    w.planFor live archived options t = w.planFor live archived options s := by
  rw [planFor, planFor, w.inputFor_eq_of_records_eq h]

/-- A request leaves the ledger as it is or makes its one change. -/
theorem view_answer (q : Request) (s : σ) :
    w.view (w.answer q s).2 = w.view s
      ∨ ∃ c time, q.change? = some c ∧ w.view (w.answer q s).2 = c.onto time (w.view s) := by
  cases q with
  | ledger op =>
      cases op with
      | list => exact Or.inl (w.view_eq_of_records_eq (w.quiet _ s rfl))
      | change c =>
          cases hr : (w.answer (.ledger (.change c)) s).1 with
          | error e => exact Or.inl (w.view_eq_of_records_eq (w.unchanged c s e hr))
          | ok done =>
              obtain ⟨time, hview⟩ := w.changed c s hr
              exact Or.inr ⟨c, time, rfl, hview⟩
      | countMissing path =>
          cases hr : (w.answer (.ledger (.countMissing path)) s).1 with
          | error e =>
              -- The counter may have grown before reading it back failed.
              rcases w.uncounted path s e hr with hsame | ⟨time, hview⟩
              · exact Or.inl (w.view_eq_of_records_eq hsame)
              · exact Or.inr ⟨_, time, rfl, hview⟩
          | ok n =>
              obtain ⟨⟨time, hview⟩, -⟩ := w.counted path s n hr
              exact Or.inr ⟨_, time, rfl, hview⟩
  | _ => exact Or.inl (w.view_eq_of_records_eq (w.quiet _ s rfl))

end Surroundings

end SchemaMigration.Update
