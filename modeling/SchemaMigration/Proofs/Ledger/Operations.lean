import SchemaMigration.Ledger.Sql
import SchemaMigration.Proofs.Program.Layers

/-! # Operations of a ledger — the requests that they make

    An operation is a few requests to the database and reports to the log.  It is
    written out here as a tree of requests, and what reading rows makes of them is
    separated from what it reports on the way (`ofRows_answers`). -/

namespace SchemaMigration.Ledger

open Program

/-! ## Reading records -/

/-- The records of rows. -/
def readRows (rows : List Row) : List Record :=
  rows.filterMap fun row => (ofRow row).map Prod.fst

/-- The request only reports a line. -/
def Reports (q : Site.Request) : Prop := ∃ line, q = .machine (.log line)

theorem report_asks (lines : List Log.Line) : (report lines).Asks Reports := by
  induction lines with
  | nil => trivial
  | cons line rest ih => exact ⟨⟨line, rfl⟩, fun _ => ih⟩

/-- Reading rows only reports. -/
theorem ofRows_asks (rows : List Row) : (ofRows rows).Asks Reports := by
  induction rows with
  | nil => trivial
  | cons row rest ih =>
      rw [ofRows]
      cases ofRow row with
      | none => exact ih
      | some found => exact (report_asks found.2).bind fun _ => ih.bind fun _ => trivial

variable {σ : Type} {answer : (q : Site.Request) → σ → q.Reply × σ}

/-- Reading rows answers their records. -/
theorem ofRows_answers (rows : List Row) (s : σ) :
    ((ofRows rows).run answer s).1 = readRows rows := by
  induction rows generalizing s with
  | nil => rfl
  | cons row rest ih =>
      rw [ofRows, readRows, List.filterMap_cons]
      cases ofRow row with
      | none => exact ih s
      | some found =>
          show ((Program.bind (report found.2) _).run answer s).1 = _
          rw [run_bind]
          show ((Program.bind (ofRows rest) _).run answer _).1 = _
          rw [run_bind]
          exact congrArg (found.1 :: ·) (ih _)

section

variable {γ : Type} {view : σ → γ}

/-- What no request to the machine alters is not altered by reading rows. -/
theorem ofRows_unaltered (h : ∀ q s, view (answer (.machine q) s).2 = view s) (rows : List Row)
    (s : σ) : view ((ofRows rows).run answer s).2 = view s := by
  refine (ofRows_asks rows).unaltered ?_ s
  rintro q t ⟨line, rfl⟩
  exact h _ t

/-- Nor is it by looking for the time of a change. -/
theorem timeOf_unaltered (h : ∀ q s, view (answer (.machine q) s).2 = view s) (c : Change)
    (s : σ) : view ((timeOf c).run answer s).2 = view s := by
  cases c with
  | record path hash speed => exact h .now s
  | _ => rfl

end

/-! ## Operations as requests -/

theorem list_eq : list = .ask (.database (.query listStatement)) fun
    | .ok rows => (ofRows rows).bind fun records => .done (.ok records)
    | .error cause => .done (.error (.ledger "list ledger records" cause)) := by
  refine congrArg (Program.ask _) (funext fun reply => ?_)
  cases reply with
  | ok rows => rfl
  | error cause => rfl

/-- Listing answers the records of the rows that the query answers. -/
theorem list_answers {rows : List Row} {s : σ}
    (h : (answer (.database (.query listStatement)) s).1 = .ok rows) :
    (list.run answer s).1 = .ok (readRows rows) := by
  rw [list_eq, run_ask, h]
  show (((ofRows rows).bind _).run answer _).1 = _
  rw [run_bind, ofRows_answers]
  rfl

theorem change_eq (dialect : Dialect) (c : Change) :
    change dialect c = (timeOf c).bind fun time =>
      .ask (.machine (.log (.debug .ledger s!"ledger: {c.describe}"))) fun _ =>
        .ask (.database (.execute (c.statement dialect time))) fun reply =>
          .done (failed c.describe reply) := rfl

/-- Reading a counter back. -/
def readCount (path : String) : Program Site.interface (Except UpdateError Nat) :=
  .ask (.database (.query (countStatement path))) fun
    | .ok rows => .done (.ok (counterOfRows rows))
    | .error cause => .done (.error (.ledger s!"read missing count of '{path}'" cause))

theorem countMissing_eq (dialect : Dialect) (path : String) :
    countMissing dialect path = (change dialect (.markMissing path)).bind fun
      | .error e => .done (.error e)
      | .ok () => readCount path := by
  refine congrArg (Program.bind _) (funext fun reply => ?_)
  cases reply with
  | error e => rfl
  | ok done =>
      refine congrArg (Program.ask _) (funext fun rows => ?_)
      cases rows with
      | ok rows => rfl
      | error cause => rfl

end SchemaMigration.Ledger
