import SchemaMigration.Files.Path

/-! # Baseline stages — on the way to an initialised database

    A baseline is needed, perhaps downloaded or chosen by the operator, applied,
    and then done or failed.  `canBecome` says which stage may follow which; the
    rank falls with every allowed step, so that no sequence of steps goes on for
    ever. -/

namespace SchemaMigration.Baseline

/-- Where the initialisation of a database stands. -/
inductive Stage where
  | needed
  | downloading (url : String)
  | fallback
  | applying (file : Path)
  /-- Finished, with the file that was applied, or with none when nothing was to be done. -/
  | done (applied : Option Path)
  | failed (reason : String)
  deriving DecidableEq, Repr

namespace Stage

/-- Whether the initialisation is over. -/
def isFinal : Stage → Bool
  | .done _ => true
  | .failed _ => true
  | _ => false

/-- Whether a stage may follow another. -/
def canBecome : Stage → Stage → Bool
  | .needed, .downloading _ => true
  | .needed, .fallback => true
  | .needed, .applying _ => true
  | .needed, .done none => true
  | .downloading _, .applying _ => true
  | .fallback, .applying _ => true
  | .fallback, .done none => true
  | .applying _, .done (some _) => true
  | stage, .failed _ => !stage.isFinal
  | _, _ => false

/-- How many steps are left at most. -/
def rank : Stage → Nat
  | .needed => 3
  | .downloading _ => 2
  | .fallback => 2
  | .applying _ => 1
  | .done _ => 0
  | .failed _ => 0

/-- Every transition leads to a lower rank. -/
theorem rank_lt_of_canBecome {a b : Stage} (h : a.canBecome b = true) : b.rank < a.rank := by
  cases a <;> cases b <;> simp_all [canBecome, rank, isFinal]

/-- The stage in words. -/
def describe : Stage → String
  | .needed => "need-baseline"
  | .downloading url => s!"downloading {url}"
  | .fallback => "awaiting-local-fallback"
  | .applying file => s!"applying {file.text}"
  | .done (some file) => s!"done ({file.text})"
  | .done none => "done (skipped)"
  | .failed reason => s!"failed: {reason}"

/-- Whether two stages are the same, with paths compared by component. -/
def same : Stage → Stage → Bool
  | .needed, .needed => true
  | .downloading a, .downloading b => a = b
  | .fallback, .fallback => true
  | .applying a, .applying b => a.same b
  | .done none, .done none => true
  | .done (some a), .done (some b) => a.same b
  | .failed a, .failed b => a = b
  | _, _ => false

end Stage

end SchemaMigration.Baseline
