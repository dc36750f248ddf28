import SchemaMigration.Preparation
import SchemaMigration.Proofs.Rehearsal.Statements
import SchemaMigration.Proofs.Text.Pieces

/-! # Quotation — values keep to their places in statements

    Statements are put together from words and quoted values, and the values are any
    texts at all.  A reader for which nothing but quotes is special takes them apart:

    * `separate_pieces`, `written_pieces`: the words and the values of a change can be told
      apart, and its statement is written from them;
    * `statements_delimited`: every value is found in its statement as it is, the rest of the
      statement does not depend on it, and no two changes have one statement. -/

namespace SchemaMigration.Ledger

open Quoted

/-! ## The parts of a statement -/

/-- The change with all paths and hashes left out. -/
def Change.form : Change → Change
  | .record _ _ speed => .record "" "" speed
  | .archive _ => .archive ""
  | .remove _ => .remove ""
  | .rename _ _ => .rename "" ""
  | .rehash _ _ => .rehash "" ""
  | .markMissing _ => .markMissing ""
  | .clearMissing _ => .clearMissing ""

/-- The quoted values of a change, in the order of its statement. -/
def Change.values (time : Timestamp) : Change → List String
  | .record path hash _ => [path, hash, RecordState.active.column, time.renderSeconds]
  | .archive path => [RecordState.archived.column, path]
  | .remove path => [path]
  | .rename old new => [new, old]
  | .rehash path hash => [hash, path]
  | .markMissing path => [path]
  | .clearMissing path => [path]

/-- A literal in a statement. -/
def literalOf (value : String) : Piece := valued '\'' value

/-- The pieces of the statement of a change. -/
def Change.pieces (dialect : Dialect) (time : Timestamp) : Change → List Piece
  | .record path hash speed =>
      text (s!"{dialect.replaceWords} {tableName} (name, hash, state, applied_at, speed, missing_runs) "
          ++ "VALUES (")
        ++ literalOf path :: (text ", " ++ literalOf hash :: (text ", "
          ++ literalOf RecordState.active.column :: (text ", "
            ++ literalOf time.renderSeconds :: text s!", {speed}, 0)")))
  | .archive path =>
      text s!"UPDATE {tableName} SET state = "
        ++ literalOf RecordState.archived.column :: (text " WHERE name = " ++ [literalOf path])
  | .remove path => text s!"DELETE FROM {tableName} WHERE name = " ++ [literalOf path]
  | .rename old new =>
      text s!"UPDATE {tableName} SET name = "
        ++ literalOf new :: (text (", missing_runs = 0 " ++ "WHERE name = ") ++ [literalOf old])
  | .rehash path hash =>
      text s!"UPDATE {tableName} SET hash = "
        ++ literalOf hash :: (text " WHERE name = " ++ [literalOf path])
  | .markMissing path =>
      text s!"UPDATE {tableName} SET missing_runs = missing_runs + 1 WHERE name = "
        ++ [literalOf path]
  | .clearMissing path =>
      text s!"UPDATE {tableName} SET missing_runs = 0 WHERE name = " ++ [literalOf path]

/-- The pieces of the query for a counter. -/
def countPieces (path : String) : List Piece :=
  text s!"SELECT missing_runs FROM {tableName} WHERE name = " ++ [literalOf path]

/-- The pieces of the script that makes a database. -/
def creationPieces (p : Preparation) : List Piece :=
  text "CREATE DATABASE " ++ valued identifierQuote p.databaseName ::
    text (" DEFAULT CHARACTER SET utf8mb4 " ++ "COLLATE utf8mb4_unicode_ci;\n")

variable {ps : List Piece} {s t : String}

theorem written_literalOf_cons (value : String) (ps : List Piece) :
    written (literalOf value :: ps) = (literal value).toList ++ written ps := by
  rw [written_cons, literalOf, written_valued_literal]

/-- A value is apart from the plain text behind it. -/
theorem separate_literalOf_text (value : String) (h : Unquoted t) (hne : t ≠ "")
    (hps : Separate ps) : Separate (literalOf value :: (text t ++ ps)) :=
  separate_valued_text rfl value h hne hps

theorem separate_literalOf_last (value : String) (h : Unquoted t) (hne : t ≠ "") :
    Separate (literalOf value :: text t) := separate_valued_last rfl value h hne

/-- Words with a literal behind them. -/
theorem separate_one (h : Unquoted s) (value : String) :
    Separate (text s ++ [literalOf value]) :=
  separate_text_append h (separate_valued rfl value)

/-- Words with two literals behind them, and more words between these. -/
theorem separate_two (hs : Unquoted s) (ht : Unquoted t) (hne : t ≠ "") (first second : String) :
    Separate (text s ++ literalOf first :: (text t ++ [literalOf second])) :=
  separate_text_append hs
    (separate_literalOf_text first ht hne (separate_valued rfl second))

/-- The digits of a number are no quotes. -/
theorem unquoted_toString (n : Nat) : Unquoted (toString n) := by
  intro c hc
  have hne : ∀ d : Char, d.isDigit = false → c ≠ d := fun d hd => Text.ne_of_mem_toString hd hc
  simp [isQuote, hne '\'' rfl, hne '"' rfl, hne identifierQuote rfl]

/-- The pieces of a statement are apart, whatever its values. -/
theorem separate_pieces (dialect : Dialect) (time : Timestamp) (c : Change) :
    Separate (c.pieces dialect time) := by
  cases c with
  | record path hash speed =>
      have hspeed : Unquoted s!", {speed}, 0)" :=
        (Unquoted.append (by decide) (unquoted_toString speed)).append (by decide)
      -- The values end in plain text, which has to be there for the last one to be read back.
      have hne : s!", {speed}, 0)" ≠ "" := fun h => by
        have hlength := congrArg String.length h
        simp [toString] at hlength
      rw [Change.pieces]
      refine separate_text_append ?_ ?_
      · cases dialect <;> decide +kernel
      refine separate_literalOf_text path (by decide) (by decide) ?_
      refine separate_literalOf_text hash (by decide) (by decide) ?_
      refine separate_literalOf_text _ (by decide) (by decide) ?_
      exact separate_literalOf_last _ hspeed hne
  | archive path =>
      rw [Change.pieces]
      refine separate_two ?_ ?_ ?_ _ path <;> decide +kernel
  | remove path =>
      rw [Change.pieces]
      refine separate_one ?_ path
      decide +kernel
  | rename old new =>
      rw [Change.pieces]
      refine separate_two ?_ ?_ ?_ new old <;> decide +kernel
  | rehash path hash =>
      rw [Change.pieces]
      refine separate_two ?_ ?_ ?_ hash path <;> decide +kernel
  | markMissing path =>
      rw [Change.pieces]
      refine separate_one ?_ path
      decide +kernel
  | clearMissing path =>
      rw [Change.pieces]
      refine separate_one ?_ path
      decide +kernel

/-- Written out, the pieces are the statement. -/
theorem written_pieces (dialect : Dialect) (time : Timestamp) (c : Change) :
    written (c.pieces dialect time) = (c.statement dialect time).toList := by
  have hnil : written [] = [] := rfl
  -- The states stand in the statements as literals of their own.
  have hreleased : ", 'RELEASED', ".toList
      = ", ".toList ++ (literal RecordState.active.column).toList ++ ", ".toList := by decide
  have harchived : " SET state = 'ARCHIVED' WHERE name = ".toList
      = " SET state = ".toList ++ (literal RecordState.archived.column).toList
        ++ " WHERE name = ".toList := by decide
  cases c <;>
    simp only [Change.pieces, Change.statement, hreleased, harchived, written_text_append,
      written_text, written_literalOf_cons, hnil, List.append_nil, String.toList_append, toString,
      List.append_assoc]

/-- The values of the pieces are those of the change. -/
theorem values_pieces (dialect : Dialect) (time : Timestamp) (c : Change) :
    (c.pieces dialect time).filterMap Piece.value? = c.values time := by
  cases c <;>
    simp only [Change.pieces, Change.values, literalOf, List.filterMap_append,
      filterMap_value?_text, filterMap_value?_valued, List.filterMap_nil, List.nil_append]

/-- Which values a change has makes no difference outside of them. -/
theorem map_emptied_pieces (dialect : Dialect) (time : Timestamp) (c : Change) :
    (c.pieces dialect time).map Piece.emptied
      = (c.form.pieces dialect .epoch).map Piece.emptied := by
  have hliteral (value : String) : (literalOf value).emptied = literalOf "" := rfl
  cases c <;>
    simp only [Change.pieces, Change.form, List.map_append, List.map_cons, hliteral]

/-! ## Whole statements -/

/-- The statements of changes are delimited by their form. -/
theorem delimited_statement (dialect : Dialect) :
    Delimited (fun (c, time) => Change.statement dialect time c)
      (fun (c, time) => Change.values time c) (fun (c, _) => c.form) := by
  refine .of_pieces (fun (c, time) => c.pieces dialect time) ?_ ?_ ?_ ?_
  · rintro ⟨c, time⟩
    exact separate_pieces dialect time c
  · rintro ⟨c, time⟩
    exact written_pieces dialect time c
  · rintro ⟨c, time⟩
    exact values_pieces dialect time c
  · rintro ⟨c, time⟩ ⟨c', time'⟩ (h : c.form = c'.form)
    show (c.pieces dialect time).map Piece.emptied = (c'.pieces dialect time').map Piece.emptied
    rw [map_emptied_pieces, map_emptied_pieces dialect time', h]

/-- The statement that asks for a counter is delimited. -/
theorem delimited_countStatement :
    Delimited countStatement (fun path => [path]) (fun _ => ()) := by
  have hnil : written [] = [] := rfl
  refine .of_pieces countPieces (fun path => ?_) (fun path => ?_) (fun path => ?_)
    (fun path path' _ => ?_)
  · rw [countPieces]
    refine separate_one ?_ path
    decide +kernel
  · unfold countPieces countStatement
    simp only [written_text_append, written_literalOf_cons, hnil, String.toList_append, toString,
      List.append_assoc, List.append_nil]
  · simp only [countPieces, List.filterMap_append, filterMap_value?_text, literalOf,
      filterMap_value?_valued, List.filterMap_nil, List.nil_append]
  · rw [countPieces, countPieces, List.map_append, List.map_append]
    rfl

/-- The script that creates a database is delimited. -/
theorem delimited_creationScript :
    Delimited Preparation.creationScript (fun p => [p.databaseName]) (fun _ => ()) := by
  refine .of_pieces creationPieces (fun p => ?_) (fun p => ?_) (fun p => ?_) (fun p p' _ => ?_)
  · rw [creationPieces]
    refine separate_text_append ?_ ?_
    · decide
    · exact separate_valued_last rfl _ (by decide +kernel) (by decide +kernel)
  · unfold creationPieces Preparation.creationScript
    simp only [written_text_append, written_cons, written_text, written_valued_identifier,
      String.toList_append, toString, List.append_assoc]
  · simp only [creationPieces, List.filterMap_append, filterMap_value?_text,
      filterMap_value?_valued, List.nil_append]
  · rw [creationPieces, creationPieces, List.map_append, List.map_append]
    rfl

/-! ## Changes and their statements -/

/-- What is asked of the store tells the change. -/
theorem ofChange_inj {time : Timestamp} {c c' : Change}
    (h : Rehearsal.LedgerStatement.ofChange time c = .ofChange time c') : c = c' := by
  cases c <;> cases c' <;>
    simp_all [Rehearsal.LedgerStatement.ofChange]

/-- No two changes are written alike. -/
theorem statement_inj {dialect : Dialect} {time : Timestamp} {c c' : Change}
    (h : c.statement dialect time = c'.statement dialect time) : c = c' := by
  obtain ⟨ts, hts, hmeans⟩ := Rehearsal.means_change dialect time c
  obtain ⟨ts', hts', hmeans'⟩ := Rehearsal.means_change dialect time c'
  have hreads : Rehearsal.tokens (c.statement dialect time).toList = some ts := hts
  rw [h, show Rehearsal.tokens (c'.statement dialect time).toList = some ts' from hts'] at hreads
  obtain rfl := Option.some.inj hreads
  exact ofChange_inj (Rehearsal.Statement.ledger.inj (hmeans.symm.trans hmeans'))

/-- Quoting is undone by reading wherever no quote comes next.  So in everything that is
    written with values in it, each value is found as it is, none reaches into the rest, and
    the statements of two changes are never the same. -/
theorem statements_delimited (dialect : Dialect) :
    (∀ value rest, Quoted.read '\'' ((literal value).toList ++ rest) = some (value.toList, rest)
      ↔ rest.head? ≠ some '\'')
    ∧ (∀ name rest,
        Quoted.read identifierQuote ((identifier name).toList ++ rest) = some (name.toList, rest)
          ↔ rest.head? ≠ some identifierQuote)
    ∧ Delimited (fun (c, time) => Change.statement dialect time c)
        (fun (c, time) => Change.values time c) (fun (c, _) => c.form)
    ∧ Delimited countStatement (fun path => [path]) (fun _ => ())
    ∧ Delimited Preparation.creationScript (fun p => [p.databaseName]) (fun _ => ())
    ∧ ∀ (time : Timestamp) (c c' : Change),
        c.statement dialect time = c'.statement dialect time ↔ c = c' := by
  refine ⟨fun value rest => ?_, fun name rest => ?_, delimited_statement dialect,
    delimited_countStatement, delimited_creationScript, fun time c c' => ⟨statement_inj, ?_⟩⟩
  · rw [literal, String.toList_ofList]
    exact read_write_eq_some_iff
  · rw [identifier, String.toList_ofList]
    exact read_write_eq_some_iff
  · rintro rfl
    rfl

end SchemaMigration.Ledger
