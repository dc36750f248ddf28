import SchemaMigration.Proofs.Client.Batch
import SchemaMigration.Proofs.Ledger.Operations
import SchemaMigration.Proofs.Text.Number
import SchemaMigration.Rehearsal.Host

/-! # Names behind a client — which paths are read back as they were written

    The path of a script is written into a literal of a statement, read there by the
    server, printed by the client and read once more.  Writing doubles quotes only,
    while the server reads a backslash as the start of a pair, and the client shows
    some characters as such pairs, which reading leaves as they are:

    * `closeLiteral`: the value of a literal as the server reads it;
    * `shownLiteral?_double_iff`: a path is shown as it was written
      exactly if it `Survives`, which its characters tell;
    * `run_list_eq`: listing reads the names of the table as they are shown;
    * `readBack_iff`: a recorded path is listed as the same path exactly if it
      survives. -/

namespace SchemaMigration.Client

open Ledger Program

/-! ## Literals as the server reads them -/

/-- What a backslash and the character behind it stand for in a literal. -/
def escapeValue (c : Char) : List Char :=
  if c = '0' then [nul]
  else if c = 'b' then [Char.ofNat 8]
  else if c = 'n' then ['\n']
  else if c = 'r' then ['\r']
  else if c = 't' then ['\t']
  else if c = 'Z' then [Char.ofNat 26]
  else if c = '%' ∨ c = '_' then ['\\', c]
  else [c]

/-- Reads the inside of a literal as the server does, up to the quote that ends it: the value
    and what follows.  Two quotes stand for one, and a backslash starts a pair. -/
def closeLiteral : List Char → Option (List Char × List Char)
  | [] => none
  | [c] => if c = '\'' then some ([], []) else none
  | c :: d :: rest =>
      if c = '\\' then (closeLiteral rest).map fun (value, after) => (escapeValue d ++ value, after)
      else if c = '\'' then
        if d = '\'' then (closeLiteral rest).map fun (value, after) => ('\'' :: value, after)
        else some ([], d :: rest)
      else (closeLiteral (d :: rest)).map fun (value, after) => (c :: value, after)

/-- The value of the first literal of a statement. -/
def firstLiteral? (sql : String) : Option String :=
  match sql.toList.dropWhile (· ≠ '\'') with
  | [] => none
  | _ :: rest => (closeLiteral rest).map fun (value, _) => String.ofList value

variable {c : Char} {cs rest : List Char}

/-- A quote that is not doubled ends the literal. -/
theorem closeLiteral_end (h : rest.head? ≠ some '\'') :
    closeLiteral ('\'' :: rest) = some ([], rest) := by
  cases rest with
  | nil => rfl
  | cons d rest =>
      rw [closeLiteral, if_neg (by decide), if_pos rfl, if_neg fun hd => h (congrArg some hd)]

theorem closeLiteral_twice (rest : List Char) : closeLiteral ('\'' :: '\'' :: rest)
    = (closeLiteral rest).map fun (value, after) => ('\'' :: value, after) := by
  rw [closeLiteral, if_neg (by decide), if_pos rfl, if_pos rfl]

/-- A backslash and the character behind it stand for one character. -/
theorem closeLiteral_pair (c : Char) (rest : List Char) : closeLiteral ('\\' :: c :: rest)
    = (closeLiteral rest).map fun (value, after) => (escapeValue c ++ value, after) := by
  rw [closeLiteral, if_pos rfl]

theorem closeLiteral_other (hslash : c ≠ '\\') (hquote : c ≠ '\'') (rest : List Char) :
    closeLiteral (c :: rest)
      = (closeLiteral rest).map fun (value, after) => (c :: value, after) := by
  cases rest with
  | nil => exact if_neg hquote
  | cons d rest => rw [closeLiteral, if_neg hslash, if_neg hquote]

/-! ## Values as they are shown -/

/-- What the client shows of the value that the server reads from a literal. -/
def shownLiteral? (cs : List Char) : Option (List Char) :=
  (closeLiteral cs).map fun (value, _) => shownCell value

theorem shownLiteral?_end (h : rest.head? ≠ some '\'') :
    shownLiteral? ('\'' :: rest) = some [] := by
  rw [shownLiteral?, closeLiteral_end h]
  rfl

/-- What is read in front of a value is shown in front of it. -/
theorem map_shownCell_map_append (front : List Char) (read : Option (List Char × List Char)) :
    (read.map fun (value, after) => (front ++ value, after)).map (fun (value, _) => shownCell value)
      = (read.map fun (value, _) => shownCell value).map (shownCell front ++ ·) := by
  rw [Option.map_map, Option.map_map]
  exact congrArg (Option.map · read) (funext fun found => shownCell_append front found.1)

theorem shownLiteral?_pair (c : Char) (rest : List Char) : shownLiteral? ('\\' :: c :: rest)
    = (shownLiteral? rest).map (shownCell (escapeValue c) ++ ·) := by
  rw [shownLiteral?, closeLiteral_pair]
  exact map_shownCell_map_append (escapeValue c) _

theorem shownLiteral?_twice (rest : List Char) :
    shownLiteral? ('\'' :: '\'' :: rest) = (shownLiteral? rest).map ('\'' :: ·) := by
  rw [shownLiteral?, closeLiteral_twice]
  exact map_shownCell_map_append ['\''] _

/-- Any other character is shown as it is shown alone. -/
theorem shownLiteral?_other (hslash : c ≠ '\\') (hquote : c ≠ '\'') (rest : List Char) :
    shownLiteral? (c :: rest) = (shownLiteral? rest).map (shownChar c ++ ·) := by
  rw [shownLiteral?, closeLiteral_other hslash hquote, ← shownCell_singleton]
  exact map_shownCell_map_append [c] _

/-- A pair is shown as it was written if it stands for what is shown as this pair. -/
theorem shown_pair_iff {d : Char} {us vs : List Char} :
    shownCell (escapeValue d) ++ us = '\\' :: d :: vs
      ↔ (d = 't' ∨ d = 'n' ∨ d = '\\' ∨ d = '0') ∧ us = vs := by
  by_cases hspecial : d ∈ ['0', 'b', 'n', 'r', 't', 'Z', '%', '_', '\\', '\t', '\n', nul]
  · simp only [List.mem_cons, List.not_mem_nil, or_false] at hspecial
    rcases hspecial with rfl | rfl | rfl | rfl | rfl | rfl | rfl | rfl | rfl | rfl | rfl | rfl <;>
      simp [escapeValue, shownCell, shownChar, nul]
  · simp only [List.mem_cons, List.not_mem_nil, or_false, not_or] at hspecial
    obtain ⟨h0, hb, hn, hr, ht, hZ, hpercent, hunder, hslash, htab, hline, hnul⟩ := hspecial
    have hvalue : escapeValue d = [d] := by
      simp only [escapeValue, h0, hb, hn, hr, ht, hZ, hpercent, hunder, or_self, if_false]
    rw [hvalue, shownCell_singleton, shownChar_of_ne htab hline hslash hnul]
    simp [hslash, h0, hn, ht]

/-- Every other character is shown as it was written unless it is shown as a pair. -/
theorem shown_other_iff {us vs : List Char} (hslash : c ≠ '\\') :
    shownChar c ++ us = c :: vs ↔ (c ≠ '\t' ∧ c ≠ '\n' ∧ c ≠ nul) ∧ us = vs := by
  by_cases hspecial : c ∈ ['\t', '\n', nul]
  · simp only [List.mem_cons, List.not_mem_nil, or_false] at hspecial
    rcases hspecial with rfl | rfl | rfl <;> simp [shownChar, nul]
  · simp only [List.mem_cons, List.not_mem_nil, or_false, not_or] at hspecial
    obtain ⟨htab, hline, hnul⟩ := hspecial
    rw [shownChar_of_ne htab hline hslash hnul]
    simp [htab, hline, hnul]

/-! ## Paths that survive -/

/-- Every backslash, from left to right, starts a pair that stands for a tab, a line feed, a
    backslash or the zero character, and none of the first two and the last stands for itself. -/
def Survives : List Char → Prop
  | '\\' :: d :: rest => (d = 't' ∨ d = 'n' ∨ d = '\\' ∨ d = '0') ∧ Survives rest
  | c :: rest => c ≠ '\\' ∧ (c ≠ '\t' ∧ c ≠ '\n' ∧ c ≠ nul) ∧ Survives rest
  | [] => True

theorem double_cons_of_ne (hquote : c ≠ '\'') (cs : List Char) :
    Quoted.double '\'' (c :: cs) = c :: Quoted.double '\'' cs := if_neg hquote

theorem double_quote (cs : List Char) :
    Quoted.double '\'' ('\'' :: cs) = '\'' :: '\'' :: Quoted.double '\'' cs := if_pos rfl

/-- A backslash in front of a quote is shown as the quote. -/
theorem shownLiteral?_pair_quote (cs rest : List Char) :
    shownLiteral? ('\\' :: '\'' :: rest) ≠ some ('\\' :: cs) := by
  rw [shownLiteral?_pair]
  intro h
  obtain ⟨us, -, hus⟩ := Option.map_eq_some_iff.mp h
  exact absurd (List.cons.inj hus).1 (by decide)

/-- A path is shown as it was written exactly if it survives. -/
theorem shownLiteral?_double_iff (h : rest.head? ≠ some '\'') :
    shownLiteral? (Quoted.double '\'' cs ++ '\'' :: rest) = some cs ↔ Survives cs := by
  -- The cases of what survives: a backslash with the character behind it, any other character, the
  -- end.
  fun_induction Survives cs with
  | case1 d cs ih =>
      rw [double_cons_of_ne (by decide), List.cons_append]
      by_cases hquote : d = '\''
      · rw [hquote, double_quote, List.cons_append]
        -- The backslash takes one of the two quotes, and the other ends the literal.
        refine iff_of_false (shownLiteral?_pair_quote _ _) fun hpair => ?_
        exact absurd hpair.1 (by decide)
      · rw [double_cons_of_ne hquote, List.cons_append, shownLiteral?_pair,
          Option.map_eq_some_iff, ← ih]
        constructor
        · rintro ⟨us, hread, heq⟩
          obtain ⟨hpair, rfl⟩ := shown_pair_iff.mp heq
          exact ⟨hpair, hread⟩
        · rintro ⟨hpair, hread⟩
          exact ⟨cs, hread, shown_pair_iff.mpr ⟨hpair, rfl⟩⟩
  | case2 c cs hpair ih =>
      by_cases hslash : c = '\\'
      · cases cs with
        | nil =>
            rw [hslash]
            exact iff_of_false (shownLiteral?_pair_quote [] rest) fun hplain => hplain.1 rfl
        | cons d cs => exact absurd rfl (hpair d cs hslash)
      by_cases hquote : c = '\''
      · rw [hquote, double_quote, List.cons_append, List.cons_append, shownLiteral?_twice,
          Option.map_eq_some_iff, ← ih]
        constructor
        · rintro ⟨us, hread, heq⟩
          obtain rfl := (List.cons.inj heq).2
          exact ⟨by decide, by decide, hread⟩
        · rintro ⟨-, -, hread⟩
          exact ⟨cs, hread, rfl⟩
      · rw [double_cons_of_ne hquote, List.cons_append, shownLiteral?_other hslash hquote,
          Option.map_eq_some_iff, ← ih]
        constructor
        · rintro ⟨us, hread, heq⟩
          obtain ⟨hplain, rfl⟩ := (shown_other_iff hslash).mp heq
          exact ⟨hslash, hplain, hread⟩
        · rintro ⟨-, hplain, hread⟩
          exact ⟨cs, hread, (shown_other_iff hslash).mpr ⟨hplain, rfl⟩⟩
  | case3 => exact iff_of_true (shownLiteral?_end h) trivial

/-! ## The statement that records a script -/

/-- The first literal of a text starts behind its first quote. -/
theorem firstLiteral?_of_toList {sql : String} {front : List Char} (hfront : '\'' ∉ front)
    (h : sql.toList = front ++ '\'' :: rest) :
    firstLiteral? sql = (closeLiteral rest).map fun (value, _) => String.ofList value := by
  have hdropped : sql.toList.dropWhile (· ≠ '\'') = '\'' :: rest := by
    have hplain : ∀ c ∈ front, decide (c ≠ '\'') = true := fun c hc =>
      decide_eq_true fun heq => hfront (by rw [← heq]; exact hc)
    rw [h, List.dropWhile_append_of_pos hplain]
    rfl
  rw [firstLiteral?, hdropped]

/-- The path is the first literal of the statement that records it, and a comma follows. -/
theorem exists_toList_record (dialect : Dialect) (time : Timestamp) (path hash : String)
    (speed : Nat) : ∃ front rest, '\'' ∉ front ∧ rest.head? ≠ some '\''
      ∧ ((Change.record path hash speed).statement dialect time).toList
        = front ++ '\'' :: (Quoted.double '\'' path.toList ++ '\'' :: rest) := by
  refine ⟨(s!"{dialect.replaceWords} {tableName} (name, hash, state, applied_at, speed, missing_runs) "
    ++ "VALUES (").toList, (s!", {Quoted.literal hash}, 'RELEASED', "
    ++ s!"{Quoted.literal time.renderSeconds}, {speed}, 0)").toList, ?_, ?_, ?_⟩
  · cases dialect <;> decide
  · simp [String.toList_append, toString]
  · simp only [Change.statement, Quoted.literal, Quoted.write, String.toList_append, toString,
      String.toList_ofList, List.append_assoc, List.cons_append, List.nil_append]

/-! ## Listing through the client -/

/-- A row of the ledger table on the server. -/
structure TableRow where
  name : String
  hash : String
  state : String
  appliedAt : String
  speed : Nat
  missingRuns : Nat

/-- The columns in the order in which they are listed. -/
def TableRow.columns (r : TableRow) : Row :=
  [r.name, r.hash, r.state, r.appliedAt, toString r.speed, toString r.missingRuns]

/-- What is shown of a number has no carriage return. -/
theorem return_notMem_shownCell_toString (n : Nat) : '\r' ∉ shownCell (toString n).toList := by
  intro h
  obtain ⟨c, hc, hreturn⟩ := List.mem_flatMap.mp h
  have hne : ∀ d : Char, d.isDigit = false → c ≠ d := fun d hd => Text.ne_of_mem_toString hd hc
  rw [shownChar_of_ne (hne _ rfl) (hne _ rfl) (hne _ rfl) (hne _ rfl),
    List.mem_singleton] at hreturn
  exact hne '\r' rfl hreturn.symm

/-- The line of a table row ends with a number, so it carries the row. -/
theorem carried_columns (r : TableRow) :
    Carried (r.columns.map fun cell => shownCell cell.toList) := by
  have hending : ∀ cell ∈ (r.columns.map String.toList).getLast?,
      (shownCell cell).getLast? ≠ some '\r' := by
    rintro cell hcell hlast
    obtain rfl := Option.some.inj hcell
    exact return_notMem_shownCell_toString r.missingRuns (List.mem_of_getLast? hlast)
  have hcells : 2 ≤ (r.columns.map String.toList).length := Nat.le_add_left 2 4
  have hcarried := carried_map_shownCell hcells hending
  rw [List.map_map] at hcarried
  exact hcarried

variable {σ : Type}

/-- A query that the client carries out is read from what the client prints. -/
theorem run_query_of_ok {answer : (q : Request) → σ → q.Reply × σ} {client : Client}
    {connection : Connection} {sql : String} {s : σ} {output : Output}
    (h : (answer (.call (client.invocation connection (queryArguments connection sql))) s).1
      = .ok output) (hok : output.ending.isSuccess = true) :
    ((client.query connection sql).run answer s).1
      = .ok (readRows (Utf8.decodeLossy output.standard)) := by
  rw [query, callWith]
  show (Program.run answer (Program.bind (Program.bind (call _) _) _) s).1 = _
  have hcall : (Program.run answer (call (client.invocation connection
      (queryArguments connection sql))) s).1 = .ok output := h
  rw [run_bind, run_bind, hcall]
  show (Program.run (I := interface) answer (if output.ending.isSuccess = true then _ else _) _).1 = _
  rw [if_pos hok]
  rfl

/-- The path of a record is the first column of its row. -/
theorem path_ofRow (row : Row) : (ofRow row).map (fun found => found.1.path) = row.head? := by
  cases row with
  | nil => rfl
  | cons path columns =>
      rw [ofRow]
      cases RecordState.ofColumn? (columns.getD 1 "") with
      | none => rfl
      | some state => rfl

/-- The paths that are read are the first cells of the rows. -/
theorem map_path_readRows (rows : List Row) :
    (Ledger.readRows rows).map Record.path = rows.filterMap List.head? := by
  rw [Ledger.readRows, List.map_filterMap]
  refine congrArg (List.filterMap · rows) (funext fun row => ?_)
  rw [Option.map_map]
  exact path_ofRow row

/-- Asked to list the records, the client prints the rows of the table. -/
def Prints (client : Client) (answer : (q : Host.Request) → σ → q.Reply × σ) (s : σ)
    (rows : List TableRow) : Prop :=
  ∃ diagnostic, (answer (.client (.call (client.invocation client.connection
      (queryArguments client.connection listStatement)))) s).1
    = .ok ⟨.exited 0, (batchOutput (rows.map TableRow.columns)).toUTF8, diagnostic⟩

variable {client : Client} {provider : Prompt.Provider} {rows : List TableRow} {s : σ}
variable {answer : (q : Host.Request) → σ → q.Reply × σ}

/-- Asked through a host, the query for the records answers the cells as they are shown. -/
theorem run_askSite_list (provider : Prompt.Provider) (h : Prints client answer s rows) :
    ((Host.askSite provider (some (.client client)) (.database (.query listStatement))).run
        answer s).1
      = .ok (rows.map fun r => r.columns.map shown) := by
  obtain ⟨diagnostic, hcall⟩ := h
  have hasked : (Host.askSite provider (some (.client client))
      (.database (.query listStatement))).run answer s
        = (client.query client.connection listStatement).run
            (fun q t => (Host.askClient q).run answer t) s := run_via _ _ _ _
  have hcarried : ∀ row ∈ rows.map TableRow.columns,
      Carried (row.map fun cell => shownCell cell.toList) :=
    List.forall_mem_map.mpr fun r _ => carried_columns r
  rw [hasked, run_query_of_ok hcall rfl, Utf8.decodeLossy_toUTF8, readRows_shown hcarried,
    List.map_map]
  rfl

/-- Listing reads the names of the table as they are shown. -/
theorem run_list_eq (provider : Prompt.Provider) (h : Prints client answer s rows) :
    ∃ records t, (Host.atSite provider (.client client) Ledger.list).run answer s = (.ok records, t)
      ∧ records.map Record.path = rows.map fun r => shown r.name := by
  have hlisted : (Ledger.list.run
      (fun q t => (Host.askSite provider (some (.client client)) q).run answer t) s).1 = _ :=
    list_answers (run_askSite_list provider h)
  rw [Host.atSite, run_via]
  refine ⟨_, _, Prod.ext hlisted rfl, ?_⟩
  rw [map_path_readRows, List.filterMap_map]
  show (rows.filterMap fun r => some (shown r.name)) = _
  exact congrFun List.filterMap_eq_map' rows

/-- Wherever a row of the name stands in the table, it is listed under the path. -/
def ListedAs (client : Client) (provider : Prompt.Provider) (name path : String) : Prop :=
  ∀ (σ : Type) (answer : (q : Host.Request) → σ → q.Reply × σ) (s : σ) (before after : List TableRow)
    (r : TableRow), r.name = name → Prints client answer s (before ++ r :: after) →
    ∃ records t, (Host.atSite provider (.client client) Ledger.list).run answer s = (.ok records, t)
      ∧ (records.map Record.path)[before.length]? = some path

/-- A host whose client prints the rows of a table, whatever it is called with. -/
def printing (rows : List TableRow) :
    (q : Host.Request) → Rehearsal.HostStage → q.Reply × Rehearsal.HostStage
  | .client (.call _), s =>
      (.ok ⟨.exited 0, (batchOutput (rows.map TableRow.columns)).toUTF8, .empty⟩, s)
  | q, s => Rehearsal.HostStage.answer q s

/-- A name is listed under the path as which it is shown, and under no other. -/
theorem listedAs_iff {name path : String} : ListedAs client provider name path ↔ shown name = path := by
  constructor
  · intro h
    let r : TableRow := ⟨name, "", "", "", 0, 0⟩
    have hprints : Prints client (printing [r])
        (.ofClient ⟨⟨.empty, []⟩, [], none, [], [], []⟩) ([] ++ r :: []) := ⟨.empty, rfl⟩
    obtain ⟨records, t, hrun, hpath⟩ := h _ _ _ [] [] r rfl hprints
    obtain ⟨records', t', hrun', hpaths⟩ := run_list_eq provider hprints
    obtain rfl := Except.ok.inj (congrArg Prod.fst (hrun.symm.trans hrun'))
    rw [hpaths] at hpath
    exact Option.some.inj hpath
  · rintro rfl σ answer s before after r rfl hprints
    obtain ⟨records, t, hrun, hpaths⟩ := run_list_eq provider hprints
    refine ⟨records, t, hrun, ?_⟩
    have hlength : (before.map fun r => shown r.name).length = before.length := List.length_map _
    rw [hpaths, List.map_append, List.map_cons, ← hlength,
      List.getElem?_append_right (Nat.le_refl _), Nat.sub_self]
    rfl

/-! ## Paths that are read back -/

variable (client provider) in
/-- A path is read back as it was written exactly if it survives.  Record a script under the
    path: the server reads the name of its row from the statement, and wherever the row stands
    in the table, listing through the client finds a record of the same path there. -/
theorem readBack_iff (dialect : Dialect) (time : Timestamp) (path hash : String) (speed : Nat) :
    (∃ name, firstLiteral? ((Change.record path hash speed).statement dialect time) = some name
        ∧ ListedAs client provider name path)
      ↔ Survives path.toList := by
  obtain ⟨front, rest, hfront, hrest, htext⟩ :=
    exists_toList_record dialect time path hash speed
  rw [firstLiteral?_of_toList hfront htext, ← shownLiteral?_double_iff hrest, shownLiteral?]
  -- How the literal was closed is the same on both sides; only the value that was read matters.
  generalize closeLiteral (Quoted.double '\'' path.toList ++ '\'' :: rest) = read
  cases read with
  | none => exact iff_of_false (fun ⟨_, hname, _⟩ => nomatch hname) nofun
  | some found =>
      have hshown : shown (String.ofList found.1) = path ↔ shownCell found.1 = path.toList := by
        rw [shown, String.toList_ofList, ← String.toList_inj, String.toList_ofList]
      constructor
      · rintro ⟨name, hname, hlisted⟩
        obtain rfl := Option.some.inj hname
        exact congrArg some (hshown.mp (listedAs_iff.mp hlisted))
      · intro hread
        exact ⟨_, rfl, listedAs_iff.mpr (hshown.mpr (Option.some.inj hread))⟩

/-- A client of a small project. -/
def smallClient : Client :=
  ⟨⟨"/usr/bin/mysql"⟩, ⟨"localhost", "3306", "dbup", "", "auth", .disabled⟩⟩

/-- A path with a tab is stored as it is, and listed with a pair in the place of the tab; for a
    path with a backslash the server stores another name. -/
theorem not_readBack_tab :
    (firstLiteral? ((Change.record "a\tb.sql" "" 0).statement .replaceInto .epoch) = some "a\tb.sql"
        ∧ ListedAs smallClient .nobody "a\tb.sql" "a\\tb.sql"
        ∧ ¬∃ name, firstLiteral? ((Change.record "a\tb.sql" "" 0).statement .replaceInto .epoch)
              = some name
            ∧ ListedAs smallClient .nobody name "a\tb.sql")
      ∧ firstLiteral? ((Change.record "a\\b.sql" "" 0).statement .replaceInto .epoch)
          = some "a\x08.sql"
        ∧ ¬∃ name, firstLiteral? ((Change.record "a\\b.sql" "" 0).statement .replaceInto .epoch)
              = some name
            ∧ ListedAs smallClient .nobody name "a\\b.sql" := by
  have htab : firstLiteral? ((Change.record "a\tb.sql" "" 0).statement .replaceInto .epoch)
      = some "a\tb.sql" := by decide +kernel
  have hslash : firstLiteral? ((Change.record "a\\b.sql" "" 0).statement .replaceInto .epoch)
      = some "a\x08.sql" := by decide +kernel
  refine ⟨⟨htab, listedAs_iff.mpr (by decide +kernel), ?_⟩, hslash, ?_⟩
  · rintro ⟨name, hname, hlisted⟩
    obtain rfl := Option.some.inj (htab.symm.trans hname)
    exact absurd (listedAs_iff.mp hlisted) (by decide +kernel)
  · rintro ⟨name, hname, hlisted⟩
    obtain rfl := Option.some.inj (hslash.symm.trans hname)
    exact absurd (listedAs_iff.mp hlisted) (by decide +kernel)

end SchemaMigration.Client
