import Mathlib.Data.List.Forall2
import SchemaMigration.Client.Database
import SchemaMigration.Proofs.Program.Trail

/-! # Script calls — which file the client is told to run

    A script is run by one call of the client, which names its file inside a command
    line of the client's own.  On the way there every backslash becomes a slash, so
    the client is told another file than the planned one wherever the name of a file
    holds a backslash:

    * `Alike` relates the paths that differ in the direction of slashes only;
    * `calls_runFile`: applying a script makes one call;
    * `runFile_calls_eq_iff`: two scripts are applied by the same call exactly if their
      paths are alike;
    * `scriptPath_eq_self_iff`: it is the path itself that the client is told exactly if
      there is no backslash in it. -/

namespace SchemaMigration.Client

open Program

/-! ## Paths in a command -/

/-- A character of a path as the client is told it. -/
def forward (c : Char) : Char := if c = '\\' then '/' else c

/-- The two directions of a slash. -/
def IsSlash (c : Char) : Prop := c = '/' ∨ c = '\\'

/-- The paths are the same but for the direction of slashes. -/
def Alike (p q : Path) : Prop :=
  List.Forall₂ (fun c d => c = d ∨ IsSlash c ∧ IsSlash d) p.text.toList q.text.toList

theorem forward_backslash : forward '\\' = '/' := if_pos rfl

theorem forward_of_ne {c : Char} (h : c ≠ '\\') : forward c = c := if_neg h

theorem forward_of_isSlash {c : Char} (h : IsSlash c) : forward c = '/' := by
  rcases h with rfl | rfl
  · rfl
  · exact forward_backslash

/-- What becomes a slash was one, in either direction. -/
theorem isSlash_of_forward {c : Char} (h : forward c = '/') : IsSlash c := by
  by_cases hc : c = '\\'
  · exact Or.inr hc
  · exact Or.inl (forward_of_ne hc ▸ h)

/-- Two characters become the same exactly if they are the same, or both are slashes. -/
theorem forward_eq_iff {c d : Char} : forward c = forward d ↔ c = d ∨ IsSlash c ∧ IsSlash d := by
  constructor
  · intro h
    -- Only a backslash changes, so it has to be told apart on either side.
    by_cases hc : c = '\\'
    · rw [hc, forward_backslash] at h
      exact Or.inr ⟨Or.inr hc, isSlash_of_forward h.symm⟩
    by_cases hd : d = '\\'
    · rw [hd, forward_backslash] at h
      exact Or.inr ⟨isSlash_of_forward h, Or.inr hd⟩
    · rw [forward_of_ne hc, forward_of_ne hd] at h
      exact Or.inl h
  · rintro (rfl | ⟨hc, hd⟩)
    · rfl
    · rw [forward_of_isSlash hc, forward_of_isSlash hd]

variable {p q : Path}

theorem scriptPath_eq (p : Path) :
    scriptPath p = String.ofList (p.text.toList.map forward) := rfl

/-- The client is told the same path for two paths exactly if they are alike. -/
theorem scriptPath_eq_iff : scriptPath p = scriptPath q ↔ Alike p q := by
  rw [scriptPath_eq, scriptPath_eq, String.ofList_inj, ← List.forall₂_eq_eq_eq,
    List.forall₂_map_left_iff, List.forall₂_map_right_iff]
  exact ⟨List.Forall₂.imp fun _ _ => forward_eq_iff.mp,
    List.Forall₂.imp fun _ _ => forward_eq_iff.mpr⟩

theorem map_forward_of_notMem {cs : List Char} (h : '\\' ∉ cs) : cs.map forward = cs := by
  refine (List.map_congr_left fun c hc => ?_).trans (List.map_id cs)
  exact forward_of_ne fun hslash => h (hslash ▸ hc)

/-- The client is told the path itself exactly if there is no backslash in it. -/
theorem scriptPath_eq_self_iff : scriptPath p = p.text ↔ '\\' ∉ p.text.toList := by
  rw [scriptPath_eq, ← String.toList_inj, String.toList_ofList]
  constructor
  · intro h hmem
    rw [← h] at hmem
    obtain ⟨c, -, hc⟩ := List.mem_map.mp hmem
    -- A backslash is never the image of a character: it would be one itself.
    by_cases hslash : c = '\\'
    · rw [hslash, forward_backslash] at hc
      exact absurd hc (by decide)
    · exact hslash (forward_of_ne hslash ▸ hc)
  · exact map_forward_of_notMem

/-! ## Calls -/

/-- A command is told apart by the path in it. -/
theorem command_inj {a b : String} :
    s!"BEGIN; SOURCE {a}; COMMIT;" = s!"BEGIN; SOURCE {b}; COMMIT;" ↔ a = b := by
  rw [String.append_left_inj, String.append_right_inj]
  exact Iff.rfl

/-- With one connection, arguments are told apart by the command among them. -/
theorem arguments_inj (c : Connection) {a b : String} :
    connectionArguments c ++ ["-e", a] ++ databaseArguments c
      = connectionArguments c ++ ["-e", b] ++ databaseArguments c ↔ a = b := by
  rw [List.append_left_inj, List.append_right_inj, List.cons_inj_right, List.singleton_inj]

/-- The client is called in the same way for two paths exactly if they are alike. -/
theorem fileArguments_eq_iff (c : Connection) :
    fileArguments c p = fileArguments c q ↔ Alike p q :=
  (arguments_inj c).trans (command_inj.trans scriptPath_eq_iff)

/-- The call of a program that an exchange is. -/
def called? : Exchange interface → Option Invocation
  | ⟨.call i, _⟩ => some i
  | _ => none

section

variable {σ τ : Type} {answer : (q : Request) → σ → q.Reply × σ}

/-- The calls that a program makes, in order. -/
def calls {α : Type} (answer : (q : Request) → σ → q.Reply × σ) (program : Program interface α)
    (s : σ) : List Invocation :=
  (program.trail answer s).filterMap fun m => called? m.1

/-- A request to report a line. -/
def Reports (q : Request) : Prop := ∃ line, q = .log line

theorem logAll_asks (lines : List Log.Line) : (logAll lines).Asks Reports := by
  induction lines with
  | nil => trivial
  | cons line rest ih => exact ⟨⟨line, rfl⟩, fun _ => ih⟩

theorem called?_of_reports {m : Exchange interface} (h : Reports m.1) : called? m = none := by
  obtain ⟨q, reply⟩ := m
  obtain ⟨line, rfl⟩ := h
  rfl

/-- Applying a script is a call, and then its output is reported. -/
theorem runFile_eq (client : Client) (c : Connection) (p : Path) :
    ∃ next, client.runFile c p = .ask (.call (client.invocation c (fileArguments c p))) next
      ∧ ∀ r, (next r).Asks Reports := by
  refine ⟨_, rfl, fun r => ?_⟩
  cases r with
  | ok output => exact (logAll_asks _).bind fun _ => (logAll_asks _).bind fun _ => trivial
  | error cause => trivial

/-- However the call ends, it is the only one. -/
theorem calls_runFile (client : Client) (c : Connection) (p : Path) (s : σ) :
    calls answer (client.runFile c p) s = [client.invocation c (fileArguments c p)] := by
  obtain ⟨next, heq, hnext⟩ := runFile_eq client c p
  rw [calls, heq, trail_ask]
  exact congrArg (client.invocation c (fileArguments c p) :: ·)
    ((hnext _).filterMap_trail (fun _ => called?_of_reports) _)

/-- Two scripts are applied by the same call exactly if their paths differ in the direction of
    slashes only, whatever the connection is and however the calls end. -/
theorem runFile_calls_eq_iff (client : Client) (c : Connection) (p q : Path)
    (answer : (q : Request) → σ → q.Reply × σ) (other : (q : Request) → τ → q.Reply × τ)
    (s : σ) (t : τ) :
    (fileArguments c p = fileArguments c q ↔ Alike p q)
      ∧ (calls answer (client.runFile c p) s = calls other (client.runFile c q) t ↔ Alike p q)
      ∧ (calls answer (client.runFile c p) s = [client.invocation c
          (connectionArguments c ++ ["-e", s!"BEGIN; SOURCE {p.text}; COMMIT;"]
            ++ databaseArguments c)] ↔ '\\' ∉ p.text.toList) := by
  have hcall : ∀ arguments, [client.invocation c (fileArguments c p)]
      = [client.invocation c arguments] ↔ fileArguments c p = arguments := by
    intro arguments
    rw [List.singleton_inj, invocation, invocation, Invocation.mk.injEq]
    exact ⟨fun h => h.2.1, fun h => ⟨rfl, h, rfl⟩⟩
  refine ⟨fileArguments_eq_iff c, ?_, ?_⟩
  · rw [calls_runFile, calls_runFile, hcall, fileArguments_eq_iff]
  · rw [calls_runFile, hcall]
    exact (arguments_inj c).trans (command_inj.trans scriptPath_eq_self_iff)

/-- A file in a directory, and one whose name holds a backslash: the call is the same. -/
theorem fileArguments_twins :
    fileArguments ⟨"127.0.0.1", "3306", "trinity", "s3cret", "auth", .disabled⟩ ⟨"/s/a\\b.sql"⟩
        = fileArguments ⟨"127.0.0.1", "3306", "trinity", "s3cret", "auth", .disabled⟩
          ⟨"/s/a/b.sql"⟩
      ∧ (⟨"/s/a\\b.sql"⟩ : Path) ≠ ⟨"/s/a/b.sql"⟩ := by
  have htold : scriptPath ⟨"/s/a\\b.sql"⟩ = scriptPath ⟨"/s/a/b.sql"⟩ := by cbv
  exact ⟨(fileArguments_eq_iff _).mpr (scriptPath_eq_iff.mp htold), by decide⟩

end

end SchemaMigration.Client
