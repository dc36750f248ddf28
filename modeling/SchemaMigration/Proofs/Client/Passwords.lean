import Mathlib
import SchemaMigration.Proofs.Client.Scripts
import SchemaMigration.Proofs.Database.Connection

/-! # Passwords — what does not tell them apart

    A password comes in as the fourth field of a connection string and goes out in the
    environment of the client.  Take two strings that differ in it, and follow both:

    * `read_of_split`: the same is read but for the password, or refused for the same
      reason, however many fields there are;
    * `SeenAlike`: connections that agree in the rest are rendered alike and give the
      client the same arguments;
    * `UsedAlike`: with the passwords left out of the calls, using the client is one
      program, so its results and reports are the same.

    `password_unseen` follows the password from the string to the client. -/

namespace SchemaMigration

namespace Connection

/-- The strings join the same fields but for the fourth one; no field holds a separator. -/
def ShareOtherFields (value other : String) : Prop :=
  ∃ (front rest : List String) (password password' : String), front.length = 3
    ∧ (∀ field ∈ front ++ password :: password' :: rest, ';' ∉ field.toList)
    ∧ String.intercalate ";" (front ++ password :: rest) = value
    ∧ String.intercalate ";" (front ++ password' :: rest) = other

/-- The connections agree in everything but the password. -/
def Agree (c c' : Connection) : Prop := c' = { c with password := c'.password }

/-- Both readings refuse with the same error, or both find connections that agree. -/
inductive ReadAlike : Except InputError Connection → Except InputError Connection → Prop
  | refused (e : InputError) : ReadAlike (.error e) (.error e)
  | found {c c' : Connection} (h : Agree c c') : ReadAlike (.ok c) (.ok c')

variable {value other password password' : String} {c c' : Connection}

/-! ## Reading -/

/-- The checks do not look at the password. -/
theorem checked_withPassword (c : Connection) (password : String) :
    ({ c with password } : Connection).checked
      = c.checked.map fun found => { found with password } := by
  rw [checked, checked]
  by_cases hplace : c.host.isEmpty ∨ c.portOrSocket.isEmpty
  · rw [if_pos hplace, if_pos hplace]
    rfl
  · rw [if_neg hplace, if_neg hplace]
    by_cases hdatabase : c.database.isEmpty
    · rw [if_pos hdatabase, if_pos hdatabase]
      rfl
    · rw [if_neg hdatabase, if_neg hdatabase]
      rfl

/-- Where what follows a first part differs by a map, so does the whole. -/
theorem bind_eq_map {ε α β : Type} {f : β → β} {next next' : α → Except ε β} (x : Except ε α)
    (h : ∀ a, next' a = (next a).map f) : (x >>= next') = (x >>= next).map f := by
  cases x with
  | error e => rfl
  | ok a => exact h a

/-- With another fourth field the same is read, but for the password. -/
theorem read_of_split {host port user : String} {rest : List String}
    (hvalue : Text.split ';' value = [host, port, user, password] ++ rest)
    (hother : Text.split ';' other = [host, port, user, password'] ++ rest) :
    read other = (read value).map fun found => { found with password := password' } := by
  rw [read, read, hvalue, hother]
  -- How the string is read depends on the number of fields, and so on those behind the fourth.
  rcases rest with _ | ⟨database, _ | ⟨option, _ | ⟨further, rest⟩⟩⟩
  · rfl
  · exact checked_withPassword (ofFields host port user password database .disabled) password'
  · exact bind_eq_map (readTls option) fun tls =>
      checked_withPassword (ofFields host port user password database tls) password'
  · rfl

theorem readFor_map (label : String) {f : Connection → Connection}
    (h : read other = (read value).map f) : readFor label other = (readFor label value).map f := by
  rw [readFor, readFor, h]
  cases read value with
  | ok found => rfl
  | error fault => rfl

theorem readAlike_map (result : Except InputError Connection) (password : String) :
    ReadAlike result (result.map fun found => { found with password }) := by
  cases result with
  | ok found => exact .found rfl
  | error e => exact .refused e

/-- Strings that share the other fields are read alike. -/
theorem readAlike_of_shareOtherFields (label : String) (h : ShareOtherFields value other) :
    ReadAlike (readFor label value) (readFor label other) := by
  obtain ⟨front, rest, password, password', hlength, hplain, hvalue, hother⟩ := h
  simp only [List.forall_mem_append, List.forall_mem_cons] at hplain
  obtain ⟨hfront, hpassword, hpassword', hrest⟩ := hplain
  have hsplit : ∀ {fourth joined : String}, ';' ∉ fourth.toList →
      String.intercalate ";" (front ++ fourth :: rest) = joined →
      Text.split ';' joined = front ++ fourth :: rest := fun hfourth hjoined =>
    Text.split_eq_iff.mpr ⟨List.append_ne_nil_of_right_ne_nil _ (List.cons_ne_nil _ _),
      List.forall_mem_append.mpr ⟨hfront, List.forall_mem_cons.mpr ⟨hfourth, hrest⟩⟩, hjoined⟩
  obtain ⟨host, port, user, rfl⟩ := List.length_eq_three.mp hlength
  rw [readFor_map label (read_of_split (hsplit hpassword hvalue) (hsplit hpassword' hother))]
  exact readAlike_map _ password'

end Connection

/-! ## Rendering and calling -/

namespace Client

/-- Asks a question around the client, with the password left out of a call. -/
def conceal : (q : Request) → Program interface q.Reply
  | .call i => call { i with password := none }
  | q => Program.request (I := interface) q

/-- The program with the passwords left out of its calls. -/
def concealed {α : Type} (program : Program interface α) : Program interface α :=
  Program.via (I := interface) conceal program

end Client

namespace Connection

open Client

/-- Nothing that is shown of the connections, or handed to the client in its arguments, tells
    them apart. -/
structure SeenAlike (c c' : Connection) : Prop where
  rendered : c.render = c'.render
  diagnosed : c.diagnostic = c'.diagnostic
  renderedBare : c.withoutDatabase.render = c'.withoutDatabase.render
  diagnosedBare : c.withoutDatabase.diagnostic = c'.withoutDatabase.diagnostic
  files : ∀ path, fileArguments c path = fileArguments c' path
  queries : ∀ sql, queryArguments c sql = queryArguments c' sql

/-- Nothing that comes of using a client with the connections tells them apart, but for the
    passwords in its calls. -/
structure UsedAlike (c c' : Connection) : Prop where
  database : ∀ (program : Path) (q : Database.Request),
    concealed (answer ⟨program, c⟩ q) = concealed (answer ⟨program, c'⟩ q)
  runFile : ∀ (client : Client) (path : Path),
    concealed (client.runFile c path) = concealed (client.runFile c' path)
  query : ∀ (client : Client) (sql : String),
    concealed (client.query c sql) = concealed (client.query c' sql)

variable {c c' : Connection}

theorem Agree.seenAlike (h : Agree c c') : SeenAlike c c' := by
  rw [h]
  exact ⟨rfl, rfl, rfl, rfl, fun _ => rfl, fun _ => rfl⟩

theorem Agree.usedAlike (h : Agree c c') : UsedAlike c c' := by
  rw [h]
  -- Nothing but the password of a call depends on the password, and no answer is about it.
  constructor
  case database =>
    intro program q
    cases q with
    | execute sql => rfl
    | executeBatch sql => rfl
    | query sql => rfl
    | «exists» => rfl
    | tables => rfl
  case runFile => exact fun client path => rfl
  case query => exact fun client sql => rfl

/-- The password shows nowhere but in the environment of the client.  Strings that differ in
    their fourth fields are refused with the same error, or read as connections that agree in
    everything but the password; and connections that do so look the same in every rendering
    and every argument, and lead to the same calls, reports and results of the client, but for
    the passwords of the calls. -/
theorem password_unseen (label : String) {value other : String}
    (h : ShareOtherFields value other) :
    ReadAlike (readFor label value) (readFor label other)
      ∧ ∀ c c', Agree c c' → SeenAlike c c' ∧ UsedAlike c c' :=
  ⟨readAlike_of_shareOtherFields label h, fun _ _ hagree => ⟨hagree.seenAlike, hagree.usedAlike⟩⟩

/-- A password of one blank and an empty one, of which the client is told nothing. -/
theorem password_unseen_blank :
    ShareOtherFields "db;3306;trinity; ;auth; ssl" "db;3306;trinity;;auth; ssl"
      ∧ ReadAlike (readFor "auth" "db;3306;trinity; ;auth; ssl")
          (readFor "auth" "db;3306;trinity;;auth; ssl")
      ∧ readFor "auth" "db;3306;trinity; ;auth; ssl"
          = .ok ⟨"db", "3306", "trinity", " ", "auth", .required⟩
      ∧ Agree ⟨"db", "3306", "trinity", " ", "auth", .required⟩
          ⟨"db", "3306", "trinity", "", "auth", .required⟩
      ∧ SeenAlike ⟨"db", "3306", "trinity", " ", "auth", .required⟩
          ⟨"db", "3306", "trinity", "", "auth", .required⟩ := by
  have hshare : ShareOtherFields "db;3306;trinity; ;auth; ssl" "db;3306;trinity;;auth; ssl" :=
    ⟨["db", "3306", "trinity"], ["auth", " ssl"], " ", "", rfl, by decide, rfl, rfl⟩
  have hagree : Agree ⟨"db", "3306", "trinity", " ", "auth", .required⟩
      ⟨"db", "3306", "trinity", "", "auth", .required⟩ := rfl
  obtain ⟨hread, halike⟩ := password_unseen "auth" hshare
  exact ⟨hshare, hread, by cbv, hagree, (halike _ _ hagree).1⟩

end Connection

end SchemaMigration
