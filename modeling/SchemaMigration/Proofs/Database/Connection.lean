import SchemaMigration.InputError
import SchemaMigration.Proofs.Text.Blank
import SchemaMigration.Proofs.Text.Fields

/-! # Connection strings — what is accepted, and what it stands for

    Reading cuts a string into fields, trims most of them and refuses in four ways.
    The grammar behind it is said without any of this:

    * `Fields` are the fields as they are written, and `Fields.Of` says of which string;
    * `Fields.Acceptable` is the grammar, `Fields.Denotes` what accepted fields stand for;
    * `read_iff`: reading finds exactly what the fields of a string stand for;
    * `read_write_iff`: of the connections that are written, exactly the writable ones
      are read back.

    `readFor_iff` puts these together for reading on behalf of a label. -/

namespace SchemaMigration.Connection

open Text

/-- The fields of a connection string, as they are written. -/
structure Fields where
  host : String
  portOrSocket : String
  user : String
  password : String
  database : String
  option : Option String

namespace Fields

/-- The fields in order. -/
def toList (f : Fields) : List String :=
  [f.host, f.portOrSocket, f.user, f.password, f.database] ++ f.option.toList

/-- A string has these fields: none of them holds a separator, and the string joins them. -/
structure Of (f : Fields) (value : String) : Prop where
  plain : ∀ field ∈ f.toList, ';' ∉ field.toList
  joined : String.intercalate ";" f.toList = value

/-- The grammar: there is a host, a port or socket, and a database; the option is blank or
    asks for encryption. -/
structure Acceptable (f : Fields) : Prop where
  host : ¬Blank f.host.toList
  portOrSocket : ¬Blank f.portOrSocket.toList
  database : ¬Blank f.database.toList
  option : ∀ option ∈ f.option, Blank option.toList ∨ Trimmed option "ssl"

/-- The fields stand for a connection: its parts are the fields without the blanks around
    them, but the password is the field itself, and it is encrypted if that is asked for. -/
structure Denotes (f : Fields) (c : Connection) : Prop where
  host : Trimmed f.host c.host
  portOrSocket : Trimmed f.portOrSocket c.portOrSocket
  user : Trimmed f.user c.user
  password : f.password = c.password
  database : Trimmed f.database c.database
  tls : c.tls = .required ↔ ∃ option ∈ f.option, Trimmed option "ssl"

end Fields

/-- The connection can be written as a string: no part holds a separator, the trimmed parts
    have no blanks at their ends, and those that must be there are. -/
structure Writable (c : Connection) : Prop where
  plain : ∀ part ∈ [c.host, c.portOrSocket, c.user, c.password, c.database], ';' ∉ part.toList
  bare : ∀ part ∈ [c.host, c.portOrSocket, c.user, c.database], Bare part.toList
  present : ∀ part ∈ [c.host, c.portOrSocket, c.database], part ≠ ""

variable {label value : String} {f : Fields} {c c' : Connection} {tls : Tls}

/-! ## The parts of a reading -/

/-- The last field is read as one of two choices. -/
theorem readTls_iff {option : String} : readTls option = .ok tls
    ↔ (Trimmed option "" ∧ tls = .disabled) ∨ (Trimmed option "ssl" ∧ tls = .required) := by
  constructor
  · intro h
    rw [readTls] at h
    split at h
    · next hempty => exact Or.inl ⟨trim_eq_iff.mp hempty, (Except.ok.inj h).symm⟩
    · next hssl => exact Or.inr ⟨trim_eq_iff.mp hssl, (Except.ok.inj h).symm⟩
    · exact nomatch h
  · rintro (⟨h, rfl⟩ | ⟨h, rfl⟩)
    · rw [readTls, trim_eq_iff.mpr h]
      rfl
    · rw [readTls, trim_eq_iff.mpr h]
      rfl

/-- A connection that passes the checks is not altered. -/
theorem checked_iff : c.checked = .ok c'
    ↔ c = c' ∧ c.host ≠ "" ∧ c.portOrSocket ≠ "" ∧ c.database ≠ "" := by
  simp only [checked, String.isEmpty_iff]
  by_cases hplace : c.host = "" ∨ c.portOrSocket = ""
  · rw [if_pos hplace]
    exact iff_of_false nofun fun h => hplace.elim h.2.1 h.2.2.1
  · rw [if_neg hplace]
    by_cases hdatabase : c.database = ""
    · rw [if_pos hdatabase]
      exact iff_of_false nofun fun h => h.2.2.2 hdatabase
    · rw [if_neg hdatabase, Except.ok.injEq]
      obtain ⟨hhost, hport⟩ := not_or.mp hplace
      exact (and_iff_left ⟨hhost, hport, hdatabase⟩).symm

namespace Fields

/-- A text has these fields exactly if cutting it at the semicolons gives them. -/
theorem of_iff : f.Of value ↔ split ';' value = f.toList := by
  rw [split_eq_iff]
  exact ⟨fun h => ⟨List.cons_ne_nil _ _, h.plain, h.joined⟩, fun h => ⟨h.2.1, h.2.2⟩⟩

/-- What the last field asks for, if there is one. -/
def encryption (f : Fields) : Except ConnectionFault Tls := f.option.elim (.ok .disabled) readTls

/-- The connection of the fields, before it is checked. -/
def connection (f : Fields) (tls : Tls) : Connection :=
  ofFields f.host f.portOrSocket f.user f.password f.database tls

/-- A blank option does not ask for encryption. -/
theorem not_ssl_of_blank {option : String} (h : Blank option.toList) : ¬Trimmed option "ssl" := by
  intro hssl
  have heq : "" = "ssl" := (trim_eq_empty_iff.mpr h).symm.trans (trim_eq_iff.mpr hssl)
  exact absurd heq (by decide)

/-- The option is accepted if it is blank or asks for encryption, which is what it means. -/
theorem encryption_iff : f.encryption = .ok tls
    ↔ (∀ option ∈ f.option, Blank option.toList ∨ Trimmed option "ssl")
      ∧ (tls = .required ↔ ∃ option ∈ f.option, Trimmed option "ssl") := by
  rw [encryption]
  cases f.option with
  | none =>
      show Except.ok Tls.disabled = .ok tls ↔ _
      cases tls with
      | disabled => exact iff_of_true rfl ⟨nofun, iff_of_false nofun nofun⟩
      | required => exact iff_of_false nofun fun h => nomatch h.2.mp rfl
  | some option =>
      simp only [Option.mem_some_iff, forall_eq', exists_eq_left']
      show readTls option = .ok tls ↔ _
      rw [readTls_iff, trimmed_empty_iff]
      cases tls with
      | disabled =>
          simp only [reduceCtorEq, and_true, and_false, or_false, false_iff]
          exact ⟨fun h => ⟨Or.inl h, not_ssl_of_blank h⟩, fun h => h.1.resolve_right h.2⟩
      | required =>
          simp only [reduceCtorEq, and_true, and_false, false_or, true_iff]
          exact ⟨fun h => ⟨Or.inr h, h⟩, And.right⟩

/-- The connection of fields passes the checks if none of the needed ones is blank. -/
theorem checked_connection_iff : (f.connection tls).checked = .ok c ↔ f.connection tls = c
    ∧ ¬Blank f.host.toList ∧ ¬Blank f.portOrSocket.toList ∧ ¬Blank f.database.toList := by
  rw [checked_iff, ← trim_eq_empty_iff, ← trim_eq_empty_iff, ← trim_eq_empty_iff]
  exact Iff.rfl

/-- Fields stand for one connection only, which is the one that is made of them. -/
theorem denotes_iff : f.Denotes c ↔ f.connection c.tls = c
    ∧ (c.tls = .required ↔ ∃ option ∈ f.option, Trimmed option "ssl") := by
  obtain ⟨host, portOrSocket, user, password, database, tls⟩ := c
  rw [connection, ofFields, Connection.mk.injEq, trim_eq_iff, trim_eq_iff, trim_eq_iff, trim_eq_iff]
  constructor
  · rintro ⟨hhost, hport, huser, hpassword, hdatabase, htls⟩
    exact ⟨⟨hhost, hport, huser, hpassword, hdatabase, rfl⟩, htls⟩
  · rintro ⟨⟨hhost, hport, huser, hpassword, hdatabase, -⟩, htls⟩
    exact ⟨hhost, hport, huser, hpassword, hdatabase, htls⟩

/-- Any fields stand for a connection, acceptable or not. -/
theorem exists_denotes (f : Fields) : ∃ c, f.Denotes c := by
  by_cases hasked : ∃ option ∈ f.option, Trimmed option "ssl"
  · exact ⟨f.connection .required, denotes_iff.mpr ⟨rfl, iff_of_true rfl hasked⟩⟩
  · exact ⟨f.connection .disabled, denotes_iff.mpr ⟨rfl, iff_of_false nofun hasked⟩⟩

end Fields

/-! ## Whole strings -/

/-- Of a string with fields, the last one is read first, and then the rest is checked. -/
theorem read_eq (h : f.Of value) :
    read value = f.encryption >>= fun tls => (f.connection tls).checked := by
  obtain ⟨host, port, user, password, database, option⟩ := f
  rw [read, Fields.of_iff.mp h]
  cases option with
  | none => rfl
  | some option => rfl

/-- Strings with another number of fields are refused. -/
theorem exists_of_read (h : read value = .ok c) : ∃ f : Fields, f.Of value := by
  rw [read] at h
  split at h
  · next host port user password database hsplit =>
      exact ⟨⟨host, port, user, password, database, none⟩, Fields.of_iff.mpr hsplit⟩
  · next host port user password database option hsplit =>
      exact ⟨⟨host, port, user, password, database, some option⟩, Fields.of_iff.mpr hsplit⟩
  · exact nomatch h

/-- A sequence succeeds exactly if both of its parts do. -/
theorem bind_eq_ok_iff {ε α β : Type} {x : Except ε α} {next : α → Except ε β} {b : β} :
    (x >>= next) = .ok b ↔ ∃ a, x = .ok a ∧ next a = .ok b := by
  cases x with
  | error e => exact iff_of_false nofun fun ⟨_, h, _⟩ => nomatch h
  | ok a =>
      constructor
      · exact fun h => ⟨a, rfl, h⟩
      · rintro ⟨_, ⟨⟩, h⟩
        exact h

/-- A connection is read from the fields of its string. -/
theorem read_eq_ok_iff : read value = .ok c ↔ ∃ f : Fields, f.Of value
    ∧ ∃ tls, f.encryption = .ok tls ∧ (f.connection tls).checked = .ok c := by
  constructor
  · intro h
    obtain ⟨f, hf⟩ := exists_of_read h
    exact ⟨f, hf, bind_eq_ok_iff.mp (read_eq hf ▸ h)⟩
  · rintro ⟨f, hf, hboth⟩
    exact (read_eq hf).trans (bind_eq_ok_iff.mpr hboth)

/-- Reading accepts exactly the grammar, and finds what the fields stand for. -/
theorem read_iff : read value = .ok c
    ↔ ∃ f : Fields, f.Of value ∧ f.Acceptable ∧ f.Denotes c := by
  rw [read_eq_ok_iff]
  refine exists_congr fun f => and_congr_right fun _ => ?_
  constructor
  · rintro ⟨tls, htls, hchecked⟩
    obtain ⟨rfl, hhost, hport, hdatabase⟩ := Fields.checked_connection_iff.mp hchecked
    obtain ⟨hoption, hasked⟩ := Fields.encryption_iff.mp htls
    exact ⟨⟨hhost, hport, hdatabase, hoption⟩, Fields.denotes_iff.mpr ⟨rfl, hasked⟩⟩
  · rintro ⟨⟨hhost, hport, hdatabase, hoption⟩, hdenotes⟩
    obtain ⟨heq, hasked⟩ := Fields.denotes_iff.mp hdenotes
    exact ⟨c.tls, Fields.encryption_iff.mpr ⟨hoption, hasked⟩,
      Fields.checked_connection_iff.mpr ⟨heq, hhost, hport, hdatabase⟩⟩

/-! ## Written connections -/

/-- What is read can be written. -/
theorem writable_of_read (h : read value = .ok c) : c.Writable := by
  obtain ⟨f, hf, haccept, hdenotes⟩ := read_iff.mp h
  have hplain : ∀ {field part : String}, Trimmed field part → field ∈ f.toList →
      ';' ∉ part.toList := fun htrim hmem => htrim.notMem (hf.plain _ hmem)
  have hpresent : ∀ {field part : String}, Trimmed field part → ¬Blank field.toList → part ≠ "" :=
    fun htrim hblank hempty => hblank (trimmed_empty_iff.mp (hempty ▸ htrim))
  constructor
  -- What is read has no semicolon, since each part stood between two of them.
  case plain =>
    have hpassword : ';' ∉ c.password.toList :=
      hdenotes.password ▸ hf.plain f.password (by simp [Fields.toList])
    simp only [List.forall_mem_cons]
    refine ⟨hplain hdenotes.host ?_, hplain hdenotes.portOrSocket ?_, hplain hdenotes.user ?_,
      hpassword, hplain hdenotes.database ?_, List.forall_mem_nil _⟩
    all_goals simp [Fields.toList]
  case bare =>
    simp only [List.forall_mem_cons]
    exact ⟨hdenotes.host.bare, hdenotes.portOrSocket.bare, hdenotes.user.bare,
      hdenotes.database.bare, List.forall_mem_nil _⟩
  case present =>
    simp only [List.forall_mem_cons]
    exact ⟨hpresent hdenotes.host haccept.host,
      hpresent hdenotes.portOrSocket haccept.portOrSocket,
      hpresent hdenotes.database haccept.database, List.forall_mem_nil _⟩

/-- The last field of a written connection. -/
def optionOf (c : Connection) : Option String :=
  match c.tls with
  | .disabled => none
  | .required => some "ssl"

/-- The fields as which a connection is written. -/
def fieldsOf (c : Connection) : Fields :=
  ⟨c.host, c.portOrSocket, c.user, c.password, c.database, c.optionOf⟩

/-- A connection is written as its fields, joined by semicolons. -/
theorem write_eq (c : Connection) : c.write = String.intercalate ";" c.fieldsOf.toList := by
  obtain ⟨host, portOrSocket, user, password, database, tls⟩ := c
  cases tls with
  | disabled => rfl
  | required => rfl

/-- The option is written exactly where encryption is required. -/
theorem mem_optionOf {option : String} :
    option ∈ c.optionOf ↔ c.tls = .required ∧ option = "ssl" := by
  rw [optionOf]
  cases c.tls with
  | disabled => exact iff_of_false nofun nofun
  | required => exact Option.mem_some_iff.trans ⟨fun h => ⟨rfl, h.symm⟩, fun h => h.2.symm⟩

theorem trimmed_ssl : Trimmed "ssl" "ssl" := by
  refine trimmed_self_iff.mpr ⟨?_, ?_⟩
  · rintro c ⟨⟩
    rfl
  · rintro c ⟨⟩
    rfl

namespace Writable

/-- A writable connection is written as its fields. -/
theorem of_write (h : c.Writable) : c.fieldsOf.Of c.write where
  plain := by
    refine List.forall_mem_append.mpr ⟨h.plain, fun field hfield => ?_⟩
    rw [(mem_optionOf.mp (Option.mem_toList.mp hfield)).2]
    decide
  joined := (write_eq c).symm

/-- What is written can be accepted. -/
theorem acceptable (h : c.Writable) : c.fieldsOf.Acceptable where
  host := not_blank_of_bare (h.bare c.host (by simp)) (h.present c.host (by simp))
  portOrSocket :=
    not_blank_of_bare (h.bare c.portOrSocket (by simp)) (h.present c.portOrSocket (by simp))
  database := not_blank_of_bare (h.bare c.database (by simp)) (h.present c.database (by simp))
  option := by
    intro option hoption
    rw [(mem_optionOf.mp hoption).2]
    exact Or.inr trimmed_ssl

/-- What is written means the connection that it was written for. -/
theorem denotes (h : c.Writable) : c.fieldsOf.Denotes c where
  host := trimmed_self_iff.mpr (h.bare c.host (by simp))
  portOrSocket := trimmed_self_iff.mpr (h.bare c.portOrSocket (by simp))
  user := trimmed_self_iff.mpr (h.bare c.user (by simp))
  password := rfl
  database := trimmed_self_iff.mpr (h.bare c.database (by simp))
  tls := by
    constructor
    · exact fun htls => ⟨"ssl", mem_optionOf.mpr ⟨htls, rfl⟩, trimmed_ssl⟩
    · rintro ⟨option, hoption, -⟩
      exact (mem_optionOf.mp hoption).1

end Writable

/-- Exactly the writable connections are read back from what is written. -/
theorem read_write_iff : read c.write = .ok c ↔ c.Writable :=
  ⟨writable_of_read, fun h =>
    read_iff.mpr ⟨c.fieldsOf, h.of_write, h.acceptable, h.denotes⟩⟩

/-! ## Reading on behalf of a label -/

/-- The label of a connection plays no part in whether it can be read. -/
theorem readFor_eq_ok_iff : readFor label value = .ok c ↔ read value = .ok c := by
  rw [readFor]
  cases read value with
  | ok found =>
      show Except.ok found = _ ↔ _
      rw [Except.ok.injEq, Except.ok.injEq]
  | error fault => exact iff_of_false nofun nofun

/-- Whatever the label is, a string is accepted exactly if its fields are acceptable, what is
    read is what they stand for, and a connection is read back from what is written of it
    exactly if it is writable. -/
theorem readFor_iff (label value : String) (c : Connection) :
    ((∃ found, readFor label value = .ok found) ↔ ∃ f : Fields, f.Of value ∧ f.Acceptable)
      ∧ (readFor label value = .ok c ↔ ∃ f : Fields, f.Of value ∧ f.Acceptable ∧ f.Denotes c)
      ∧ (readFor label c.write = .ok c ↔ c.Writable) := by
  rw [readFor_eq_ok_iff, readFor_eq_ok_iff, read_write_iff]
  refine ⟨?_, read_iff, Iff.rfl⟩
  constructor
  · rintro ⟨found, hfound⟩
    obtain ⟨f, hf, haccept, -⟩ := read_iff.mp (readFor_eq_ok_iff.mp hfound)
    exact ⟨f, hf, haccept⟩
  · rintro ⟨f, hf, haccept⟩
    obtain ⟨found, hfound⟩ := f.exists_denotes
    exact ⟨found, readFor_eq_ok_iff.mpr (read_iff.mpr ⟨f, hf, haccept, hfound⟩)⟩

end SchemaMigration.Connection
