import Mathlib.Logic.Function.Basic
import SchemaMigration.Download
import SchemaMigration.Proofs.Program.Trail

/-! # Replacement — a download takes the place of a file as a whole

    A document arrives in any number of pieces and may break off behind each of them,
    and every call that works on files can fail.  Half a document must not be taken for
    a whole one, so it is written beside the destination and moved there at the end.

    * `Disk` is a place for files: what becomes of them when a call succeeds, and what
      may become of them when it fails;
    * `complaint?` is the reason that an exchange gives for a failure;
    * `Filling` is what holds while the temporary file is written, and is kept by each
      piece (`appendAll_fills`);
    * `store_stores` and `replaceWith_stores` follow the way to the destination, with
      every early return on it;
    * `run_replaces_whole` puts this together, for the end of a download and for every
      moment before;
    * `Unreliable.disk` is a disk on which any calls can be made to fail. -/

namespace SchemaMigration

/-- The pieces of a body, one behind the other. -/
def Http.Body.content (body : Http.Body) : ByteArray := body.pieces.foldl (· ++ ·) .empty

namespace Download

open Program

/-! ## Disks -/

/-- Files that nobody else changes during a download.  What was handed over for a file may
    still be on its way to it, until the file is finished. -/
structure Disk (σ Place : Type) [DecidableEq Place] where
  answer : (q : Request) → σ → q.Reply × σ
  /-- Where a path leads to, which may be the same for paths of different text. -/
  place : Path → Place
  /-- What the file at a place holds, if there is one. -/
  held : σ → Place → Option ByteArray
  /-- The path is that of a temporary file that was made, and neither moved nor dropped. -/
  owned : σ → Path → Prop
  /-- What was handed over for the file at a place since it was made. -/
  taken : σ → Place → ByteArray
  fetches : ∀ url s, held (answer (.fetch url) s).2 = held s
  logs : ∀ line s, held (answer (.log line) s).2 = held s
  /-- Directories are no files, whether they can be made or not. -/
  directories : ∀ directory s, held (answer (.makeDirectory directory) s).2 = held s
  /-- A temporary file is a new one. -/
  makes : ∀ directory s temporary t, answer (.makeTemporary directory) s = (.ok temporary, t) →
    owned t temporary ∧ held s (place temporary) = none
      ∧ held t = Function.update (held s) (place temporary) (some .empty)
      ∧ taken t (place temporary) = .empty
  makesNone : ∀ directory s cause t, answer (.makeTemporary directory) s = (.error cause, t) →
    held t = held s
  /-- Writing a file may leave anything in it, but leaves the others alone. -/
  writes : ∀ temporary piece s, owned s temporary →
    owned (answer (.append temporary piece) s).2 temporary
      ∧ ∀ p, p ≠ place temporary → held (answer (.append temporary piece) s).2 p = held s p
  takes : ∀ temporary piece s t, owned s temporary →
    answer (.append temporary piece) s = (.ok (), t) →
    taken t (place temporary) = taken s (place temporary) ++ piece
  /-- So does waiting until it is written. -/
  waits : ∀ temporary s, owned s temporary →
    owned (answer (.finish temporary) s).2 temporary
      ∧ ∀ p, p ≠ place temporary → held (answer (.finish temporary) s).2 p = held s p
  finishes : ∀ temporary s t, owned s temporary → answer (.finish temporary) s = (.ok (), t) →
    held t (place temporary) = some (taken s (place temporary))
  /-- A file moves to its destination in one step, or stays. -/
  moves : ∀ destination temporary s t, owned s temporary →
    answer (.replace destination temporary) s = (.ok (), t) →
    held t = Function.update (Function.update (held s) (place temporary) none)
      (place destination) (held s (place temporary))
  stays : ∀ destination temporary s cause t, owned s temporary →
    answer (.replace destination temporary) s = (.error cause, t) →
    owned t temporary ∧ held t = held s
  /-- A file that is dropped is gone. -/
  drops : ∀ temporary s, owned s temporary →
    held (answer (.drop temporary) s).2 = Function.update (held s) (place temporary) none

/-! ## What a download hears -/

/-- The reason for a failure that an exchange gives, if any.  A document that broke off gives
    one as soon as it was fetched. -/
def complaint? : Exchange interface → Option String
  | ⟨.fetch _, .error fault⟩ => some fault.message
  | ⟨.fetch _, .ok body⟩ => if body.complete then none else some Http.Fault.brokenBody.message
  | ⟨.makeDirectory directory, .error cause⟩ =>
      some s!"cannot create {directory.text}: {cause.message}"
  | ⟨.makeTemporary _, .error cause⟩ => some s!"cannot create temp file: {cause.message}"
  | ⟨.append _ _, .error cause⟩ => some cause.message
  | ⟨.finish _, .error cause⟩ => some cause.message
  | ⟨.replace destination _, .error cause⟩ =>
      let refused := s!"failed to persist temporary file path: {cause.message}"
      some s!"cannot write {destination.text}: {refused}"
  | _ => none

/-- All reasons for a failure, in order. -/
def complaints (past : List (Exchange interface)) : List String := past.filterMap complaint?

/-- The document that an exchange brings, complete or not, with the address that it is from. -/
def document? : Exchange interface → Option (String × Http.Body)
  | ⟨.fetch url, .ok body⟩ => some (url, body)
  | _ => none

/-- All documents that were fetched, in order. -/
def documents (past : List (Exchange interface)) : List (String × Http.Body) :=
  past.filterMap document?

section

variable {past : List (Exchange interface)} {m : Exchange interface} {reason : String}

/-- The complaints of a longer past: those before, and the one of the last call if it has one. -/
theorem complaints_append (past : List (Exchange interface)) (m : Exchange interface) :
    complaints (past ++ [m]) = complaints past ++ (complaint? m).toList := by
  rw [complaints, List.filterMap_append, List.filterMap_cons]
  cases complaint? m with
  | none => rfl
  | some reason => rfl

theorem complaints_append_of_none (h : complaint? m = none) :
    complaints (past ++ [m]) = complaints past := by
  rw [complaints_append, h, Option.toList_none, List.append_nil]

theorem documents_append_of_none (h : document? m = none) :
    documents (past ++ [m]) = documents past := by
  rw [documents, List.filterMap_append, List.filterMap_cons_none h]
  exact List.append_nil _

/-- An exchange that complains has the last word. -/
theorem getLast?_complaints_append (h : complaint? m = some reason) :
    (complaints (past ++ [m])).getLast? = some reason := by
  rw [complaints_append, h, Option.toList_some, List.getLast?_concat]

end

variable {σ Place : Type} [DecidableEq Place] {d : Disk σ Place} {url : String}
variable {destination temporary : Path} {before s : σ} {body : Http.Body}
variable {past : List (Exchange interface)}

/-! ## Where a download stands -/

/-- What the files are at a moment of a download: what they were, apart from a temporary file
    that was none of them, or with the whole document at the destination. -/
inductive Standing (d : Disk σ Place) (url : String) (destination : Path) (before : σ)
    (past : List (Exchange interface)) (now : σ) : Prop
  | untouched (same : d.held now = d.held before)
  | writing (temporary : Path)
      (made : ⟨.makeTemporary (directoryOf destination), .ok temporary⟩ ∈ past)
      (fresh : d.held before (d.place temporary) = none)
      (others : ∀ p, p ≠ d.place temporary → d.held now p = d.held before p)
  | replaced (body : Http.Body) (fetched : documents past = [(url, body)])
      (complete : body.complete = true)
      (whole : d.held now
        = Function.update (d.held before) (d.place destination) (some body.content))

/-- How a document was stored: it is at the destination as a whole and nothing was wrong, or
    the last complaint is the reason why not, and all files are what they were. -/
inductive Stored (d : Disk σ Place) (url : String) (destination : Path) (before : σ) :
    Except String Unit → List (Exchange interface) → σ → Prop
  | replaced {past : List (Exchange interface)} {now : σ} (clear : complaints past = [])
      (body : Http.Body) (fetched : documents past = [(url, body)])
      (complete : body.complete = true)
      (whole : d.held now
        = Function.update (d.held before) (d.place destination) (some body.content)) :
      Stored d url destination before (.ok ()) past now
  | refused {past : List (Exchange interface)} {now : σ} {reason : String}
      (last : (complaints past).getLast? = some reason) (same : d.held now = d.held before) :
      Stored d url destination before (.error reason) past now

/-- In the end as at every moment, the file is whole or untouched. -/
theorem Stored.standing {stored : Except String Unit}
    (h : Stored d url destination before stored past s) :
    Standing d url destination before past s := by
  cases h with
  | replaced clear body fetched complete whole => exact .replaced body fetched complete whole
  | refused last same => exact .untouched same

/-- Reporting makes no difference. -/
theorem Stored.report {stored : Except String Unit} {line : Log.Line} {reply : Unit} {t : σ}
    (h : Stored d url destination before stored past s)
    (hreply : d.answer (.log line) s = (reply, t)) :
    Stored d url destination before stored (past ++ [⟨.log line, reply⟩]) t := by
  have hheld : d.held t = d.held s := by rw [← d.logs line s, hreply]
  have hclear : complaints (past ++ [⟨.log line, reply⟩]) = complaints past :=
    complaints_append_of_none rfl
  cases h with
  | replaced clear body fetched complete whole =>
      refine .replaced (hclear.trans clear) body ?_ complete (hheld.trans whole)
      exact (documents_append_of_none rfl).trans fetched
  | refused last same => exact .refused (hclear ▸ last) (hheld.trans same)

/-- What holds while a document is written to its temporary file. -/
structure Filling (d : Disk σ Place) (url : String) (destination temporary : Path)
    (body : Http.Body) (before : σ) (past : List (Exchange interface)) (now : σ) : Prop where
  fetched : documents past = [(url, body)]
  made : ⟨.makeTemporary (directoryOf destination), .ok temporary⟩ ∈ past
  owned : d.owned now temporary
  fresh : d.held before (d.place temporary) = none
  others : ∀ p, p ≠ d.place temporary → d.held now p = d.held before p

/-- While the temporary file is filled, nothing else has changed. -/
theorem Filling.standing (h : Filling d url destination temporary body before past s) :
    Standing d url destination before past s := .writing temporary h.made h.fresh h.others

/-- It holds from when the temporary file is made, and nothing was handed over for it then. -/
theorem Filling.start (hfetched : documents past = [(url, body)])
    (hsame : d.held s = d.held before) {t : σ}
    (hreply : d.answer (.makeTemporary (directoryOf destination)) s = (.ok temporary, t)) :
    Filling d url destination temporary body before
        (past ++ [⟨.makeTemporary (directoryOf destination), .ok temporary⟩]) t
      ∧ d.taken t (d.place temporary) = .empty := by
  obtain ⟨howned, hfresh, hmade, hempty⟩ :=
    d.makes (directoryOf destination) s temporary t hreply
  rw [hsame] at hfresh hmade
  refine ⟨⟨?_, List.mem_append_right _ (List.mem_singleton_self _), howned, hfresh, ?_⟩, hempty⟩
  · rw [documents_append_of_none rfl]
    exact hfetched
  · intro p hp
    rw [hmade, Function.update_of_ne hp]

/-- A call that keeps the temporary file and changes no other one keeps this up. -/
theorem Filling.append (h : Filling d url destination temporary body before past s)
    {m : Exchange interface} {t : σ} (hdocument : document? m = none)
    (howned : d.owned t temporary)
    (hothers : ∀ p, p ≠ d.place temporary → d.held t p = d.held s p) :
    Filling d url destination temporary body before (past ++ [m]) t where
  fetched := (documents_append_of_none hdocument).trans h.fetched
  made := List.mem_append_left _ h.made
  owned := howned
  fresh := h.fresh
  others := fun p hp => (hothers p hp).trans (h.others p hp)

/-- Writing one more piece fills the temporary file on, also where it fails halfway. -/
theorem Filling.write (h : Filling d url destination temporary body before past s)
    {piece : ByteArray} {reply : Except FileError Unit} {t : σ}
    (hreply : d.answer (.append temporary piece) s = (reply, t)) :
    Filling d url destination temporary body before
      (past ++ [⟨.append temporary piece, reply⟩]) t := by
  obtain ⟨howned, hothers⟩ := d.writes temporary piece s h.owned
  rw [hreply] at howned hothers
  exact h.append rfl howned hothers

/-- Waiting for the disk changes nothing that counts. -/
theorem Filling.wait (h : Filling d url destination temporary body before past s)
    {reply : Except FileError Unit} {t : σ}
    (hreply : d.answer (.finish temporary) s = (reply, t)) :
    Filling d url destination temporary body before (past ++ [⟨.finish temporary, reply⟩]) t := by
  obtain ⟨howned, hothers⟩ := d.waits temporary s h.owned
  rw [hreply] at howned hothers
  exact h.append rfl howned hothers

/-- A replacement that fails leaves both files. -/
theorem Filling.stay (h : Filling d url destination temporary body before past s)
    {cause : FileError} {t : σ}
    (hreply : d.answer (.replace destination temporary) s = (.error cause, t)) :
    Filling d url destination temporary body before
      (past ++ [⟨.replace destination temporary, .error cause⟩]) t := by
  obtain ⟨howned, hstays⟩ := d.stays destination temporary s cause t h.owned hreply
  exact h.append rfl howned fun p _ => congrFun hstays p

/-- Without the temporary file, all files are what they were. -/
theorem Filling.update_none (h : Filling d url destination temporary body before past s) :
    Function.update (d.held s) (d.place temporary) none = d.held before := by
  ext1 p
  by_cases hp : p = d.place temporary
  · rw [hp, Function.update_self, h.fresh]
  · rw [Function.update_of_ne hp, h.others p hp]

/-- Dropping the temporary file leaves the disk as it was before. -/
theorem Filling.drop (h : Filling d url destination temporary body before past s) :
    d.held (d.answer (.drop temporary) s).2 = d.held before := by
  rw [d.drops temporary s h.owned, h.update_none]

/-- Where the temporary file holds the whole document, it is stored once it has moved. -/
theorem Filling.stored (h : Filling d url destination temporary body before past s)
    (hclear : complaints past = []) (hcomplete : body.complete = true)
    (hwhole : d.held s (d.place temporary) = some body.content) {t : σ}
    (hreply : d.answer (.replace destination temporary) s = (.ok (), t)) :
    Stored d url destination before (.ok ())
      (past ++ [⟨.replace destination temporary, .ok ()⟩]) t := by
  refine .replaced ?_ body ?_ hcomplete ?_
  · rw [complaints_append_of_none rfl]
    exact hclear
  · rw [documents_append_of_none rfl]
    exact h.fetched
  · rw [d.moves destination temporary s t h.owned hreply, hwhole, h.update_none]

/-! ## The way to the destination -/

/-- Pieces are handed over in order, up to the first that is not taken. -/
theorem appendAll_fills (pieces : List ByteArray)
    (h : Filling d url destination temporary body before past s) :
    (appendAll temporary pieces).Keeps d.answer (Standing d url destination before)
      (fun result more t => Filling d url destination temporary body before more t
        ∧ match result with
          | .ok () => complaints more = complaints past
              ∧ d.taken t (d.place temporary)
                = pieces.foldl (· ++ ·) (d.taken s (d.place temporary))
          | .error reason => (complaints more).getLast? = some reason) past s := by
  -- Induction on the pieces; each of them is in what was taken when the next one is written.
  induction pieces generalizing past s with
  | nil => exact ⟨h, rfl, rfl⟩
  | cons piece rest ih =>
      refine Keeps.answered fun reply t hreply => ?_
      have hwriting := h.write hreply
      refine ⟨hwriting.standing, ?_⟩
      cases reply with
      | error cause => exact ⟨hwriting, getLast?_complaints_append rfl⟩
      | ok done =>
          refine (ih hwriting).mono fun result more u hmore => ?_
          obtain ⟨hfilled, hresult⟩ := hmore
          refine ⟨hfilled, ?_⟩
          cases result with
          | error reason => exact hresult
          | ok done =>
              obtain ⟨hclear, htaken⟩ := hresult
              rw [hclear, htaken, d.takes temporary piece s t h.owned hreply]
              exact ⟨complaints_append_of_none rfl, rfl⟩

/-- What was written as a whole is finished and moved to the destination. -/
theorem store_stores (h : Filling d url destination temporary body before past s)
    (hclear : complaints past = (complaint? ⟨.fetch url, .ok body⟩).toList)
    (hempty : d.taken s (d.place temporary) = .empty) :
    (store body destination temporary).Keeps d.answer (Standing d url destination before)
      (fun result more t => match result with
        | .ok () => Stored d url destination before (.ok ()) more t
        | .error reason => Filling d url destination temporary body before more t
            ∧ (complaints more).getLast? = some reason) past s := by
  show (Program.bind (appendAll temporary body.pieces) _).Keeps _ _ _ _ _
  rw [keeps_bind]
  refine (appendAll_fills body.pieces h).mono fun result filled t hfilled => ?_
  obtain ⟨hfilling, hresult⟩ := hfilled
  cases result with
  | error reason => exact ⟨hfilling, hresult⟩
  | ok done =>
      obtain ⟨hsame, htaken⟩ := hresult
      rw [hclear] at hsame
      show Program.Keeps _ _ _ (if (!body.complete) = true then _ else _) _ _
      cases hcomplete : body.complete with
      | false =>
          -- The reason stands at the fetch, and no call has failed since then.
          have hbroken : complaint? ⟨.fetch url, .ok body⟩
              = some Http.Fault.brokenBody.message := by simp [complaint?, hcomplete]
          rw [hbroken] at hsame
          exact ⟨hfilling, congrArg List.getLast? hsame⟩
      | true =>
          have hnone : complaint? ⟨.fetch url, .ok body⟩ = none := by
            simp [complaint?, hcomplete]
          rw [hnone] at hsame
          -- Only a file that is finished holds what was handed over for it.
          refine Keeps.answered fun reply u hfinish => ?_
          have hwaiting := hfilling.wait hfinish
          refine ⟨hwaiting.standing, ?_⟩
          cases reply with
          | error cause => exact ⟨hwaiting, getLast?_complaints_append rfl⟩
          | ok done =>
              have hwhole : d.held u (d.place temporary) = some body.content := by
                rw [d.finishes temporary t u hfilling.owned hfinish, htaken, hempty]
                rfl
              refine Keeps.answered fun reply v hreplace => ?_
              cases reply with
              | error cause =>
                  have hrefused := hwaiting.stay hreplace
                  exact ⟨hrefused.standing, hrefused, getLast?_complaints_append rfl⟩
              | ok done =>
                  have hsilent : complaints (filled ++ [⟨.finish temporary, .ok ()⟩]) = [] := by
                    rw [complaints_append_of_none rfl]
                    exact hsame
                  have hstored := hwaiting.stored hsilent hcomplete hwhole hreplace
                  exact ⟨hstored.standing, hstored⟩

/-- A document takes the place of the destination by way of a temporary file, which is gone
    in the end. -/
theorem replaceWith_stores (hsame : d.held s = d.held before)
    (hfetched : documents past = [(url, body)])
    (hclear : complaints past = (complaint? ⟨.fetch url, .ok body⟩).toList) :
    (replaceWith body destination).Keeps d.answer (Standing d url destination before)
      (Stored d url destination before) past s := by
  refine Keeps.answered fun reply t hreply => ?_
  have hheld : d.held t = d.held before := by
    rw [← hsame, ← d.directories (directoryOf destination) s, hreply]
  refine ⟨.untouched hheld, ?_⟩
  cases reply with
  | error cause => exact .refused (getLast?_complaints_append rfl) hheld
  | ok done =>
      refine Keeps.answered fun reply u hreply => ?_
      cases reply with
      | error cause =>
          have hnone : d.held u = d.held before := by
            rw [← hheld]
            exact d.makesNone (directoryOf destination) t cause u hreply
          exact ⟨.untouched hnone, .refused (getLast?_complaints_append rfl) hnone⟩
      | ok temporary =>
          have hpresent : documents (past ++ [⟨.makeDirectory (directoryOf destination), .ok ()⟩])
              = [(url, body)] := by
            rw [documents_append_of_none rfl]
            exact hfetched
          obtain ⟨hfilling, hempty⟩ := Filling.start hpresent hheld hreply
          refine ⟨hfilling.standing, ?_⟩
          show (Program.bind (store body destination temporary) _).Keeps _ _ _ _ _
          rw [keeps_bind]
          refine (store_stores hfilling ?_ hempty).mono fun result stored v hstored => ?_
          · rw [complaints_append_of_none rfl, complaints_append_of_none rfl, hclear]
          · cases result with
            | ok done => exact hstored
            | error reason =>
                -- Each early return on the way ends here, with the temporary file to drop.
                obtain ⟨hwritten, hlast⟩ := hstored
                refine Keeps.answered fun reply w hreply => ?_
                have hdropped : d.held w = d.held before := by rw [← hwritten.drop, hreply]
                refine ⟨.untouched hdropped, .refused ?_ hdropped⟩
                rw [complaints_append_of_none rfl]
                exact hlast

/-- A download stores the one document that it fetches. -/
theorem run_stores (d : Disk σ Place) (url : String) (destination : Path) (s : σ) :
    (run url destination).Keeps d.answer (Standing d url destination s)
      (fun result past t => ∃ stored, result = stored.mapError (UpdateError.download url)
        ∧ Stored d url destination s stored past t) [] s := by
  refine Keeps.answered fun _ t hopen => ?_
  have hopened : d.held t = d.held s := by rw [← d.logs _ s, hopen]
  refine ⟨.untouched hopened, Keeps.answered fun reply u hfetch => ?_⟩
  have hfetched : d.held u = d.held s := by rw [← hopened, ← d.fetches url t, hfetch]
  refine ⟨.untouched hfetched, ?_⟩
  cases reply with
  -- Nothing was written for a download that fails.
  | error fault =>
      exact ⟨.error fault.message, rfl, .refused (getLast?_complaints_append rfl) hfetched⟩
  | ok body =>
      show (Program.bind (replaceWith body destination) _).Keeps _ _ _ _ _
      rw [keeps_bind]
      refine (replaceWith_stores hfetched rfl (complaints_append _ _)).mono
        fun result past v hstored => ?_
      cases result with
      | error reason => exact ⟨.error reason, rfl, hstored⟩
      | ok done =>
          refine Keeps.answered fun _ w hreport => ?_
          have hreported := hstored.report hreport
          exact ⟨hreported.standing, .ok (), rfl, hreported⟩

/-- A download replaces its destination as a whole or not at all.  Whatever is fetched, and
    whichever calls fail, it ends in one of two ways.  Either it succeeds, nothing was wrong,
    the document that was fetched is complete, and the destination holds exactly its pieces in
    order while all other files are what they were; or it fails for the last reason that was
    given, and all files are what they were, the destination among them, so that no temporary
    file is left.  At every moment before, the files are what they were or what they will be,
    apart from one that was made anew for the download. -/
theorem run_replaces_whole (d : Disk σ Place) (url : String) (destination : Path) (s : σ) :
    ((∃ t, (run url destination).run d.answer s = (.ok (), t)
        ∧ complaints (((run url destination).trail d.answer s).map Prod.fst) = []
        ∧ ∃ body : Http.Body,
            documents (((run url destination).trail d.answer s).map Prod.fst) = [(url, body)]
            ∧ body.complete = true
            ∧ d.held t
              = Function.update (d.held s) (d.place destination) (some body.content))
      ∨ ∃ reason t, (run url destination).run d.answer s = (.error (.download url reason), t)
        ∧ (complaints (((run url destination).trail d.answer s).map Prod.fst)).getLast?
          = some reason
        ∧ d.held t = d.held s)
    ∧ ∀ before after, (run url destination).trail d.answer s = before ++ after →
        Standing d url destination s (before.map Prod.fst) (reached s before) := by
  have hkeeps := run_stores d url destination s
  refine ⟨?_, hkeeps.moment (.untouched rfl)⟩
  obtain ⟨stored, hresult, hstored⟩ := hkeeps.outcome
  cases hstored with
  | replaced clear body fetched complete whole =>
      exact Or.inl ⟨_, Prod.ext hresult rfl, clear, body, fetched, complete, whole⟩
  | refused last same => exact Or.inr ⟨_, _, Prod.ext hresult rfl, last, same⟩

/-! ## A disk on which calls fail -/

/-- Files, and which of the next calls fail.  Bytes are kept back until a file is finished,
    and a call that fails leaves others in it. -/
structure Unreliable where
  files : Path → Option ByteArray
  /-- What was handed over for the temporary file. -/
  waiting : ByteArray
  response : Except Http.Fault Http.Body
  /-- For each call that works on files, why it fails and what it leaves, if it fails. -/
  turns : List (Option (FileError × ByteArray))

namespace Unreliable

/-- Whether the next call fails. -/
def turn (s : Unreliable) : Option (FileError × ByteArray) := s.turns.head?.join

/-- The disk after a call. -/
def later (s : Unreliable) : Unreliable := { s with turns := s.turns.tail }

/-- The disk with other bytes in a file, or without the file. -/
def write (s : Unreliable) (path : Path) (content : Option ByteArray) : Unreliable :=
  { s with files := Function.update s.files path content }

/-- Answers the requests of a download. -/
def answer : (q : Request) → Unreliable → q.Reply × Unreliable
  | .fetch _, s => (s.response, s)
  | .makeDirectory _, s =>
      match s.turn with
      | some (cause, _) => (.error cause, s.later)
      | none => (.ok (), s.later)
  | .makeTemporary directory, s =>
      let temporary := directory.join ".tmp"
      match s.turn, s.files temporary with
      | some (cause, _), _ => (.error cause, s.later)
      | none, some _ => (.error .alreadyThere, s.later)
      | none, none =>
          (.ok temporary, { s.later.write temporary (some .empty) with waiting := .empty })
  | .append temporary piece, s =>
      match s.turn with
      | some (cause, left) => (.error cause, s.later.write temporary (some left))
      | none => (.ok (), { s.later with waiting := s.waiting ++ piece })
  | .finish temporary, s =>
      match s.turn with
      | some (cause, left) => (.error cause, s.later.write temporary (some left))
      | none => (.ok (), s.later.write temporary (some s.waiting))
  | .replace destination temporary, s =>
      match s.turn with
      | some (cause, _) => (.error cause, s.later)
      | none => (.ok (), (s.later.write temporary none).write destination (s.files temporary))
  | .drop temporary, s => ((), s.write temporary none)
  | .log _, s => ((), s)

/-- The path leads to a file. -/
def Holds (s : Unreliable) (path : Path) : Prop := s.files path ≠ none

/-- What was written is held. -/
theorem holds_write (s : Unreliable) (path : Path) (content : ByteArray) :
    (s.write path (some content)).Holds path := by
  show Function.update s.files path (some content) path ≠ none
  rw [Function.update_self]
  exact Option.some_ne_none content

theorem write_of_ne (s : Unreliable) {path p : Path} (content : Option ByteArray)
    (h : p ≠ path) : (s.write path content).files p = s.files p := Function.update_of_ne h _ _

/-- Whichever calls fail, this is a disk. -/
def disk : Disk Unreliable Path where
  answer := answer
  place := id
  held := files
  owned := Holds
  taken := fun s _ => s.waiting
  fetches := fun _ _ => rfl
  logs := fun _ _ => rfl
  directories := by
    intro directory s
    simp only [answer]
    split <;> rfl
  makes := by
    intro directory s temporary t h
    simp only [answer] at h
    split at h
    · cases h
    · cases h
    · next hfile =>
        cases h
        exact ⟨holds_write s.later _ _, hfile, rfl, rfl⟩
  makesNone := by
    intro directory s cause t h
    simp only [answer] at h
    split at h <;> cases h <;> rfl
  writes := by
    intro temporary piece s howned
    simp only [answer]
    split
    · exact ⟨holds_write s.later _ _, fun p hp => write_of_ne s.later _ hp⟩
    · exact ⟨howned, fun _ _ => rfl⟩
  takes := by
    intro temporary piece s t howned h
    simp only [answer] at h
    split at h <;> cases h
    rfl
  waits := by
    intro temporary s howned
    simp only [answer]
    split <;> exact ⟨holds_write s.later _ _, fun p hp => write_of_ne s.later _ hp⟩
  finishes := by
    intro temporary s t howned h
    simp only [answer] at h
    split at h <;> cases h
    exact Function.update_self _ _ _
  moves := by
    intro destination temporary s t howned h
    simp only [answer] at h
    split at h <;> cases h
    rfl
  stays := by
    intro destination temporary s cause t howned h
    simp only [answer] at h
    split at h <;> cases h
    exact ⟨howned, rfl⟩
  drops := fun _ _ _ => rfl

/-- Where a dump is fetched from. -/
def address : String := "https://example.org/world.sql"

/-- Where it is expected. -/
def dump : Path := ⟨"sql/base/world.sql"⟩

/-- A disk that holds an older dump, while a new one arrives in two pieces. -/
def older (turns : List (Option (FileError × ByteArray))) : Unreliable where
  files := Function.update (fun _ => none) dump (some "DROP TABLE creature;".toUTF8)
  waiting := .empty
  response := .ok ⟨["CREATE TABLE ".toUTF8, "creature;".toUTF8], true⟩
  turns := turns

/-- Where the second piece cannot be written and the first one is left in part, the older dump
    is there and nothing else; where all calls succeed, it is the new one. -/
theorem run_replaces_whole_halfway :
    (∃ t, (run address dump).run disk.answer
        (older [none, none, none, some (.denied, "CREA".toUTF8)])
          = (.error (.download address "Permission denied (os error 13)"), t)
        ∧ t.files = (older []).files)
      ∧ ∃ t, (run address dump).run disk.answer (older []) = (.ok (), t)
        ∧ t.files dump = some "CREATE TABLE creature;".toUTF8 := by
  constructor
  · obtain ⟨hend, -⟩ := run_replaces_whole disk address dump
      (older [none, none, none, some (.denied, "CREA".toUTF8)])
    have hcomplaints : complaints (((run address dump).trail disk.answer
        (older [none, none, none, some (.denied, "CREA".toUTF8)])).map Prod.fst)
        = ["Permission denied (os error 13)"] := by decide +kernel
    rw [hcomplaints] at hend
    obtain ⟨t, -, hclear, -⟩ | ⟨reason, t, hrun, hlast, hsame⟩ := hend
    · exact nomatch hclear
    · obtain rfl := Option.some.inj hlast
      exact ⟨t, hrun, hsame⟩
  · obtain ⟨hend, -⟩ := run_replaces_whole disk address dump (older [])
    have hcomplaints : complaints
        (((run address dump).trail disk.answer (older [])).map Prod.fst) = [] := by
      decide +kernel
    have hdocuments : documents
        (((run address dump).trail disk.answer (older [])).map Prod.fst)
          = [(address, ⟨["CREATE TABLE ".toUTF8, "creature;".toUTF8], true⟩)] := by rfl
    have hcontent : Http.Body.content ⟨["CREATE TABLE ".toUTF8, "creature;".toUTF8], true⟩
        = "CREATE TABLE creature;".toUTF8 := by decide +kernel
    rw [hcomplaints, hdocuments] at hend
    obtain ⟨t, hrun, -, body, hbody, -, hwhole⟩ | ⟨reason, t, -, hlast, -⟩ := hend
    · cases hbody
      rw [hcontent] at hwhole
      exact ⟨t, hrun, (congrFun hwhole dump).trans (Function.update_self _ _ _)⟩
    · exact nomatch hlast

end Unreliable

end Download

end SchemaMigration
