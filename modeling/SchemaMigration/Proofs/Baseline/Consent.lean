import SchemaMigration.Proofs.Baseline.Turns

/-! # Consent — no baseline without somebody who wants it

    Applying a dump overwrites a database, so each call that leads there needs a
    reason, and the reason lies in what was set, asked and answered before:

    * `Permitted` says what a question, a download and an applied file need;
    * `Warranted` says what is known when a stage is reached;
    * `step_warrants` is the step lemma, with one lemma for each kind of stage;
    * `resolve_permitted`: every exchange of a resolution is permitted;
    * `resolve_consented` reads from it what happens without an operator, when
      something is downloaded, and what is left if the operator declines. -/

namespace SchemaMigration.Baseline

open Program

/-! ## Questions to the operator -/

/-- A question to the operator, with its answer. -/
abbrev Answered := (q : Operator.Request) × q.Answer

/-- The question that an exchange puts to the operator, with its answer. -/
def question? : Exchange Site.interface → Option Answered
  | ⟨.operator q, reply⟩ => some ⟨q, reply⟩
  | _ => none

/-- The questions to the operator, in order. -/
def questions (past : List (Exchange Site.interface)) : List Answered :=
  past.filterMap question?

/-- If the exchange is a yes or no question, its answer is no. -/
def Declined : Exchange Site.interface → Prop
  | ⟨.operator (.confirm _), agreed⟩ => agreed = false
  | _ => True

variable {past : List (Exchange Site.interface)} {m : Exchange Site.interface}

theorem questions_append (past more : List (Exchange Site.interface)) :
    questions (past ++ more) = questions past ++ questions more := List.filterMap_append

/-- An exchange with anyone but the operator adds no question. -/
theorem questions_append_of_eq_none (h : question? m = none) :
    questions (past ++ [m]) = questions past := by
  have hone : questions [m] = [] := List.filterMap_cons_none h
  rw [questions_append, hone, List.append_nil]

/-- A question that was put is not taken back. -/
theorem questions_append_ne_nil (h : questions past ≠ []) : questions (past ++ [m]) ≠ [] := by
  rw [questions_append]
  exact List.append_ne_nil_of_left_ne_nil h _

namespace Resolver

variable (r : Resolver)

/-! ## What is permitted -/

/-- The question whether to download the baseline, answered with yes. -/
def accepted : Answered :=
  ⟨.confirm s!"Do you want to download and apply the latest {r.policy.displayName} database baseline?",
    true⟩

/-- A download is wanted: the run is automatic, or the operator was asked about it first and
    said yes. -/
def Wanted (past : List (Exchange Site.interface)) : Prop :=
  r.automatic = true ∨ questions past = [r.accepted]

/-- Why a file may be applied. -/
inductive Chosen (file : Path) (past : List (Exchange Site.interface)) : Prop where
  /-- It is the base file, which was found, and there is no address to download from. -/
  | standing (hurl : r.remoteUrl = none) (hbase : r.baseFile = some file)
      (hthere : (⟨.machine (.isFile file), true⟩ : Exchange Site.interface) ∈ past)
  /-- It is the base file, which was downloaded. -/
  | downloaded (url : String) (hbase : r.baseFile = some file)
      (hloaded : (⟨.download url file, .ok ()⟩ : Exchange Site.interface) ∈ past)
  /-- It was found after the operator had said yes to a question. -/
  | agreed (question : String)
      (hyes : (⟨.operator (.confirm question), true⟩ : Exchange Site.interface) ∈ past)
      (hthere : (⟨.machine (.isFile file), true⟩ : Exchange Site.interface) ∈ past)

/-- What an exchange needs of those before it. -/
def Permitted (past : List (Exchange Site.interface)) : Exchange Site.interface → Prop
  | ⟨.operator _, _⟩ => r.automatic = false
  | ⟨.download url destination, _⟩ =>
      r.remoteUrl = some url ∧ r.baseFile = some destination ∧ r.Wanted past
  | ⟨.runner (.file _ file), _⟩ => r.Chosen file past
  | _ => True

/-- Why nothing may be applied: no dump is expected, or the operator was asked. -/
def Waived (past : List (Exchange Site.interface)) : Prop :=
  r.baseFile = none ∨ r.automatic = false ∧ questions past ≠ []

/-- What is known when a stage is reached. -/
def Warranted : Stage → List (Exchange Site.interface) → Prop
  | .needed, past => questions past = []
  | .downloading url, past => r.remoteUrl = some url ∧ r.Wanted past
  | .fallback, _ => r.automatic = false
  | .applying file, past => r.Chosen file past
  | .done none, past => r.Waived past
  | .done (some _), _ => True
  | .failed _, _ => True

variable {r} {σ : Type} {answer : (q : Site.Request) → σ → q.Reply × σ} {s : σ}

/-- A baseline comes from elsewhere where the policy says so and an address is set. -/
theorem remoteUrl_eq_some_iff {url : String} :
    r.remoteUrl = some url ↔ r.policy.origin = .remote ∧ r.url = some url := by
  rw [remoteUrl]
  cases r.policy.origin with
  | remote => exact (and_iff_right rfl).symm
  | bundled => exact iff_of_false nofun fun h => nomatch h.1

/-- A baseline is a local file where the policy bundles one or no address is set. -/
theorem remoteUrl_eq_none_iff : r.remoteUrl = none ↔ r.policy.origin = .bundled ∨ r.url = none := by
  rw [remoteUrl]
  cases r.policy.origin with
  | remote => exact (or_iff_right nofun).symm
  | bundled => exact iff_of_true rfl (Or.inl rfl)

/-- A file that was chosen stays chosen. -/
theorem Chosen.append {file : Path} (h : r.Chosen file past) : r.Chosen file (past ++ [m]) := by
  cases h with
  | standing hurl hbase hthere => exact .standing hurl hbase (List.mem_append_left _ hthere)
  | downloaded url hbase hloaded => exact .downloaded url hbase (List.mem_append_left _ hloaded)
  | agreed question hyes hthere =>
      exact .agreed question (List.mem_append_left _ hyes) (List.mem_append_left _ hthere)

theorem Waived.append (h : r.Waived past) : r.Waived (past ++ [m]) :=
  h.imp_right fun ⟨hauto, hasked⟩ => ⟨hauto, questions_append_ne_nil hasked⟩

/-- What is known stays known when the operator is not asked. -/
theorem Warranted.append {stage : Stage} (h : r.Warranted stage past) (hm : question? m = none) :
    r.Warranted stage (past ++ [m]) := by
  cases stage with
  | needed => exact (questions_append_of_eq_none hm).trans h
  | downloading url =>
      refine ⟨h.1, h.2.imp_right fun hyes => ?_⟩
      rw [questions_append_of_eq_none hm, hyes]
  | fallback => exact h
  | applying file => exact Chosen.append h
  | done applied =>
      cases applied with
      | none => exact Waived.append h
      | some file => trivial
  | failed reason => trivial

/-! ## Single steps -/

variable (answer r) in
/-- A part of the machine makes permitted exchanges only, and leads to a stage with what is
    known there. -/
def Warrants (part : Program Site.interface Stage) (past : List (Exchange Site.interface))
    (s : σ) : Prop :=
  part.Keeps answer (fun past _ => Along r.Permitted past)
    (fun next past _ => Along r.Permitted past ∧ r.Warranted next past) past s

/-- A permitted question may have any answer. -/
theorem warrants_ask {q : Site.Request} {next : q.Reply → Program Site.interface Stage}
    (h : Along r.Permitted past) (hq : ∀ reply, r.Permitted past ⟨q, reply⟩)
    (hnext : ∀ reply t, Along r.Permitted (past ++ [⟨q, reply⟩]) →
      r.Warrants answer (next reply) (past ++ [⟨q, reply⟩]) t) :
    r.Warrants answer (.ask q next) past s :=
  ⟨h.append (hq _), hnext _ _ (h.append (hq _))⟩

/-- A last report changes nothing of what is known. -/
theorem warrants_log {line : Log.Line} {next : Stage} (h : Along r.Permitted past)
    (hnext : r.Warranted next past) :
    r.Warrants answer ((Site.log line).bind fun _ => .done next) past s :=
  warrants_ask h (fun _ => trivial) fun _ _ h => ⟨h, hnext.append rfl⟩

/-- The first turn warrants its stage: a download is wanted only with automatic setup or with the
consent of the operator, who is asked here for the first time. -/
theorem start_warrants (h : Along r.Permitted past) (hquiet : questions past = []) :
    r.Warrants answer r.start past s := by
  rw [start]
  cases hbase : r.baseFile with
  | none => exact warrants_log h (Or.inl hbase)
  | some base =>
      cases hurl : r.remoteUrl with
      | some url =>
          cases hauto : r.automatic with
          | true => exact warrants_log h ⟨hurl, Or.inl hauto⟩
          | false =>
              refine warrants_ask h (fun _ => hauto) fun agreed t h => ?_
              cases agreed with
              | true =>
                  refine ⟨h, hurl, Or.inr ?_⟩
                  rw [questions_append, hquiet]
                  rfl
              | false => exact ⟨h, hauto⟩
      | none =>
          refine warrants_ask h (fun _ => trivial) fun there t h => ?_
          cases there with
          | true =>
              exact ⟨h, .standing hurl hbase (List.mem_append_right _ List.mem_cons_self)⟩
          | false =>
              cases hauto : r.automatic with
              | true => exact ⟨h, trivial⟩
              | false => exact ⟨h, hauto⟩

/-- Downloading is permitted where it is wanted, and chooses the file that it brings. -/
theorem fetch_warrants (h : Along r.Permitted past) {url : String}
    (hurl : r.remoteUrl = some url) (hwanted : r.Wanted past) :
    r.Warrants answer (r.fetch url) past s := by
  rw [fetch]
  cases hbase : r.baseFile with
  | none => exact ⟨h, trivial⟩
  | some base =>
      refine warrants_ask h (fun _ => ⟨hurl, hbase, hwanted⟩) fun outcome t h => ?_
      cases outcome with
      | ok done =>
          exact warrants_log h
            (Chosen.downloaded url hbase (List.mem_append_right _ List.mem_cons_self))
      | error e => exact warrants_log h trivial

/-- The operator has said yes to a question. -/
def Agreed (past : List (Exchange Site.interface)) : Prop :=
  ∃ question, (⟨.operator (.confirm question), true⟩ : Exchange Site.interface) ∈ past

/-- Whatever the operator answers, there was a question. -/
theorem questions_asked_ne_nil (q : Operator.Request) (reply : q.Answer) :
    questions (past ++ [⟨.operator q, reply⟩]) ≠ [] := by
  rw [questions_append]
  exact List.append_ne_nil_of_right_ne_nil _ (List.cons_ne_nil _ _)

/-- A file of the operator's own is chosen by the operator, who said so before. -/
theorem localFile_warrants (h : Along r.Permitted past) (hauto : r.automatic = false)
    (hyes : Agreed past) : r.Warrants answer localFile past s := by
  refine warrants_ask h (fun _ => hauto) fun given t h => ?_
  cases given with
  | none => exact warrants_log h (Or.inr ⟨hauto, questions_asked_ne_nil _ _⟩)
  | some text =>
      refine warrants_ask h (fun _ => trivial) fun there t h => ?_
      cases there with
      | false => exact ⟨h, trivial⟩
      | true =>
          obtain ⟨question, hyes⟩ := hyes
          exact warrants_log h (Chosen.agreed question
            (List.mem_append_left _ (List.mem_append_left _ hyes))
            (List.mem_append_right _ List.mem_cons_self))

/-- The bundled file is applied only after the operator has agreed to it. -/
theorem bundledFile_warrants (h : Along r.Permitted past) (hauto : r.automatic = false)
    (hasked : questions past ≠ []) : r.Warrants answer r.bundledFile past s := by
  -- Without the file, and without consent to it, the operator has been asked all the same.
  have hwaived : r.Waived past := Or.inr ⟨hauto, hasked⟩
  rw [bundledFile]
  cases r.baseFile with
  | none => exact warrants_log h hwaived
  | some base =>
      refine warrants_ask h (fun _ => trivial) fun there t h => ?_
      cases there with
      | false => exact warrants_log h hwaived.append
      | true =>
          refine warrants_ask h (fun _ => hauto) fun agreed t h => ?_
          cases agreed with
          | false => exact warrants_log h hwaived.append.append
          | true =>
              exact warrants_log h (Chosen.agreed _
                (List.mem_append_right _ List.mem_cons_self)
                (List.mem_append_left _ (List.mem_append_right _ List.mem_cons_self)))

/-- Choosing asks the operator first, so whatever comes of it was asked for. -/
theorem choose_warrants (h : Along r.Permitted past) (hauto : r.automatic = false) :
    r.Warrants answer r.choose past s := by
  refine warrants_ask h (fun _ => hauto) fun own t h => ?_
  cases own with
  | true => exact localFile_warrants h hauto ⟨_, List.mem_append_right _ List.mem_cons_self⟩
  | false => exact bundledFile_warrants h hauto (questions_asked_ne_nil _ _)

/-- Running a file is permitted where it was chosen. -/
theorem applyFile_warrants (h : Along r.Permitted past) {file : Path}
    (hchosen : r.Chosen file past) : r.Warrants answer (r.applyFile file) past s := by
  refine warrants_ask h (fun _ => trivial) fun _ _ h => ?_
  refine warrants_ask h (fun _ => hchosen.append) fun outcome _ h => ?_
  cases outcome with
  | error e => exact ⟨h, trivial⟩
  | ok status =>
      cases status with
      | ofNat n =>
          cases n with
          | zero => exact ⟨h, trivial⟩
          | succ n => exact ⟨h, trivial⟩
      | negSucc n => exact ⟨h, trivial⟩

/-- From a stage with what is known there, a step makes permitted exchanges only and leads to
    another such stage. -/
theorem step_warrants (stage : Stage) (h : Along r.Permitted past)
    (hstage : r.Warranted stage past) : r.Warrants answer (r.step stage) past s := by
  cases stage with
  | needed => exact start_warrants h hstage
  | downloading url => exact fetch_warrants h hstage.1 hstage.2
  | fallback => exact choose_warrants h hstage
  | applying file => exact applyFile_warrants h hstage
  | done applied => exact ⟨h, hstage⟩
  | failed reason => exact ⟨h, trivial⟩

/-! ## Whole resolutions -/

variable (answer) in
/-- All turns warrant the stage in which they end. -/
theorem resolveFrom_warrants (stage : Stage) (h : Along r.Permitted past)
    (hstage : r.Warranted stage past) (s : σ) :
    r.Warrants answer (r.resolveFrom stage) past s := by
  -- Induction along the transitions that are allowed.
  induction stage using resolveFrom.induct generalizing past s with
  | case1 stage hfinal =>
      rw [resolveFrom_of_final hfinal]
      exact ⟨h, hstage⟩
  | case2 stage hfinal ih =>
      rw [resolveFrom_eq ((Bool.not_eq_true _).mp hfinal)]
      refine (keeps_bind _ _ past s).mpr ?_
      refine (step_warrants stage h hstage).mono fun next past s hnext => ?_
      by_cases hallowed : stage.canBecome next = true
      · rw [if_pos hallowed]
        refine warrants_ask hnext.1 (fun _ => trivial) fun _ t h => ?_
        exact ih next hallowed h (hnext.2.append rfl) t
      · rw [if_neg hallowed]
        exact ⟨hnext.1, trivial⟩

variable (answer r) in
/-- Every exchange of a resolution is permitted by those before it. -/
theorem resolve_permitted (s : σ) :
    Along r.Permitted ((r.resolve.trail answer s).map Prod.fst) :=
  (Keeps.outcome (resolveFrom_warrants answer .needed along_nil rfl s)).1

/-- Automatic runs ask no questions. -/
theorem questions_eq_nil (h : Along r.Permitted past) (hauto : r.automatic = true) :
    questions past = [] := by
  refine List.filterMap_eq_nil_iff.mpr fun m hm => ?_
  by_contra hasked
  obtain ⟨before, after, -, hpermitted⟩ := h.exists_before hm
  obtain ⟨q, reply⟩ := m
  cases q with
  | operator q => exact nomatch hauto.symm.trans hpermitted
  | _ => exact hasked rfl

/-- A download goes to the base file, from the address that was set, and is wanted. -/
theorem Permitted.download {url : String} {destination : Path} (h : r.Permitted past m)
    (hm : download? m = some (url, destination)) :
    r.remoteUrl = some url ∧ r.baseFile = some destination ∧ r.Wanted past := by
  obtain ⟨q, reply⟩ := m
  cases q with
  | download url' destination' =>
      obtain ⟨rfl, rfl⟩ := Prod.mk.inj (Option.some.inj hm)
      exact h
  | _ => exact nomatch hm

/-- The only question that was asked was declined, so it was not accepted. -/
theorem questions_ne_accepted (h : ∀ m ∈ past, Declined m) : questions past ≠ [r.accepted] := by
  intro hyes
  obtain ⟨m, hm, hquestion⟩ := List.mem_filterMap.mp
    (hyes ▸ List.mem_singleton_self _ : r.accepted ∈ questions past)
  obtain ⟨q, reply⟩ := m
  cases q with
  | operator q =>
      cases Option.some.inj hquestion
      exact nomatch h _ hm
  | _ => exact nomatch hquestion

/-- Where everything is declined, only an automatic run downloads. -/
theorem downloads_eq_nil (h : Along r.Permitted past) (hauto : r.automatic = false)
    (hdeclined : ∀ m ∈ past, Declined m) : downloads past = [] := by
  refine List.filterMap_eq_nil_iff.mpr fun m hm => ?_
  by_contra hloads
  obtain ⟨⟨url, destination⟩, hdownload⟩ := Option.ne_none_iff_exists'.mp hloads
  obtain ⟨before, after, heq, hpermitted⟩ := h.exists_before hm
  rcases (hpermitted.download hdownload).2.2 with htrue | hyes
  · exact nomatch hauto.symm.trans htrue
  · exact questions_ne_accepted (fun m hm => hdeclined m (heq ▸ List.mem_append_left _ hm)) hyes

/-- Where everything is declined and nothing is downloaded, a file is applied only because it
    is the base file and there. -/
theorem Chosen.standing_of_declined {file : Path} (h : r.Chosen file past)
    (hdeclined : ∀ m ∈ past, Declined m) (hnone : downloads past = []) :
    r.remoteUrl = none ∧ r.baseFile = some file
      ∧ (⟨.machine (.isFile file), true⟩ : Exchange Site.interface) ∈ past := by
  cases h with
  | standing hurl hbase hthere => exact ⟨hurl, hbase, hthere⟩
  | downloaded url hbase hloaded =>
      exact nomatch List.filterMap_eq_nil_iff.mp hnone _ hloaded
  | agreed question hyes hthere => exact nomatch hdeclined _ hyes

variable (answer r) in
/-- No baseline without consent, however the operator, the downloader, the runner and the
    files answer.  An automatic run asks nobody; a download is made only of a remote baseline,
    from the address that was set and to the base file, and only if the run is automatic or the
    first question was about it and was answered with yes; and if the run is not automatic and
    every question is answered with no, nothing is downloaded, and no file is applied but the
    base file, which was found before, and only if there is no address to download from. -/
theorem resolve_consented (s : σ) :
    (r.automatic = true → questions ((r.resolve.trail answer s).map Prod.fst) = [])
    ∧ (∀ before m after url destination,
        (r.resolve.trail answer s).map Prod.fst = before ++ m :: after →
        download? m = some (url, destination) →
        r.policy.origin = .remote ∧ r.url = some url ∧ r.baseFile = some destination
          ∧ (r.automatic = true ∨ questions before = [r.accepted]))
    ∧ (r.automatic = false → (∀ m ∈ (r.resolve.trail answer s).map Prod.fst, Declined m) →
        downloads ((r.resolve.trail answer s).map Prod.fst) = []
          ∧ ∀ before after connection file outcome,
            (r.resolve.trail answer s).map Prod.fst
              = before ++ ⟨.runner (.file connection file), outcome⟩ :: after →
            r.baseFile = some file
              ∧ (⟨.machine (.isFile file), true⟩ : Exchange Site.interface) ∈ before
              ∧ (r.policy.origin = .bundled ∨ r.url = none)) := by
  have hpermitted := r.resolve_permitted answer s
  generalize (r.resolve.trail answer s).map Prod.fst = past at hpermitted ⊢
  refine ⟨questions_eq_nil hpermitted, ?_, fun hauto hdeclined => ?_⟩
  · intro before m after url destination heq hdownload
    obtain ⟨hurl, hbase, hwanted⟩ := (hpermitted before m after heq).download hdownload
    obtain ⟨horigin, hset⟩ := remoteUrl_eq_some_iff.mp hurl
    exact ⟨horigin, hset, hbase, hwanted⟩
  · have hnone := downloads_eq_nil hpermitted hauto hdeclined
    refine ⟨hnone, fun before after connection file outcome heq => ?_⟩
    have hchosen : r.Chosen file before := hpermitted before _ after heq
    rw [heq, downloads_append] at hnone
    obtain ⟨hurl, hbase, hthere⟩ := hchosen.standing_of_declined
      (fun m hm => hdeclined m (heq ▸ List.mem_append_left _ hm))
      (List.append_eq_nil_iff.mp hnone).1
    exact ⟨hbase, hthere, remoteUrl_eq_none_iff.mp hurl⟩

end Resolver

end SchemaMigration.Baseline
