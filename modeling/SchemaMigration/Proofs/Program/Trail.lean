import SchemaMigration.Program

/-! # Trails — the moments that a run passes through

    A run asks one question after another, and every answer leaves a state
    behind.  A property that has to hold however a run goes, and wherever it
    stops, is a property of all of these moments:

    * `trail` lists the exchanges of a run, each with the state after it;
    * `Asks` says that a program asks only allowed questions, whatever it hears;
    * `Poses` says that every question is asked in a state that is right for it;
    * `Along` says that every exchange is as those before it permit;
    * `Keeps` says that a property holds at every moment, and what holds at the end.

    `Keeps` is computed from the program, so a claim about a run follows the way
    in which the program is written; `Keeps.moment` reads it back on the trail. -/

namespace SchemaMigration.Program

variable {I : Interface} {α β σ ε : Type}
variable {answer : (q : I.Request) → σ → I.Reply q × σ}

/-! ## Exchanges with the states they lead to -/

theorem run_ask (q : I.Request) (next : I.Reply q → Program I α) (s : σ) :
    (ask q next).run answer s = (next (answer q s).1).run answer (answer q s).2 := rfl

/-- Every exchange of a run with the state after it, in order. -/
def trail (answer : (q : I.Request) → σ → I.Reply q × σ) :
    Program I α → σ → List (Exchange I × σ)
  | .done _, _ => []
  | .ask q next, s =>
      (⟨q, (answer q s).1⟩, (answer q s).2)
        :: (next (answer q s).1).trail answer (answer q s).2

/-- A question adds its exchange, with the state behind it, in front of the rest. -/
theorem trail_ask (q : I.Request) (next : I.Reply q → Program I α) (s : σ) :
    (ask q next).trail answer s = (⟨q, (answer q s).1⟩, (answer q s).2)
      :: (next (answer q s).1).trail answer (answer q s).2 := rfl

/-- The state that a run has reached after a part of its trail. -/
def reached (s : σ) (moments : List (Exchange I × σ)) : σ :=
  (moments.getLast?.map Prod.snd).getD s

@[simp] theorem reached_nil (s : σ) : reached s ([] : List (Exchange I × σ)) = s := rfl

/-- Behind a longer trail, the state is the one reached at its end. -/
@[simp] theorem reached_cons (s : σ) (m : Exchange I × σ) (l : List (Exchange I × σ)) :
    reached s (m :: l) = reached m.2 l := by
  rw [reached, reached, List.getLast?_cons]
  cases l.getLast? with
  | none => rfl
  | some n => rfl

/-- At the end of its trail a run has reached its last state. -/
theorem reached_trail (p : Program I α) (s : σ) :
    reached s (p.trail answer s) = (p.run answer s).2 := by
  induction p generalizing s with
  | done a => rfl
  | ask q next ih =>
      show reached s (_ :: (next (answer q s).1).trail answer (answer q s).2) = _
      rw [reached_cons]
      exact ih (answer q s).1 (answer q s).2

/-! ## Questions -/

/-- The program asks only allowed questions, whatever the answers are. -/
def Asks (allowed : I.Request → Prop) : Program I α → Prop
  | .done _ => True
  | .ask q next => allowed q ∧ ∀ r, (next r).Asks allowed

/-- Two programs that ask only what is allowed do so one behind the other. -/
theorem Asks.bind {allowed : I.Request → Prop} {p : Program I α} {f : α → Program I β}
    (hp : p.Asks allowed) (hf : ∀ a, (f a).Asks allowed) : (p.bind f).Asks allowed := by
  induction p with
  | done a => exact hf a
  | ask q next ih => exact ⟨hp.1, fun r => ih r (hp.2 r)⟩

/-- What asks only what is allowed does so where more is allowed. -/
theorem Asks.mono {allowed wider : I.Request → Prop} {p : Program I α}
    (hp : p.Asks allowed) (h : ∀ q, allowed q → wider q) : p.Asks wider := by
  induction p with
  | done a => trivial
  | ask q next ih => exact ⟨h q hp.1, fun r => ih r (hp.2 r)⟩

/-- Where everything is allowed, every program asks only what is allowed. -/
theorem asks_of_forall {allowed : I.Request → Prop} (h : ∀ q, allowed q) (p : Program I α) :
    p.Asks allowed := by
  induction p with
  | done a => trivial
  | ask q next ih => exact ⟨h q, ih⟩

/-- Every question on the trail is one that the program may ask. -/
theorem Asks.trail {allowed : I.Request → Prop} {p : Program I α} (hp : p.Asks allowed) :
    ∀ (s : σ), ∀ m ∈ p.trail answer s, allowed m.1.1 := by
  induction p with
  | done a => intro s m hm; exact nomatch hm
  | ask q next ih =>
      intro s m hm
      rcases List.mem_cons.mp hm with heq | hrest
      · rw [heq]; exact hp.1
      · exact ih _ (hp.2 _) _ m hrest

/-- What is seen of no exchange over an allowed question is not seen on the trail. -/
theorem Asks.filterMap_trail {γ : Type} {allowed : I.Request → Prop} {p : Program I α}
    (hp : p.Asks allowed) {view : Exchange I → Option γ}
    (h : ∀ m : Exchange I, allowed m.1 → view m = none) (s : σ) :
    (p.trail answer s).filterMap (fun m => view m.1) = [] :=
  List.filterMap_eq_nil_iff.mpr fun m hm => h m.1 (hp.trail s m hm)

/-- A view of the state that no allowed question alters is the same at the end of a run. -/
theorem Asks.unaltered {γ : Type} {view : σ → γ} {allowed : I.Request → Prop} {p : Program I α}
    (hp : p.Asks allowed) (h : ∀ q s, allowed q → view (answer q s).2 = view s) (s : σ) :
    view (p.run answer s).2 = view s := by
  induction p generalizing s with
  | done a => rfl
  | ask q next ih => exact (ih _ (hp.2 _) _).trans (h q s hp.1)

/-- Every question is asked in a state that is right for it. -/
def Poses (answer : (q : I.Request) → σ → I.Reply q × σ) (right : I.Request → σ → Prop) :
    Program I α → σ → Prop
  | .done _, _ => True
  | .ask q next, s => right q s ∧ (next (answer q s).1).Poses answer right (answer q s).2

section

variable {right : I.Request → σ → Prop}

/-- A program that asks only questions which are right in every state. -/
theorem Asks.poses {allowed : I.Request → Prop} {p : Program I α} (hp : p.Asks allowed)
    (h : ∀ q s, allowed q → right q s) (s : σ) : p.Poses answer right s := by
  induction p generalizing s with
  | done a => trivial
  | ask q next ih => exact ⟨h q s hp.1, ih _ (hp.2 _) _⟩

/-- The questions of a sequence are those of its two parts, the second in the state that the
first leaves. -/
theorem poses_bind (p : Program I α) (f : α → Program I β) (s : σ) :
    (p.bind f).Poses answer right s
      ↔ p.Poses answer right s
        ∧ (f (p.run answer s).1).Poses answer right (p.run answer s).2 := by
  induction p generalizing s with
  | done a => exact ⟨fun h => ⟨trivial, h⟩, And.right⟩
  | ask q next ih => exact (and_congr_right fun _ => ih _ _).trans and_assoc.symm

/-- An exchange on the trail was made in a state that was right for its question. -/
theorem Poses.exchange {p : Program I α} {s : σ} (hp : p.Poses answer right s)
    {m : Exchange I × σ} (hm : m ∈ p.trail answer s) :
    ∃ u, right m.1.1 u ∧ answer m.1.1 u = (m.1.2, m.2) := by
  induction p generalizing s with
  | done a => exact nomatch hm
  | ask q next ih =>
      rcases List.mem_cons.mp hm with rfl | hrest
      · exact ⟨s, hp.1, rfl⟩
      · exact ih _ hp.2 hrest

end

/-! ## Properties of every exchange -/

/-- Every exchange is as the exchanges before it permit. -/
def Along (permits : List (Exchange I) → Exchange I → Prop) (past : List (Exchange I)) : Prop :=
  ∀ before m after, past = before ++ m :: after → permits before m

section

variable {permits : List (Exchange I) → Exchange I → Prop}

theorem along_nil : Along permits [] := fun _ _ _ h => nomatch List.append_eq_nil_iff.mp h.symm

/-- One more exchange, permitted after those before it, keeps all of them permitted. -/
theorem Along.append {past : List (Exchange I)} {m : Exchange I} (h : Along permits past)
    (hm : permits past m) : Along permits (past ++ [m]) := by
  intro before m' after heq
  -- The exchange in question is the new one, or there is a last one behind it to take off.
  rcases List.eq_nil_or_concat after with rfl | ⟨init, last, rfl⟩
  · obtain ⟨rfl, hlast⟩ := List.append_inj' heq rfl
    obtain rfl := List.singleton_inj.mp hlast
    exact hm
  · rw [List.concat_eq_append, ← List.cons_append, ← List.append_assoc] at heq
    exact h before m' init (List.append_inj' heq rfl).1

/-- Every exchange stands somewhere. -/
theorem Along.exists_before {past : List (Exchange I)} {m : Exchange I} (h : Along permits past)
    (hm : m ∈ past) : ∃ before after, past = before ++ m :: after ∧ permits before m := by
  obtain ⟨before, after, heq⟩ := List.append_of_mem hm
  exact ⟨before, after, heq, h before m after heq⟩

end

/-! ## Properties of every moment -/

/-- Started in `s` after the exchanges `past`, the program satisfies `inv` after
    every exchange and ends with `post`. -/
def Keeps (answer : (q : I.Request) → σ → I.Reply q × σ) (inv : List (Exchange I) → σ → Prop)
    (post : α → List (Exchange I) → σ → Prop) : Program I α → List (Exchange I) → σ → Prop
  | .done a, past, s => post a past s
  | .ask q next, past, s =>
      inv (past ++ [⟨q, (answer q s).1⟩]) (answer q s).2
        ∧ (next (answer q s).1).Keeps answer inv post (past ++ [⟨q, (answer q s).1⟩])
            (answer q s).2

variable {inv : List (Exchange I) → σ → Prop}

/-- A question keeps a property if it does so itself, and whatever follows does from
    every state in which the property holds. -/
theorem Keeps.ask {post : α → List (Exchange I) → σ → Prop} {q : I.Request}
    {next : I.Reply q → Program I α} {past : List (Exchange I)} {s : σ}
    (h : inv (past ++ [⟨q, (answer q s).1⟩]) (answer q s).2)
    (hnext : ∀ r t, inv (past ++ [⟨q, r⟩]) t →
      (next r).Keeps answer inv post (past ++ [⟨q, r⟩]) t) :
    (Program.ask q next).Keeps answer inv post past s := ⟨h, hnext _ _ h⟩

/-- A question keeps a property if the answer that it gets does, and so does whatever follows
    on that answer. -/
theorem Keeps.answered {post : α → List (Exchange I) → σ → Prop} {q : I.Request}
    {next : I.Reply q → Program I α} {past : List (Exchange I)} {s : σ}
    (h : ∀ r t, answer q s = (r, t) → inv (past ++ [⟨q, r⟩]) t
      ∧ (next r).Keeps answer inv post (past ++ [⟨q, r⟩]) t) :
    (Program.ask q next).Keeps answer inv post past s := h _ _ rfl

/-- A sequence keeps an invariant if its first part does and leaves what the second needs; this
is an equivalence, so a sequence can be taken apart from a hypothesis as well. -/
theorem keeps_bind {post : β → List (Exchange I) → σ → Prop} (p : Program I α)
    (f : α → Program I β) (past : List (Exchange I)) (s : σ) :
    (p.bind f).Keeps answer inv post past s
      ↔ p.Keeps answer inv (fun a past s => (f a).Keeps answer inv post past s) past s := by
  induction p generalizing past s with
  | done a => exact Iff.rfl
  | ask q next ih => exact and_congr_right fun _ => ih _ _ _

/-- A program keeps whatever is weaker than what it keeps. -/
theorem Keeps.imp {weaker : List (Exchange I) → σ → Prop}
    {post wider : α → List (Exchange I) → σ → Prop} {p : Program I α}
    {past : List (Exchange I)} {s : σ} (hp : p.Keeps answer inv post past s)
    (hinv : ∀ past s, inv past s → weaker past s)
    (hpost : ∀ a past s, post a past s → wider a past s) : p.Keeps answer weaker wider past s := by
  induction p generalizing past s with
  | done a => exact hpost a past s hp
  | ask q next ih => exact ⟨hinv _ _ hp.1, ih _ hp.2⟩

theorem Keeps.mono {post wider : α → List (Exchange I) → σ → Prop} {p : Program I α}
    {past : List (Exchange I)} {s : σ} (hp : p.Keeps answer inv post past s)
    (h : ∀ a past s, post a past s → wider a past s) : p.Keeps answer inv wider past s :=
  hp.imp (fun _ _ => id) h

/-- A program that asks only questions which keep the property keeps it to the end. -/
theorem Asks.keeps {allowed : I.Request → Prop} {p : Program I α} (hp : p.Asks allowed)
    (step : ∀ q past s, allowed q → inv past s →
      inv (past ++ [⟨q, (answer q s).1⟩]) (answer q s).2)
    {past : List (Exchange I)} {s : σ} (h : inv past s) :
    p.Keeps answer inv (fun _ => inv) past s := by
  induction p generalizing past s with
  | done a => exact h
  | ask q next ih =>
      have hnext := step q past s hp.1 h
      exact ⟨hnext, ih _ (hp.2 _) hnext⟩

/-- What a program keeps holds at every moment of its trail. -/
theorem Keeps.moment {post : α → List (Exchange I) → σ → Prop} {p : Program I α}
    {past : List (Exchange I)} {s : σ} (hp : p.Keeps answer inv post past s) (h : inv past s) :
    ∀ before after, p.trail answer s = before ++ after →
      inv (past ++ before.map Prod.fst) (reached s before) := by
  -- Induction on the program; the first exchange moves from the prefix into the past.
  induction p generalizing past s with
  | done a =>
      intro before after hsplit
      have hnil : before = [] := (List.append_eq_nil_iff.mp hsplit.symm).1
      rw [hnil]
      simpa using h
  | ask q next ih =>
      intro before after hsplit
      cases before with
      | nil => simpa using h
      | cons m before =>
          obtain ⟨hm, hrest⟩ := List.cons.inj hsplit
          subst hm
          have := ih _ hp.2 hp.1 before after hrest
          simpa using this

/-- What a program keeps to its end holds of its result and its whole trail. -/
theorem Keeps.outcome {post : α → List (Exchange I) → σ → Prop} {p : Program I α}
    {past : List (Exchange I)} {s : σ} (hp : p.Keeps answer inv post past s) :
    post (p.run answer s).1 (past ++ (p.trail answer s).map Prod.fst) (p.run answer s).2 := by
  induction p generalizing past s with
  | done a =>
      show post a (past ++ []) s
      rw [List.append_nil]
      exact hp
  | ask q next ih =>
      have := ih _ hp.2
      rw [List.append_assoc] at this
      exact this

/-- A property of the end alone is read off the run and its whole trail. -/
theorem keeps_end_iff {post : α → List (Exchange I) → σ → Prop} {p : Program I α}
    {past : List (Exchange I)} {s : σ} :
    p.Keeps answer (fun _ _ => True) post past s
      ↔ post (p.run answer s).1 (past ++ (p.trail answer s).map Prod.fst) (p.run answer s).2 := by
  refine ⟨Keeps.outcome, ?_⟩
  induction p generalizing past s with
  | done a =>
      intro h
      show post a past s
      rw [← List.append_nil past]
      exact h
  | ask q next ih =>
      intro h
      refine ⟨trivial, ih _ ?_⟩
      rw [List.append_assoc]
      exact h

/-! ## Programs that may stop with an error -/

/-- A sequence stops with the first error. -/
theorem attempt_bind (p : Attempt I ε α) (f : α → Attempt I ε β) :
    (p >>= f).run = p.run.bind fun r =>
      match r with
      | .ok a => (f a).run
      | .error e => .done (.error e) := by
  refine congrArg (Program.bind p.run) (funext fun r => ?_)
  cases r with
  | ok a => rfl
  | error e => rfl

/-- Succeeding with what was found adds nothing. -/
theorem attempt_pure (p : Attempt I ε α) : (p >>= pure).run = p.run := by
  refine (congrArg (Program.bind p.run) (funext fun r => ?_)).trans p.run.bind_done
  cases r with
  | ok a => rfl
  | error e => rfl

/-- An attempt asks only what is allowed if all of its steps do. -/
theorem Asks.attempt {allowed : I.Request → Prop} {p : Attempt I ε α} {f : α → Attempt I ε β}
    (hp : p.run.Asks allowed) (hf : ∀ a, (f a).run.Asks allowed) :
    (p >>= f).run.Asks allowed := by
  rw [attempt_bind]
  refine hp.bind fun r => ?_
  cases r with
  | ok a => exact hf a
  | error e => trivial

/-- A sequence asks in the right states if its first part does and, where that succeeds,
    its second. -/
theorem Poses.attempt {right : I.Request → σ → Prop} {p : Attempt I ε α}
    {f : α → Attempt I ε β} {s : σ} (hp : p.run.Poses answer right s)
    (hf : ∀ a t, p.run.run answer s = (.ok a, t) → (f a).run.Poses answer right t) :
    (p >>= f).run.Poses answer right s := by
  rw [attempt_bind, poses_bind]
  refine ⟨hp, ?_⟩
  cases hr : p.run.run answer s with
  | mk r t =>
      cases r with
      | ok a => exact hf a t hr
      | error e => trivial

/-- A sequence keeps a property if its first part does and, where that succeeds, its second. -/
theorem Keeps.attempt {post : Except ε β → List (Exchange I) → σ → Prop} {p : Attempt I ε α}
    {f : α → Attempt I ε β} {past : List (Exchange I)} {s : σ}
    (h : p.run.Keeps answer inv (fun r past s =>
      match r with
      | .ok a => (f a).run.Keeps answer inv post past s
      | .error e => post (.error e) past s) past s) :
    (p >>= f).run.Keeps answer inv post past s := by
  rw [attempt_bind, keeps_bind]
  refine h.mono fun r past s hr => ?_
  cases r with
  | ok a => exact hr
  | error e => exact hr

/-- A sequence succeeds exactly if both of its parts do. -/
theorem run_attempt_eq_ok {p : Attempt I ε α} {f : α → Attempt I ε β} {s t : σ} {b : β} :
    (p >>= f).run.run answer s = (.ok b, t)
      ↔ ∃ a u, p.run.run answer s = (.ok a, u) ∧ (f a).run.run answer u = (.ok b, t) := by
  rw [attempt_bind, run_bind]
  cases hp : p.run.run answer s with
  | mk r u =>
      cases r with
      | ok a =>
          constructor
          · intro h; exact ⟨a, u, rfl, h⟩
          · rintro ⟨a', u', heq, h⟩
            obtain ⟨ha, rfl⟩ := Prod.mk.inj heq
            obtain rfl := Except.ok.inj ha
            exact h
      | error e =>
          constructor
          · intro h
            exact nomatch (Prod.mk.inj h).1
          · rintro ⟨a', u', heq, -⟩
            exact nomatch (Prod.mk.inj heq).1

/-- A sequence fails with what its first part fails with or, where that succeeds, its second. -/
theorem run_attempt_eq_error {p : Attempt I ε α} {f : α → Attempt I ε β} {s t : σ} {e : ε} :
    (p >>= f).run.run answer s = (.error e, t)
      ↔ p.run.run answer s = (.error e, t)
        ∨ ∃ a u, p.run.run answer s = (.ok a, u) ∧ (f a).run.run answer u = (.error e, t) := by
  rw [attempt_bind, run_bind]
  cases hp : p.run.run answer s with
  | mk r u =>
      cases r with
      | ok a =>
          constructor
          · intro h; exact .inr ⟨a, u, rfl, h⟩
          · rintro (heq | ⟨a', u', heq, h⟩)
            · exact nomatch (Prod.mk.inj heq).1
            · obtain ⟨ha, rfl⟩ := Prod.mk.inj heq
              obtain rfl := Except.ok.inj ha
              exact h
      | error e' =>
          constructor
          · intro h
            obtain ⟨he, rfl⟩ := Prod.mk.inj h
            obtain rfl := Except.error.inj he
            exact .inl rfl
          · rintro (heq | ⟨a', u', heq, -⟩)
            · obtain ⟨he, rfl⟩ := Prod.mk.inj heq
              obtain rfl := Except.error.inj he
              rfl
            · exact nomatch (Prod.mk.inj heq).1

end SchemaMigration.Program
