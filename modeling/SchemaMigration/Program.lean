/-! # Programs over an interface — effects as data

    A migration run talks to a database, to script files, to an operator and to
    a downloader.  None of these is under the run's control, so a run is a tree:
    it asks a question and goes on with whatever answer comes back.

    * `Interface` lists the questions and the shape of each answer;
    * `Program` is the tree, a monad in which runs are written;
    * `Program.run` answers the questions from a state, in order;
    * `Program.via` rewrites the questions of one interface into programs of
      another, so that layers compose.

    A statement about every behaviour of the surroundings quantifies over the
    answering function. -/

namespace SchemaMigration

/-- The questions a program may ask, and the type of the answer to each. -/
structure Interface where
  Request : Type
  Reply : Request → Type

/-- A program is finished with a value, or asks and continues on the answer. -/
inductive Program (I : Interface) (α : Type) : Type where
  | done (value : α)
  | ask (question : I.Request) (next : I.Reply question → Program I α)

namespace Program

variable {I J : Interface} {α β σ : Type}

/-- Runs `p`, then the program chosen by its value. -/
def bind : Program I α → (α → Program I β) → Program I β
  | .done a, f => f a
  | .ask q next, f => .ask q fun r => (next r).bind f

instance : Monad (Program I) where
  pure := .done
  bind := Program.bind

/-- The program that asks one question and returns the answer. -/
def request (q : I.Request) : Program I (I.Reply q) :=
  .ask q .done

/-- Answers every question from a state, first question first. -/
def run (answer : (q : I.Request) → σ → I.Reply q × σ) : Program I α → σ → α × σ
  | .done a, s => (a, s)
  | .ask q next, s =>
      let (r, t) := answer q s
      (next r).run answer t

/-- Replaces every question by a program over another interface. -/
def via (f : (q : I.Request) → Program J (I.Reply q)) : Program I α → Program J α
  | .done a => .done a
  | .ask q next => (f q).bind fun r => (next r).via f

/-- A question together with the answer it got. -/
abbrev Exchange (I : Interface) := (q : I.Request) × I.Reply q

@[simp] theorem bind_done (p : Program I α) : p.bind done = p := by
  induction p with
  | done a => rfl
  | ask q next ih => simp [bind, ih]

@[simp] theorem run_done (answer : (q : I.Request) → σ → I.Reply q × σ) (a : α) (s : σ) :
    (done a : Program I α).run answer s = (a, s) := rfl

@[simp] theorem run_bind (answer : (q : I.Request) → σ → I.Reply q × σ)
    (p : Program I α) (f : α → Program I β) (s : σ) :
    (p.bind f).run answer s
      = (f (p.run answer s).1).run answer (p.run answer s).2 := by
  induction p generalizing s with
  | done a => rfl
  | ask q next ih => simp [bind, run, ih]

/-- Running a rewritten program answers each question by running its rewriting. -/
theorem run_via (answer : (q : J.Request) → σ → J.Reply q × σ)
    (f : (q : I.Request) → Program J (I.Reply q)) (p : Program I α) (s : σ) :
    (p.via f).run answer s = p.run (fun q t => (f q).run answer t) s := by
  induction p generalizing s with
  | done a => rfl
  | ask q next ih => simp [via, run, ih]

end Program

/-- A program that may stop with an error of type `ε`. -/
abbrev Attempt (I : Interface) (ε : Type) := ExceptT ε (Program I)

/-- Asks a question whose answer may be an error, and stops on the error. -/
def Attempt.request {I : Interface} {ε α : Type} (p : Program I (Except ε α)) :
    Attempt I ε α := p

end SchemaMigration
