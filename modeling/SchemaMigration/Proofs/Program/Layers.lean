import SchemaMigration.Proofs.Program.Trail

/-! # Layers — runs seen from above and from below

    `Program.via` writes a program in terms of a lower interface.  What the lower
    layer is asked is then known question by question:

    * `Asks.via`: rewritten questions ask only what their rewritings ask;
    * `filterMap_trail_via`: some of the lower exchanges can be read off the upper ones.

    A state may also be seen through a map that answers respect, and then so are
    whole runs (`run_map`, `trail_map`). -/

namespace SchemaMigration.Program

variable {I J : Interface} {α β σ τ : Type}

/-! ## Rewritten programs -/

/-- The trail of a sequence. -/
theorem trail_bind {answer : (q : I.Request) → σ → I.Reply q × σ} (p : Program I α)
    (f : α → Program I β) (s : σ) :
    (p.bind f).trail answer s
      = p.trail answer s ++ (f (p.run answer s).1).trail answer (p.run answer s).2 := by
  induction p generalizing s with
  | done a => rfl
  | ask q next ih => exact congrArg _ (ih _ _)

/-- The trail of a sequence whose first part succeeds. -/
theorem trail_attempt_of_ok {ε : Type} {answer : (q : I.Request) → σ → I.Reply q × σ}
    {p : Attempt I ε α} (f : α → Attempt I ε β) {s t : σ} {a : α}
    (h : p.run.run answer s = (.ok a, t)) :
    (p >>= f).run.trail answer s = p.run.trail answer s ++ (f a).run.trail answer t := by
  rw [attempt_bind, trail_bind, h]

/-- Where every question is rewritten into allowed ones, only allowed ones are asked. -/
theorem Asks.via {asked : I.Request → Prop} {allowed : J.Request → Prop}
    {f : (q : I.Request) → Program J (I.Reply q)} {p : Program I α} (hp : p.Asks asked)
    (h : ∀ q, asked q → (f q).Asks allowed) : (p.via f).Asks allowed := by
  induction p with
  | done a => trivial
  | ask q next ih => exact (h q hp.1).bind fun r => ih r (hp.2 r)

/-- Where each rewriting shows of its exchanges what the question shows, so do whole runs. -/
theorem filterMap_trail_via {γ : Type} {answer : (q : J.Request) → σ → J.Reply q × σ}
    {f : (q : I.Request) → Program J (I.Reply q)} {below : Exchange J → Option γ}
    {above : Exchange I → Option γ}
    (h : ∀ q s, ((f q).trail answer s).filterMap (fun m => below m.1)
      = (above ⟨q, ((f q).run answer s).1⟩).toList)
    (p : Program I α) (s : σ) :
    ((p.via f).trail answer s).filterMap (fun m => below m.1)
      = (p.trail (fun q t => (f q).run answer t) s).filterMap fun m => above m.1 := by
  induction p generalizing s with
  | done a => rfl
  | ask q next ih =>
      rw [Program.via, trail_bind, List.filterMap_append, h, ih, trail_ask, List.filterMap_cons]
      cases above ⟨q, ((f q).run answer s).1⟩ with
      | none => rfl
      | some m => rfl

/-! ## States seen through a map -/

section

variable {see : τ → σ} {answer : (q : I.Request) → σ → I.Reply q × σ}
variable {finer : (q : I.Request) → τ → I.Reply q × τ}

/-- Runs respect a view of the state that all answers respect. -/
theorem run_map (h : ∀ q t, answer q (see t) = ((finer q t).1, see (finer q t).2))
    (p : Program I α) (t : τ) :
    p.run answer (see t) = ((p.run finer t).1, see (p.run finer t).2) := by
  induction p generalizing t with
  | done a => rfl
  | ask q next ih =>
      rw [run_ask, run_ask, h]
      exact ih _ _

/-- Trails respect a view of the state that all answers respect. -/
theorem trail_map (h : ∀ q t, answer q (see t) = ((finer q t).1, see (finer q t).2))
    (p : Program I α) (t : τ) :
    p.trail answer (see t) = (p.trail finer t).map fun m => (m.1, see m.2) := by
  induction p generalizing t with
  | done a => rfl
  | ask q next ih =>
      rw [trail_ask, trail_ask, h]
      exact congrArg _ (ih _ _)

end

end SchemaMigration.Program
