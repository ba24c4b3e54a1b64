/-!
# Attempts

A step of the control plane may answer, may refuse, or may be cut off half way, and what it had
written by then stays written. `Attempt σ ε α` is such a step over a state `σ`: it always returns
a state beside its outcome, so a statement about what a failure leaves behind is a statement
about the second component.
-/

namespace EdgeFleet

/-- How a step ends: with an answer, with a refusal, or cut off. -/
inductive Outcome (ε α : Type) where
  | done (answer : α)
  | refused (error : ε)
  | crashed
deriving DecidableEq, Repr

namespace Outcome

/-- The same outcome with its answer and its refusal renamed. -/
def rename {ε ε' α β : Type} (error : ε → ε') (answer : α → β) : Outcome ε α → Outcome ε' β
  | done a => done (answer a)
  | refused e => refused (error e)
  | crashed => crashed

end Outcome

/-- A step that ends in an outcome and leaves a state, whichever the outcome is. -/
def Attempt (σ ε α : Type) : Type := σ → Outcome ε α × σ

namespace Attempt

variable {σ τ ε ε' α β : Type}

/-- Runs the step from a state. -/
def run (x : Attempt σ ε α) (s : σ) : Outcome ε α × σ := x s

/-- Answers without touching the state. -/
def answer (a : α) : Attempt σ ε α := fun s => (.done a, s)

/-- Runs `x` and, if it answers, `f` from the state that `x` left. -/
def andThen (x : Attempt σ ε α) (f : α → Attempt σ ε β) : Attempt σ ε β := fun s =>
  match x s with
  | (.done a, s') => f a s'
  | (.refused e, s') => (.refused e, s')
  | (.crashed, s') => (.crashed, s')

instance : Monad (Attempt σ ε) where
  pure := answer
  bind := andThen

/-- Refuses, keeping the state. -/
def refuse (e : ε) : Attempt σ ε α := fun s => (.refused e, s)

/-- Is cut off, keeping the state. -/
def crash : Attempt σ ε α := fun s => (.crashed, s)

/-- Answers something read from the state. -/
def view (f : σ → α) : Attempt σ ε α := fun s => (.done (f s), s)

def change (f : σ → σ) : Attempt σ ε Unit := fun s => (.done (), f s)

/-- Answers `a`, or refuses when there is none. -/
def orRefuse (e : ε) : Option α → Attempt σ ε α
  | some a => answer a
  | none => refuse e

/-- A computed answer or refusal. -/
def ofExcept : Except ε α → Attempt σ ε α
  | .ok a => answer a
  | .error e => refuse e

/-- An outcome that was come to without the state. -/
def ofOutcome (o : Outcome ε α) : Attempt σ ε α := fun s => (o, s)

def within (part : σ → τ) (restore : τ → σ → σ) (error : ε → ε') (x : Attempt τ ε α) :
    Attempt σ ε' α := fun s =>
  let (o, t) := x (part s)
  (o.rename error id, restore t s)

/-- The same step, refusing with other errors. -/
def renamed (error : ε → ε') (x : Attempt σ ε α) : Attempt σ ε' α := x.within id (fun t _ => t) error

/-! ## Running a step -/

@[simp] theorem run_pure (a : α) (s : σ) : (pure a : Attempt σ ε α).run s = (.done a, s) := rfl

@[simp] theorem run_answer (a : α) (s : σ) : (answer a : Attempt σ ε α).run s = (.done a, s) := rfl

@[simp] theorem run_refuse (e : ε) (s : σ) :
    (refuse e : Attempt σ ε α).run s = (.refused e, s) := rfl

@[simp] theorem run_crash (s : σ) : (crash : Attempt σ ε α).run s = (.crashed, s) := rfl

@[simp] theorem run_ofOutcome (o : Outcome ε α) (s : σ) :
    (ofOutcome o : Attempt σ ε α).run s = (o, s) := rfl

@[simp] theorem run_view (f : σ → α) (s : σ) :
    (view f : Attempt σ ε α).run s = (.done (f s), s) := rfl

@[simp] theorem run_change (f : σ → σ) (s : σ) :
    (change f : Attempt σ ε Unit).run s = (.done (), f s) := rfl

theorem run_bind (x : Attempt σ ε α) (f : α → Attempt σ ε β) (s : σ) :
    (x >>= f).run s = match x.run s with
      | (.done a, s') => (f a).run s'
      | (.refused e, s') => (.refused e, s')
      | (.crashed, s') => (.crashed, s') := rfl

end Attempt

end EdgeFleet
