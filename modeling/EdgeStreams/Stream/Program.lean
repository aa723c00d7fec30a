/-!
# Programs over calls

A guest acts on a stream only by calls on the controller it is handed. Its doings are therefore a
program: a tree that names a call, and goes on with the call's answer.

## Main definitions

- `Program`: finished with a result, or a call and what follows each answer
- `Program.bind`: one program after another
- `Program.run`: the result of a program when calls act on a state

## Main statements

- `Program.run_bind`: running one program after another
- `Program.run_preserves`: what every call keeps, every program keeps
-/

namespace EdgeStreams

/-- A program whose calls are of type `Op`; the answers to `op` are of type `Answer op`. -/
inductive Program {Op : Type} (Answer : Op → Type) (α : Type) where
  | done (result : α)
  | call (op : Op) (next : Answer op → Program Answer α)

namespace Program

variable {Op : Type} {Answer : Op → Type} {α β σ : Type}

/-- Goes on with the result of a program. -/
def bind : Program Answer α → (α → Program Answer β) → Program Answer β
  | .done result, next => next result
  | .call op rest, next => .call op fun answer => (rest answer).bind next

/-- Changes the result of a program. -/
def map (f : α → β) (program : Program Answer α) : Program Answer β :=
  program.bind fun result => .done (f result)

/-- The result of a program, and the state that its calls leave. -/
def run (perform : (op : Op) → σ → Answer op × σ) : Program Answer α → σ → α × σ
  | .done result, state => (result, state)
  | .call op next, state =>
    let (answer, state) := perform op state
    (next answer).run perform state

theorem run_bind (perform : (op : Op) → σ → Answer op × σ) (program : Program Answer α)
    (next : α → Program Answer β) (state : σ) :
    (program.bind next).run perform state =
      (next (program.run perform state).1).run perform (program.run perform state).2 := by
  induction program generalizing state with
  | done result => rfl
  | call op rest ih => exact ih _ _

/-- What every call keeps, every program keeps. -/
theorem run_preserves (perform : (op : Op) → σ → Answer op × σ) (P : σ → Prop)
    (hP : ∀ op state, P state → P (perform op state).2) (program : Program Answer α) (state : σ)
    (h : P state) : P (program.run perform state).2 := by
  induction program generalizing state with
  | done result => exact h
  | call op rest ih => exact ih _ _ (hP op state h)

end Program

end EdgeStreams
