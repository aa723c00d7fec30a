import EdgeStreams.Proofs.Session.Lookup

/-!
# Writing to a sink at rest

Between two operations a sink over a host body or over a transform stream has nothing to do: no
write waits and no work is under way. Writing, closing and aborting then come to one piece of work
each, after which the sink is at rest again.

## Main definitions

- `Sink.AtRest`: nothing waits and nothing is under way
- `Sink.Rests`: the same of a sink that its owner has not released
- `Sink.working`, `Sink.settled`: the sink while it works and once the outcome is known

## Main statements

- `Session.exec_write_of_atRest`, `Session.exec_close_of_atRest`, `Session.exec_abort_of_atRest`:
  the operations in terms of the work that reaches the sink
-/

namespace EdgeStreams

variable {H E : Type}

namespace Sink

/-- A sink with nothing to do, released or not. -/
structure AtRest (sink : Sink E) (state : WritableState) (lock : Option WriterToken) : Prop where
  started : sink.start = .resolved
  pending : sink.controller.pending = []
  idle : sink.controller.inFlight = false
  unaborted : sink.controller.abortRequested = false
  state : sink.controller.state = state
  lock : sink.writerLock = lock

/-- A sink with nothing to do, which its owner has not released. -/
structure Rests (sink : Sink E) (state : WritableState) (lock : Option WriterToken) : Prop where
  started : sink.start = .resolved
  kept : sink.released = false
  pending : sink.controller.pending = []
  idle : sink.controller.inFlight = false
  unaborted : sink.controller.abortRequested = false
  state : sink.controller.state = state
  lock : sink.writerLock = lock

/-- The sink in another state. -/
def inState (sink : Sink E) (state : WritableState) : Sink E :=
  { sink with controller := { sink.controller with state } }

/-- The sink while it works. -/
def working (sink : Sink E) : Sink E :=
  { sink with controller := { sink.controller with inFlight := true } }

/-- The sink once it has failed, unless it had ended. -/
def failing (sink : Sink E) (error : StreamError) : Sink E :=
  { sink with controller := sink.controller.error error }

/-- The sink once its work has come to an outcome. -/
def settled (sink : Sink E) (outcome : Except StreamError Unit) : Sink E :=
  match outcome with
  | .ok () => sink
  | .error error => sink.failing error

variable {sink : Sink E} {state : WritableState} {lock : Option WriterToken}

@[simp] theorem backing_inState : (sink.inState state).backing = sink.backing := rfl

@[simp] theorem backing_working : sink.working.backing = sink.backing := rfl

@[simp] theorem backing_failing (error : StreamError) :
    (sink.failing error).backing = sink.backing := rfl

@[simp] theorem backing_settled (outcome : Except StreamError Unit) :
    (sink.settled outcome).backing = sink.backing := by
  cases outcome <;> rfl

theorem Rests.atRest (h : sink.Rests state lock) : sink.AtRest state lock :=
  ⟨h.started, h.pending, h.idle, h.unaborted, h.state, h.lock⟩

theorem Rests.inState (h : sink.Rests state lock) (next : WritableState) :
    (sink.inState next).Rests next lock :=
  ⟨h.started, h.kept, h.pending, h.idle, h.unaborted, rfl, h.lock⟩

/-- A sink at rest that has not ended fails. -/
theorem Rests.failing (h : sink.Rests state lock) (hs : state.isTerminal = false)
    (error : StreamError) : (sink.failing error).Rests (.errored error) lock := by
  have ht : sink.controller.state.isTerminal = false := by rw [h.state, hs]
  refine ⟨h.started, h.kept, ?_, ?_, ?_, ?_, h.lock⟩
  all_goals simp [Sink.failing, WritableController.error, ht, h.idle, h.unaborted]

/-- A sink that has ended or failed does not fail again. -/
theorem Rests.failing_of_terminal (h : sink.Rests state lock) (hs : state.isTerminal = true)
    (error : StreamError) : sink.failing error = sink := by
  have ht : sink.controller.state.isTerminal = true := by rw [h.state, hs]
  simp [Sink.failing, WritableController.error, ht]

theorem Rests.unlock (h : sink.Rests state lock) {token : WriterToken} (hl : lock = some token) :
    (Registry.unlockWriter token sink).Rests state none := by
  have hk : sink.writerLock = some token := by rw [h.lock, hl]
  rw [Registry.unlockWriter, if_pos hk]
  exact ⟨h.started, h.kept, h.pending, h.idle, h.unaborted, h.state, rfl⟩

@[simp] theorem backing_unlockWriter (token : WriterToken) :
    (Registry.unlockWriter token sink).backing = sink.backing := by
  unfold Registry.unlockWriter
  split <;> rfl

end Sink

namespace Session

variable {s s' : Session H E} {id : WritableId} {sink : Sink E}
variable {lock : Option WriterToken} {outcome : Except StreamError Unit}

@[simp] theorem setSink_setSink (first second : Sink E) :
    setSink id second (setSink id first s) = setSink id second s := by
  simp [setSink, mapStreams]

variable [Host H]

/-- Writing to a sink at rest is the work of its write algorithm, whose outcome the sink keeps. -/
theorem exec_write_of_atRest {chunk : Bytes} (h : s.streams.sink? id = some sink)
    (hr : sink.AtRest .writable lock)
    (hwork : exec (writeAlgorithm id chunk) (setSink id sink.working s) = (outcome, s'))
    (hkept : s'.streams.sink? id = some sink.working) :
    exec (write id chunk lock) s =
      (outcome, setSink id (sink.settled outcome) (note (.written id chunk outcome) s')) := by
  obtain ⟨backing, ⟨mark, pending, size, inFlight, aborting, state⟩, start, owner,
      held, released⟩ :=
    sink
  obtain ⟨rfl, rfl, rfl, rfl, rfl, rfl⟩ := hr
  simp only [Sink.working] at hwork hkept
  cases outcome with
  | ok =>
    simp [write, writeUnchecked, advance, advanceRounds, engage, settle, exec_bind, exec_noting,
      Registry.sink?_setSink, WritableController.push, WritableController.pop, Except.bind,
      StartState.isResolved, h, hwork, hkept, Sink.settled]
  | error error =>
    simp [write, writeUnchecked, advance, advanceRounds, engage, settle, exec_bind, exec_noting,
      Registry.sink?_setSink, WritableController.push, WritableController.pop, Except.bind,
      StartState.isResolved, h, hwork, hkept, Sink.settled, Sink.failing]

/-- Closing a sink at rest is the work of its close algorithm. -/
theorem exec_close_of_atRest (h : s.streams.sink? id = some sink)
    (hr : sink.AtRest .writable lock)
    (hwork : exec (closeAlgorithm id) (setSink id (sink.inState .closing).working s) =
      (outcome, s'))
    (hkept : s'.streams.sink? id = some (sink.inState .closing).working) :
    exec (close id lock) s =
      (outcome,
        setSink id
          (match outcome with
            | .ok () => sink.inState .closed
            | .error error => (sink.inState .closing).failing error)
          (note (.closed id outcome) s')) := by
  obtain ⟨backing, ⟨mark, pending, size, inFlight, aborting, state⟩, start, owner,
      held, released⟩ :=
    sink
  obtain ⟨rfl, rfl, rfl, rfl, rfl, rfl⟩ := hr
  simp only [Sink.working, Sink.inState] at hwork hkept
  cases outcome with
  | ok =>
    simp [close, closeUnchecked, advance, advanceRounds, engage, settle, exec_bind, exec_noting,
      Registry.sink?_setSink, WritableController.pop, Except.bind,
      StartState.isResolved, h, hwork, hkept, Sink.inState]
  | error error =>
    simp [close, closeUnchecked, advance, advanceRounds, engage, settle, exec_bind, exec_noting,
      Registry.sink?_setSink, WritableController.pop, Except.bind,
      StartState.isResolved, h, hwork, hkept, Sink.inState, Sink.failing]

/-- Aborting a sink at rest fails it and is then the work of its abort algorithm. -/
theorem exec_abort_of_atRest {reason : Option String} (h : s.streams.sink? id = some sink)
    (hr : sink.AtRest .writable lock)
    (hwork : exec (abortAlgorithm id reason) (setSink id (sink.failing .aborted) s) =
      (outcome, s')) :
    exec (abort id reason lock) s = (outcome, note (.aborted id outcome) s') := by
  obtain ⟨backing, ⟨mark, pending, size, inFlight, aborting, state⟩, start, owner,
      held, released⟩ :=
    sink
  obtain ⟨rfl, rfl, rfl, rfl, rfl, rfl⟩ := hr
  simp only [Sink.failing, WritableController.error, WritableState.isTerminal] at hwork
  simp [abort, abortUnchecked, exec_bind, exec_noting, Except.bind, WritableState.isTerminal,
    WritableController.error, h] at hwork ⊢
  simp [hwork]

end Session

end EdgeStreams
