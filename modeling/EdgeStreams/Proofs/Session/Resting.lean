import EdgeStreams.Proofs.Session.Touching
import EdgeStreams.Proofs.Session.Writing

/-!
# Writing to a sink that has nothing to do

Between two operations a sink has nothing to do, whatever is behind it. A write is then one piece of
work, in which the sink may fail, and an end or an abort is another.

## Main definitions

- `Sink.Idle`: the sink has nothing to do
- `Sink.WorkedInto`: the sink has ended or failed, or is as it was
- `Sink.rested`, `Sink.verdict`: what the outcome of the work makes of the sink and of the write
- `Sink.closedBy`: what the outcome of its end makes of the sink

## Main statements

- `Session.exec_writeUnchecked_of_idle`, `Session.exec_closeUnchecked_of_idle`,
  `Session.exec_abortUnchecked_of_idle`: the operations in terms of the work that reaches the sink
-/

namespace EdgeStreams

variable {H E : Type}

namespace Sink

/-- A sink with nothing to do: no write waits, it is not at work, neither an end nor an abort is
still to come, and if it takes writes it has been started. -/
structure Idle (sink : Sink E) : Prop where
  pending : sink.controller.pending = []
  inFlight : sink.controller.inFlight = false
  abortRequested : sink.controller.abortRequested = false
  unending : sink.controller.state ≠ .closing
  started : sink.controller.state = .writable → sink.start = .resolved

/-- The sink has ended or failed, and no write waits for it any more. -/
def Ended (sink sink' : Sink E) : Prop :=
  ∃ size state, WritableState.isTerminal state = true ∧
    sink' = { sink with controller :=
      { sink.controller with pending := [], pendingBytes := size, state } }

/-- The sink is as it was, or it took writes and has ended or failed. -/
def WorkedInto (sink sink' : Sink E) : Prop :=
  sink' = sink ∨ sink.controller.state = .writable ∧ sink.Ended sink'

/-- The sink once the outcome of its work is known. -/
def rested (sink : Sink E) (outcome : Except StreamError Unit) : Sink E :=
  match outcome with
  | .ok () => { sink with controller := { sink.controller with inFlight := false } }
  | .error error =>
    { sink with controller := { sink.controller with inFlight := false }.error error }

/-- The outcome of a write: that of the sink's work, or the failure that came meanwhile. -/
def verdict (sink : Sink E) (outcome : Except StreamError Unit) : Except StreamError Unit :=
  match outcome, sink.controller.state with
  | .error error, _ | .ok (), .errored error => .error error
  | .ok (), _ => .ok ()

/-- The sink once the outcome of its end is known. -/
def closedBy (sink : Sink E) (outcome : Except StreamError Unit) : Sink E :=
  match outcome with
  | .ok () => sink.inState .closed
  | .error error => (sink.inState .closing).failing error

variable {sink sink' : Sink E} {outcome : Except StreamError Unit}

/-- A sink that has nothing to do takes writes, or has ended or failed. -/
theorem Idle.writable (h : sink.Idle) (hs : sink.controller.state.isTerminal = false) :
    sink.controller.state = .writable := by
  cases hstate : sink.controller.state with
  | writable => rfl
  | closing => exact absurd hstate h.unending
  | closed | errored => simp [hstate, WritableState.isTerminal] at hs

theorem failing_of_writable (hs : sink.controller.state = .writable) (error : StreamError) :
    sink.failing error =
      { sink with controller := { sink.controller with
          pending := [], pendingBytes := 0, state := .errored error } } := by
  simp [failing, WritableController.error, hs, WritableState.isTerminal]

theorem ended_failing (hs : sink.controller.state = .writable) (error : StreamError) :
    sink.Ended (sink.failing error) := ⟨0, .errored error, rfl, failing_of_writable hs error⟩

theorem Ended.terminal (h : sink.Ended sink') : sink'.controller.state.isTerminal = true := by
  obtain ⟨size, state, hs, rfl⟩ := h
  exact hs

namespace WorkedInto

variable {third : Sink E}

theorem refl (sink : Sink E) : sink.WorkedInto sink := .inl rfl

theorem trans (h : sink.WorkedInto sink') (h' : sink'.WorkedInto third) :
    sink.WorkedInto third := by
  rcases h with rfl | ⟨hs, hended⟩
  · exact h'
  · rcases h' with rfl | ⟨hs', -⟩
    · exact .inr ⟨hs, hended⟩
    · have hterminal := hended.terminal
      rw [hs'] at hterminal
      cases hterminal

/-- A sink that is not about to end is failed. -/
theorem failing (hs : sink.controller.state ≠ .closing) (error : StreamError) :
    sink.WorkedInto (sink.failing error) := by
  cases hstate : sink.controller.state with
  | writable => exact .inr ⟨hstate, ended_failing hstate error⟩
  | closing => exact absurd hstate hs
  | closed | errored =>
    refine .inl ?_
    simp [Sink.failing, WritableController.error, hstate, WritableState.isTerminal]

theorem keeps (h : sink.WorkedInto sink') : sink.Keeps sink' := by
  rcases h with rfl | ⟨-, size, state, -, rfl⟩
  · exact .refl _
  · exact ⟨rfl, rfl, rfl, rfl, rfl⟩

/-- A sink that has nothing to do has nothing to do afterwards. -/
theorem idle (h : sink.WorkedInto sink') (hi : sink.Idle) : sink'.Idle := by
  rcases h with rfl | ⟨-, size, state, hs, rfl⟩
  · exact hi
  · refine ⟨rfl, hi.inFlight, hi.abortRequested, fun he => ?_, fun he => ?_⟩
    all_goals
      subst he
      cases hs

/-- What a sink that took writes is once its work is over. -/
theorem rested (h : sink.working.WorkedInto sink') (hi : sink.Idle)
    (hs : sink.controller.state = .writable) (outcome : Except StreamError Unit) :
    sink.WorkedInto (sink'.rested outcome) := by
  obtain ⟨backing, ⟨mark, pending, size, inFlight, aborting, state⟩, start, owner,
      lock, released⟩ :=
    sink
  obtain ⟨rfl, rfl, rfl, -, -⟩ := hi
  cases hs
  rcases h with rfl | ⟨-, left, state, hstate, rfl⟩
  · cases outcome with
    | ok => exact .inl rfl
    | error error => exact .inr ⟨rfl, ended_failing rfl error⟩
  · refine .inr ⟨rfl, left, state, hstate, ?_⟩
    cases outcome with
    | ok => rfl
    | error error => simp [Sink.rested, WritableController.error, hstate, Sink.working]

end WorkedInto

/-- A write that has failed leaves a sink that takes no more. -/
theorem terminal_rested (error : StreamError) :
    (sink.rested (.error error)).controller.state.isTerminal = true := by
  unfold rested WritableController.error
  dsimp only
  split
  · assumption
  · rfl

/-- A sink that has been ended takes no more writes, and has ended if that went well. -/
theorem Idle.closedBy (h : sink.Idle) (outcome : Except StreamError Unit) :
    sink.Ended (sink.closedBy outcome) ∧
      (outcome = .ok () → (sink.closedBy outcome).controller.state = .closed) := by
  cases outcome with
  | ok =>
    exact ⟨⟨sink.controller.pendingBytes, .closed, rfl, by
      simp [Sink.closedBy, inState, ← h.pending]⟩, fun _ => rfl⟩
  | error error =>
    exact ⟨⟨0, .errored error, rfl, by
      simp [Sink.closedBy, Sink.failing, WritableController.error, inState,
        WritableState.isTerminal]⟩, nofun⟩

theorem eq_ok_of_verdict (h : sink.verdict outcome = .ok ()) : outcome = .ok () := by
  cases outcome with
  | ok => rfl
  | error error => cases h

end Sink

namespace Session

variable [Host H] {s s' : Session H E} {id : WritableId} {sink sink' : Sink E}
variable {outcome : Except StreamError Unit}

/-- A write to a sink that has nothing to do is one piece of work. What the sink is then, and
whether the write has succeeded, depends on the outcome and on whether the sink has failed
meanwhile. -/
theorem exec_writeUnchecked_of_idle {chunk : Bytes} (h : s.streams.sink? id = some sink)
    (hi : sink.Idle) (hs : sink.controller.state = .writable)
    (hwork : exec (writeAlgorithm id chunk) (setSink id sink.working s) = (outcome, s'))
    (hworked : s'.streams.sink? id = some sink') (hw : sink.working.WorkedInto sink') :
    exec (writeUnchecked id chunk) s =
      (sink'.verdict outcome,
        setSink id (sink'.rested outcome) (note (.written id chunk outcome) s')) := by
  obtain ⟨backing, ⟨mark, pending, size, inFlight, aborting, state⟩, start, owner,
      lock, released⟩ :=
    sink
  obtain ⟨rfl, rfl, rfl, -, hstarted⟩ := hi
  cases hs
  cases hstarted rfl
  simp only [Sink.working] at hwork
  rcases hw with rfl | ⟨-, left, state, hstate, rfl⟩
  · cases outcome <;>
    simp [writeUnchecked, advance, advanceRounds, engage, settle, exec_bind, exec_noting,
      Registry.sink?_setSink, WritableController.push, WritableController.pop,
      StartState.isResolved, h, hwork, hworked, Sink.rested, Sink.verdict, Sink.working,
      WritableController.error, WritableState.isTerminal]
  · cases state <;> cases hstate <;> cases outcome <;>
    simp [writeUnchecked, advance, advanceRounds, engage, settle, exec_bind, exec_noting,
      Registry.sink?_setSink, WritableController.push, WritableController.pop,
      StartState.isResolved, h, hwork, hworked, Sink.rested, Sink.verdict, Sink.working,
      WritableController.error, WritableState.isTerminal]

/-- A sink that takes no writes refuses them. -/
theorem exec_writeUnchecked_of_not_writable {chunk : Bytes} (h : s.streams.sink? id = some sink)
    (hs : sink.controller.state ≠ .writable) :
    ∃ error, exec (writeUnchecked id chunk) s = (.error error, s) := by
  cases hstate : sink.controller.state with
  | writable => exact absurd hstate hs
  | closing | closed => exact ⟨.closed, by simp [writeUnchecked, exec_bind, h, hstate]⟩
  | errored error => exact ⟨error, by simp [writeUnchecked, exec_bind, h, hstate]⟩

/-- A write that passes the lock. -/
theorem exec_write_of_lock {chunk : Bytes} (h : s.streams.sink? id = some sink) :
    exec (write id chunk sink.writerLock) s = exec (writeUnchecked id chunk) s := by
  simp [write, exec_bind, h, Except.bind]

/-- Ending a sink that has nothing to do is one piece of work. -/
theorem exec_closeUnchecked_of_idle (h : s.streams.sink? id = some sink) (hi : sink.Idle)
    (hs : sink.controller.state = .writable)
    (hwork : exec (closeAlgorithm id) (setSink id (sink.inState .closing).working s) =
      (outcome, s'))
    (hkept : s'.streams.sink? id = some (sink.inState .closing).working) :
    exec (closeUnchecked id) s =
      (outcome,
        setSink id (sink.closedBy outcome) (note (.closed id outcome) s')) := by
  obtain ⟨backing, ⟨mark, pending, size, inFlight, aborting, state⟩, start, owner,
      lock, released⟩ :=
    sink
  obtain ⟨rfl, rfl, rfl, -, hstarted⟩ := hi
  cases hs
  cases hstarted rfl
  simp only [Sink.working, Sink.inState] at hwork hkept
  cases outcome with
  | ok =>
    simp [closeUnchecked, advance, advanceRounds, engage, settle, exec_bind, exec_noting,
      Registry.sink?_setSink, WritableController.pop, StartState.isResolved, h, hwork, hkept,
      Sink.inState, Sink.closedBy]
  | error error =>
    simp [closeUnchecked, advance, advanceRounds, engage, settle, exec_bind, exec_noting,
      Registry.sink?_setSink, WritableController.pop, StartState.isResolved, h, hwork, hkept,
      Sink.inState, Sink.closedBy, Sink.failing]

/-- What ending a sink comes to that has ended or failed: nothing is asked of it. -/
theorem exec_closeUnchecked_of_terminal (h : s.streams.sink? id = some sink)
    (hs : sink.controller.state.isTerminal = true) :
    ∃ result, exec (closeUnchecked id) s = (result, s) ∧
      (sink.controller.state = .closed ∨ sink.controller.state = .errored .aborted →
        result = .ok ()) := by
  cases hstate : sink.controller.state with
  | writable | closing => simp [hstate, WritableState.isTerminal] at hs
  | closed => exact ⟨.ok (), by simp [closeUnchecked, exec_bind, h, hstate], fun _ => rfl⟩
  | errored error =>
    by_cases he : error = .aborted
    · subst he
      exact ⟨.ok (), by simp [closeUnchecked, exec_bind, h, hstate], fun _ => rfl⟩
    · refine ⟨.error error, ?_, ?_⟩
      · simp only [closeUnchecked, exec_bind, exec_sink, h, Registry.need_some, hstate, exec_throw]
      · simp [he]

/-- Aborting a sink that has nothing to do fails it and is then one piece of work. -/
theorem exec_abortUnchecked_of_idle {reason : Option String} (h : s.streams.sink? id = some sink)
    (hi : sink.Idle) (hs : sink.controller.state = .writable) :
    exec (abortUnchecked id reason) s =
      exec (noting (.aborted id) (abortAlgorithm id reason))
        (setSink id (sink.failing .aborted) s) := by
  have herror : (sink.controller.error .aborted).inFlight = false :=
    ((Sink.WorkedInto.failing hi.unending .aborted).idle hi).inFlight
  simp [abortUnchecked, exec_bind, h, hs, WritableState.isTerminal, herror, Sink.failing]

/-- A sink that has ended or failed is not aborted. -/
theorem exec_abortUnchecked_of_terminal {reason : Option String}
    (h : s.streams.sink? id = some sink) (hs : sink.controller.state.isTerminal = true) :
    exec (abortUnchecked id reason) s = (.ok (), s) := by
  simp [abortUnchecked, exec_bind, h, hs]

end Session

end EdgeStreams
