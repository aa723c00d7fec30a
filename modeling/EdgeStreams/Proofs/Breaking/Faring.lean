import EdgeStreams.Proofs.Host.Injecting
import EdgeStreams.Proofs.Piping.Acting
import EdgeStreams.Proofs.Session.Watched

/-!
# A host body and the only stream over it

As long as the stream takes writes the body is open. Once the stream has been closed the body is
closed, and once the stream has failed the body is abandoned, unless a call to the host has failed:
then the stream has failed as well, and nothing more is asked of the body.

## Main definitions

- `FaultPlan.Sets`: a plan has a fault for an operation
- `BodyFate`: what has become of a host body, by what has become of the only stream over it
- `Session.FareTogether`: a stream is the only one over a host body, and the two fare together

## Main statements

- `Session.exec_writeUnchecked_body`, `Session.exec_closeUnchecked_body`,
  `Session.exec_abortUnchecked_body`: what is asked of a stream over a host body is one call
- `Session.Deed.fareTogether`: kept by every deed
- `Session.Acts.fareTogether`: kept while pipes are driven

## Design notes

The faults are those of a plan that is given beforehand. What is left of them at any later time is
set in the plan as well, so a call can be said to have failed over the plan without saying when that
was.
-/

namespace EdgeStreams

variable {H E : Type}

/-! ### Calls on a host body -/

/-- The plan has a fault for the operation. -/
def FaultPlan.Sets (plan : FaultPlan) (operation : HostOperation) : Prop :=
    plan.ofOperation operation ≠ {}

namespace FaultPlan

variable {plan : FaultPlan} {operation other : HostOperation}

theorem sets_of_take {error : HostError} (h : (plan.take operation).1 = some error) :
    plan.Sets operation := by
  intro hnone
  rw [take_fst, hnone] at h
  cases h

/-- A call sets no fault. -/
theorem Sets.of_take (h : (plan.take other).2.Sets operation) : plan.Sets operation := by
  intro hnone
  refine h ?_
  rw [ofOperation_take]
  split
  · rw [hnone]; rfl
  · exact hnone

end FaultPlan

/-- A call about a body does something to that body only, if it does anything. -/
theorem BodyCall.cases {handle : BodyHandle} {host host' : MemoryHost}
    (h : BodyCall handle host host') : ∃ operation, host' = host.received operation handle.erase ∨
      ∃ body place,
        host' = ((host.received operation handle.erase).putBody handle body).reaching
          handle place := by
  have hplain : ∀ operation body, ∃ new place,
      (host.received operation handle.erase).putBody handle body =
        ((host.received operation handle.erase).putBody handle new).reaching handle place :=
    fun operation body => ⟨body, 0, (MemoryHost.reaching_of_lt _ _ _ (by decide)).symm⟩
  cases h
  case' read limit =>
    refine ⟨.bodyRead, ?_⟩
    rw [MemoryHost.exec_bodyRead]
  case' write chunk =>
    refine ⟨.bodyWrite, ?_⟩
    rw [MemoryHost.exec_bodyWrite]
  case' close =>
    refine ⟨.bodyClose, ?_⟩
    rw [MemoryHost.exec_bodyClose]
  case' abandon =>
    refine ⟨.bodyAbandon, ?_⟩
    rw [MemoryHost.exec_bodyAbandon]
  all_goals
    repeat' split
    all_goals first | exact .inl rfl | exact .inr ⟨_, _, rfl⟩ | exact .inr (hplain _ _)

theorem BodyCall.sets {handle : BodyHandle} {host host' : MemoryHost}
    (h : BodyCall handle host host') {operation : HostOperation}
    (hsets : host'.faults.Sets operation) : host.faults.Sets operation := by
  obtain ⟨called, rfl | ⟨body, place, rfl⟩⟩ := h.cases
  all_goals exact FaultPlan.Sets.of_take hsets

theorem BodyCall.bodyState?_of_ne {handle other : BodyHandle} {host host' : MemoryHost}
    (h : BodyCall other host host') (hne : handle ≠ other) :
    host'.bodyState? handle = host.bodyState? handle := by
  have hraw : handle.raw ≠ other.raw :=
    fun he => hne (by cases handle; cases other; exact congrArg _ he)
  obtain ⟨called, rfl | ⟨body, place, rfl⟩⟩ := h.cases
  · rfl
  · simp [MemoryHost.bodyState?, MemoryHost.find?_putBody, hraw]

namespace MemoryHost

/-- A new body is open, and making it sets no fault. -/
theorem bodyNew_opened {host host' : MemoryHost} {handle : BodyHandle}
    (hnew : exec (Host.bodyNew : HostCall MemoryHost BodyHandle) host = (.ok handle, host')) :
    host'.bodyState? handle = some .opened ∧
      ∀ {operation}, host'.faults.Sets operation → host.faults.Sets operation := by
  rw [exec_bodyNew] at hnew
  cases htake : (host.faults.take .bodyNew).1 with
  | some error =>
    rw [htake] at hnew
    cases hnew
  | none =>
    rw [htake] at hnew
    cases hnew
    exact ⟨by simp [bodyState?, find?_putBody, MemoryBody.writable], .of_take⟩

variable {host : MemoryHost} {handle : BodyHandle} (hopen : host.bodyState? handle = some .opened)
include hopen

/-- A write to an open body fails only if a fault is set for it. -/
theorem write_of_opened (chunk : Bytes) :
    (exec (Host.bodyWrite handle chunk) host).2.bodyState? handle = some .opened ∧
      ∀ error, (exec (Host.bodyWrite handle chunk) host).1 = .error error →
        host.faults.Sets .bodyWrite := by
  obtain ⟨body, hbody, hstate⟩ := Option.map_eq_some_iff.mp hopen
  rw [exec_bodyWrite]
  cases htake : (host.faults.take .bodyWrite).1 with
  | some error => exact ⟨hopen, fun _ _ => FaultPlan.sets_of_take htake⟩
  | none => simp [hbody, hstate, bodyState?, find?_putBody]

/-- An open body is closed, unless a fault is set. -/
theorem close_of_opened :
    ((exec (Host.bodyClose handle) host).1 = .ok () →
      (exec (Host.bodyClose handle) host).2.bodyState? handle = some .closed) ∧
    ∀ error, (exec (Host.bodyClose handle) host).1 = .error error →
      (exec (Host.bodyClose handle) host).2.bodyState? handle = some .opened ∧
        host.faults.Sets .bodyClose := by
  obtain ⟨body, hbody, hstate⟩ := Option.map_eq_some_iff.mp hopen
  rw [exec_bodyClose]
  cases htake : (host.faults.take .bodyClose).1 with
  | some error => exact ⟨nofun, fun _ _ => ⟨hopen, FaultPlan.sets_of_take htake⟩⟩
  | none => simp [hbody, hstate, bodyState?, find?_putBody]

/-- An open body is abandoned, unless a fault is set. -/
theorem abandon_of_opened :
    ((exec (Host.bodyAbandon handle) host).1 = .ok () →
      (exec (Host.bodyAbandon handle) host).2.bodyState? handle = some .abandoned) ∧
    ∀ error, (exec (Host.bodyAbandon handle) host).1 = .error error →
      (exec (Host.bodyAbandon handle) host).2.bodyState? handle = some .opened ∧
        host.faults.Sets .bodyAbandon := by
  obtain ⟨body, hbody, hstate⟩ := Option.map_eq_some_iff.mp hopen
  rw [exec_bodyAbandon]
  cases htake : (host.faults.take .bodyAbandon).1 with
  | some error => exact ⟨nofun, fun _ _ => ⟨hopen, FaultPlan.sets_of_take htake⟩⟩
  | none => simp [hbody, hstate, bodyState?, find?_putBody]

end MemoryHost

/-! ### A stream over a host body that nobody else uses -/

namespace SinkCall

/-- The operation that is asked of the host, if the sink is over a host body. -/
def operation : SinkCall → HostOperation
  | .write .. => .bodyWrite
  | .close _ => .bodyClose
  | .abort _ => .bodyAbandon

/-- What came of the call. -/
def outcome : SinkCall → Except StreamError Unit
  | .write _ outcome | .close outcome | .abort outcome => outcome

end SinkCall

/-- What has become of a host body, by what has become of the only stream over it. Where the stream
has failed and the body has not been abandoned, the last call has failed, over a fault of the
plan. -/
inductive BodyFate (plan : FaultPlan) (calls : List SinkCall) : BodyState → WritableState → Prop
  | going : BodyFate plan calls .opened .writable
  | ended : BodyFate plan calls .closed .closed
  | abandoned {error : StreamError} : BodyFate plan calls .abandoned (.errored error)
  | kept {error : StreamError} (call : SinkCall) : calls.head? = some call → call.outcome ≠ .ok () →
    plan.Sets call.operation → BodyFate plan calls .opened (.errored error)

namespace Sink

variable {sink : Sink E}

theorem state_rested_error (h : sink.controller.state = .writable) (error : StreamError) :
    (sink.rested (.error error)).controller.state = .errored error := by
  simp [rested, WritableController.error, h, WritableState.isTerminal]

theorem state_closedBy_error (sink : Sink E) (error : StreamError) :
    (sink.closedBy (.error error)).controller.state = .errored error := by
  simp [closedBy, failing, inState, WritableController.error, WritableState.isTerminal]

end Sink

section Performs

variable [Host H] {s t : Session H E} {handle : BodyHandle}

/-- What is asked of a source over a host body is a call on it. -/
theorem Source.Performs.bodyCall {source source' : Source E} {demands : List Demand} {size : UInt64}
    (h : source.Performs s t source' demands) (hb : source.backing = .body handle size)
    (hd : demands ≠ []) : BodyCall handle s.host t.host := by
  cases h with
  | nothing => exact absurd rfl hd
  | read hother _ hcall =>
    cases hb.symm.trans hother
    have hlast : (exec (Host.bodyRead handle size) s.host).2 = t.host := by rw [hcall]
    exact hlast ▸ .read size
  | abandon hother _ hcall =>
    cases hb.symm.trans hother
    have hlast : (exec (Host.bodyAbandon handle) s.host).2 = t.host := by rw [hcall]
    exact hlast ▸ .abandon
  | pull hother | cancel hother => cases hb.symm.trans hother
  | relay ht =>
    obtain ⟨name, hname⟩ := ht
    cases hb.symm.trans hname

/-- What is asked of a sink over a host body is a call on it. -/
theorem Sink.Performs.bodyCall {sink : Sink E} {call : SinkCall} (h : sink.Performs s t call)
    (hb : sink.backing = .body handle) : BodyCall handle s.host t.host := by
  cases h with
  | @bodyWrite other chunk result hother _ hcall =>
    cases hb.symm.trans hother
    have hlast : (exec (Host.bodyWrite handle chunk) s.host).2 = t.host := by rw [hcall]
    exact hlast ▸ .write chunk
  | bodyClose hother _ hcall =>
    cases hb.symm.trans hother
    have hlast : (exec (Host.bodyClose handle) s.host).2 = t.host := by rw [hcall]
    exact hlast ▸ .close
  | bodyAbandon hother _ hcall =>
    cases hb.symm.trans hother
    have hlast : (exec (Host.bodyAbandon handle) s.host).2 = t.host := by rw [hcall]
    exact hlast ▸ .abandon
  | guestWrite hother | guestClose hother | guestAbort hother | transform hother | flush hother
  | drop hother => cases hb.symm.trans hother

end Performs

namespace Session

/-- The stream is over the host body, and the two fare together. -/
def SharesFate (w : WritableId) (handle : BodyHandle) (plan : FaultPlan)
    (s : Session MemoryHost E) : Prop :=
  ∃ sink state, s.streams.sink? w = some sink ∧ sink.backing = .body handle ∧
    s.host.bodyState? handle = some state ∧
      BodyFate plan (s.sinkCalls w) state sink.controller.state

/-- The stream is the only one over the host body, and the two fare together. No fault is set
besides those of the plan. -/
structure FareTogether (w : WritableId) (handle : BodyHandle) (plan : FaultPlan)
    (s : Session MemoryHost E) : Prop where
  alone : s.streams.ReservesBody handle (fun _ => False) (· = w)
  faults : ∀ {operation}, s.host.faults.Sets operation → plan.Sets operation
  fate : s.SharesFate w handle plan

section Asking

variable [Host H] {s : Session H E} {w : WritableId} {sink : Sink E} {handle : BodyHandle}
variable (hk : s.streams.sink? w = some sink) (hback : sink.backing = .body handle) (hi : sink.Idle)
variable (hwritable : sink.controller.state = .writable)
include hk hback hi hwritable

/-- A write to a stream over a host body is one call, and fails the stream if that fails. -/
theorem exec_writeUnchecked_body (chunk : Bytes) {answer : Except HostError Unit} {host : H}
    (hcall : exec (Host.bodyWrite handle chunk) s.host = (answer, host)) :
    exec (writeUnchecked w chunk) s = (answer.mapError (.host .bodyWrite),
      setSink w (sink.rested (answer.mapError (.host .bodyWrite)))
        (note (.written w chunk (answer.mapError (.host .bodyWrite)))
          { setSink w sink.working s with host })) := by
  have hduring : (setSink w sink.working s).streams.sink? w = some sink.working := by
    simp [Registry.sink?_setSink, hk]
  have hwork : exec (writeAlgorithm w chunk) (setSink w sink.working s) =
      (answer.mapError (.host .bodyWrite), { setSink w sink.working s with host }) := by
    rw [exec_writeAlgorithm_body hduring hback, exec_streamCall, host_setSink, hcall]
  rw [exec_writeUnchecked_of_idle hk hi hwritable hwork hduring (.refl _)]
  cases answer with
  | ok => simp [Sink.verdict, Sink.working, hwritable, Except.mapError, Sink.rested]
  | error error => rfl

/-- Ending a stream over a host body is one call, and fails the stream if that fails. -/
theorem exec_closeUnchecked_body {answer : Except HostError Unit} {host : H}
    (hcall : exec (Host.bodyClose handle) s.host = (answer, host)) :
    exec (closeUnchecked w) s = (answer.mapError (.host .bodyClose),
      setSink w (sink.closedBy (answer.mapError (.host .bodyClose)))
        (note (.closed w (answer.mapError (.host .bodyClose)))
          { setSink w (sink.inState .closing).working s with host })) := by
  have hduring : (setSink w (sink.inState .closing).working s).streams.sink? w =
      some (sink.inState .closing).working := by simp [Registry.sink?_setSink, hk]
  have hwork : exec (closeAlgorithm w) (setSink w (sink.inState .closing).working s) =
      (answer.mapError (.host .bodyClose),
        { setSink w (sink.inState .closing).working s with host }) := by
    rw [exec_closeAlgorithm_body hduring hback, exec_streamCall, host_setSink, hcall]
  exact exec_closeUnchecked_of_idle hk hi hwritable hwork hduring

/-- Aborting a stream over a host body is one call, and fails the stream whatever comes of it. -/
theorem exec_abortUnchecked_body (reason : Option String)
    {answer : Except HostError Unit} {host : H} (hcall : exec (Host.bodyAbandon handle) s.host =
      (answer, host)) :
    exec (abortUnchecked w reason) s = (answer.mapError (.host .bodyAbandon),
      note (.aborted w (answer.mapError (.host .bodyAbandon)))
        { setSink w (sink.failing .aborted) s with host }) := by
  have hduring : (setSink w (sink.failing .aborted) s).streams.sink? w = some
      (sink.failing .aborted) := by
    simp [Registry.sink?_setSink, hk]
  rw [exec_abortUnchecked_of_idle hk hi hwritable, exec_noting,
    exec_abortAlgorithm_body hduring hback, exec_streamCall, host_setSink, hcall]

end Asking

/-- What has just been noted is the last call. -/
theorem head?_sinkCalls_note (event : StreamEvent) {w : WritableId} {call : SinkCall}
    (h : event.sinkCall? w = some call) (s : Session H E) :
    ((note event s).sinkCalls w).head? = some call := by simp [sinkCalls, note, h]

section Fate

variable {s t : Session MemoryHost E} {w : WritableId} {sink : Sink E} {handle : BodyHandle}
variable {plan : FaultPlan}

/-- A stream that takes writes is over an open body. -/
theorem SharesFate.opened (h : s.SharesFate w handle plan) (hk : s.streams.sink? w = some sink)
    (hwritable : sink.controller.state = .writable) :
    sink.backing = .body handle ∧ s.host.bodyState? handle = some .opened := by
  obtain ⟨found, state, hfound, hback, hbody, hfate⟩ := h
  cases hk.symm.trans hfound
  rw [hwritable] at hfate
  cases hfate
  exact ⟨hback, hbody⟩

variable (hk : s.streams.sink? w = some sink) (hback : sink.backing = .body handle) (hi : sink.Idle)
variable (hwritable : sink.controller.state = .writable)
variable (hopen : s.host.bodyState? handle = some .opened)
variable (hfaults : ∀ {operation}, s.host.faults.Sets operation → plan.Sets operation)
include hk hback hi hwritable hopen hfaults

theorem sharesFate_write (chunk : Bytes) :
    (exec (writeUnchecked w chunk) s).2.SharesFate w handle plan := by
  obtain ⟨hleft, hfault⟩ := MemoryHost.write_of_opened hopen chunk
  generalize hcall : exec (Host.bodyWrite handle chunk) s.host = called at hleft hfault
  obtain ⟨answer, host⟩ := called
  rw [exec_writeUnchecked_body hk hback hi hwritable chunk hcall]
  refine ⟨sink.rested (answer.mapError (.host .bodyWrite)),
    .opened, by simp [Registry.sink?_setSink, hk], ?_⟩
  cases answer with
  | ok => exact ⟨hback, hleft, hwritable ▸ .going⟩
  | error error =>
    refine ⟨hback, hleft, ?_⟩
    rw [Except.mapError, Sink.state_rested_error hwritable]
    exact .kept (.write chunk (.error (.host .bodyWrite error)))
      (head?_sinkCalls_note (.written w chunk _) (if_pos rfl) _) nofun (hfaults (hfault error rfl))

theorem sharesFate_close : (exec (closeUnchecked w) s).2.SharesFate w handle plan := by
  obtain ⟨hclosed, hfault⟩ := MemoryHost.close_of_opened hopen
  generalize hcall : exec (Host.bodyClose handle) s.host = called at hclosed hfault
  obtain ⟨answer, host⟩ := called
  rw [exec_closeUnchecked_body hk hback hi hwritable hcall]
  cases answer with
  | ok =>
    refine ⟨sink.closedBy (.ok ()), .closed, ?_, hback, hclosed rfl, .ended⟩
    simp [Registry.sink?_setSink, hk, Except.mapError]
  | error error =>
    obtain ⟨hleft, hset⟩ := hfault error rfl
    refine ⟨sink.closedBy (.error (.host .bodyClose error)), .opened, ?_, hback, hleft, ?_⟩
    · simp [Registry.sink?_setSink, hk, Except.mapError]
    · rw [Sink.state_closedBy_error]
      exact .kept (.close (.error (.host .bodyClose error)))
        (head?_sinkCalls_note (.closed w _) (if_pos rfl) _) nofun (hfaults hset)

theorem sharesFate_abort (reason : Option String) :
    (exec (abortUnchecked w reason) s).2.SharesFate w handle plan := by
  obtain ⟨habandoned, hfault⟩ := MemoryHost.abandon_of_opened hopen
  generalize hcall : exec (Host.bodyAbandon handle) s.host = called at habandoned hfault
  obtain ⟨answer, host⟩ := called
  rw [exec_abortUnchecked_body hk hback hi hwritable reason hcall]
  have hfound : (setSink w (sink.failing .aborted) s).streams.sink? w = some
      (sink.failing .aborted) := by
    simp [Registry.sink?_setSink, hk]
  have hstate : (sink.failing .aborted).controller.state = .errored .aborted := by
    rw [Sink.failing_of_writable hwritable]
  cases answer with
  | ok => exact ⟨_, .abandoned, hfound, hback, habandoned rfl, hstate ▸ .abandoned⟩
  | error error =>
    obtain ⟨hleft, hset⟩ := hfault error rfl
    refine ⟨_, .opened, hfound, hback, hleft, hstate ▸ ?_⟩
    exact .kept (.abort (.error (.host .bodyAbandon error)))
      (head?_sinkCalls_note (.aborted w _) (if_pos rfl) _) nofun (hfaults hset)

end Fate

/-! ### Whatever is done -/

section Deeds

/-- The host is called only about a body that a stream is over of which something is asked. -/
theorem AdvancesTo.bodyCall [Host H] {s t : Session H E} {made : List (WritableId × Bytes)}
    (h : s.AdvancesTo made t) : t.host = s.host ∨ ∃ handle, BodyCall handle s.host t.host ∧
      ((∃ id source size, s.streams.source? id = some source ∧ source.backing = .body handle size) ∨
        ∃ id sink, s.streams.sink? id = some sink ∧ sink.backing = .body handle ∧
          t.sinkCalls id ≠ s.sinkCalls id) := by
  rcases h.host with hsame | ⟨id, source, handle, size, hs, hback, hd⟩ |
    ⟨id, sink, handle, hk, hback, hd⟩
  · exact .inl hsame
  · obtain ⟨source', demands, -, hdemands, -, hperforms⟩ := h.source hs
    have hasked : demands ≠ [] := by
      rintro rfl
      exact hd hdemands
    exact .inr ⟨handle, hperforms.bodyCall hback hasked, .inl ⟨id, source, size, hs, hback⟩⟩
  · obtain ⟨sink', calls, -, hcalls, -, -, hperforms⟩ := h.sink hk
    cases calls with
    | nil => exact absurd hcalls hd
    | cons call calls =>
      exact .inr ⟨handle, (hperforms call List.mem_cons_self).bodyCall hback,
        .inr ⟨id, sink, hk, hback, hd⟩⟩

variable {s t : Session MemoryHost E} {made : List (WritableId × Bytes)} {w : WritableId}
variable {handle : BodyHandle} {plan : FaultPlan} {mark : UInt64}

/-- A deed that asks nothing of the stream leaves its body alone. -/
theorem FareTogether.bodyState? (h : s.FareTogether w handle plan) (ha : s.AdvancesTo made t)
    (hquiet : t.sinkCalls w = s.sinkCalls w) :
    t.host.bodyState? handle = s.host.bodyState? handle := by
  rcases ha.bodyCall with hsame | ⟨other, hcall, hover⟩
  · rw [hsame]
  · refine hcall.bodyState?_of_ne ?_
    rintro rfl
    rcases hover with ⟨id, source, size, hs, hback⟩ | ⟨id, sink, hk, hback, hasked⟩
    · exact h.alone.source hs hback
    · obtain rfl := h.alone.sink hk hback
      exact hasked hquiet

/-- Whatever is done, the stream and the body fare together. -/
theorem Deed.fareTogether (hd : Deed s made t) (hc : s.streams.Composed)
    (hcouples : s.streams.Couples mark) (h : s.FareTogether w handle plan) :
    t.FareTogether w handle plan := by
  have ha := hd.advancesTo hc
  refine ⟨(ha.reserves_iff hc).mpr h.alone, fun hsets => ?_, ?_⟩
  · rcases ha.bodyCall with hsame | ⟨other, hcall, -⟩
    · exact h.faults (hsame ▸ hsets)
    · exact h.faults (hcall.sets hsets)
  · obtain ⟨sink, state, hk, hback, hbody, hfate⟩ := h.fate
    have hi := hc.idle hk
    have hopened := h.fate.opened hk
    have hterminal : sink.controller.state ≠ .writable → sink.controller.state.isTerminal = true :=
      fun hover => Bool.not_eq_false _ ▸ mt hi.writable hover
    rcases hd.endingDeed hc w with hsame | hstrikes
    · obtain ⟨sink', hk', hsame⟩ := SlotMap.rel_some_left (hk ▸ hsame)
      obtain ⟨found, calls, hfound, hcalls, hproceeds, -, hperforms⟩ := ha.sink hk
      cases hk'.symm.trans hfound
      have hterminal : sink.controller.state = .writable →
          ¬ sink'.controller.state.isTerminal = true := by
        intro hwritable
        simp [hsame.controller, hwritable, WritableState.isTerminal]
      cases hproceeds with
      | stays =>
        exact ⟨sink', state, hk', hsame.backing.trans hback,
          (h.bodyState? ha hcalls).trans hbody, by
          rwa [hcalls, List.nil_append, hsame.controller]⟩
      | writes chunk outcome hwritable =>
        -- a write has gone well
        obtain ⟨-, hopen⟩ := hopened hwritable
        obtain ⟨hleft, -⟩ := MemoryHost.write_of_opened hopen chunk
        cases hperforms _ List.mem_cons_self with
        | bodyWrite hother _ hcall =>
          cases hback.symm.trans hother
          rw [hcall] at hleft
          exact ⟨sink', .opened, hk', hsame.backing.trans hback, hleft, by
            rw [hsame.controller, hwritable]; exact .going⟩
        | guestWrite hother | transform hother => cases hback.symm.trans hother
      | closes _ hwritable _ hend | aborts _ hwritable _ hend =>
        exact absurd hend (hterminal hwritable)
    · cases hstrikes with
      | write chunk =>
        by_cases hwritable : sink.controller.state = .writable
        · exact sharesFate_write hk hback hi hwritable (hopened hwritable).2 h.faults chunk
        · obtain ⟨error, hrun⟩ := exec_writeUnchecked_of_not_writable hk hwritable
          rw [hrun]
          exact h.fate
      | close =>
        by_cases hwritable : sink.controller.state = .writable
        · exact sharesFate_close hk hback hi hwritable (hopened hwritable).2 h.faults
        · obtain ⟨result, hrun, -⟩ := exec_closeUnchecked_of_terminal hk (hterminal hwritable)
          rw [hrun]
          exact h.fate
      | abort reason =>
        by_cases hwritable : sink.controller.state = .writable
        · exact sharesFate_abort hk hback hi hwritable (hopened hwritable).2 h.faults reason
        · rw [exec_abortUnchecked_of_terminal hk (hterminal hwritable)]
          exact h.fate
      | cancel reason hs htransform hb hwritable =>
        subst hwritable
        cases hback.symm.trans (hcouples.paired hs htransform hb hk).1

/-- By induction on the deeds. -/
theorem Course.fareTogether (hd : Course s made t) (hc : s.streams.Composed)
    (hcouples : s.streams.Couples mark)
    (h : s.FareTogether w handle plan) : t.FareTogether w handle plan := by
  induction hd with
  | refl => exact h
  | step hbefore hdeed ih =>
    exact hdeed.fareTogether (hbefore.composed hc) (hbefore.couples hc hcouples) ih

theorem Acts.fareTogether {but : Set PipeId} (ha : Acts but s t) (hw : s.Wired mark)
    (h : s.FareTogether w handle plan) :
    t.FareTogether w handle plan := by
  refine ha.keeps hw (fun hwired hact htogether => ?_) h
  obtain ⟨made, hcourse⟩ := hact.course hwired.composed
  exact hcourse.fareTogether hwired.composed hwired.couples htogether

end Deeds

end Session

end EdgeStreams
