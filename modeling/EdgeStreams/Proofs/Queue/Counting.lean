import EdgeStreams.Proofs.Registry.Adding
import EdgeStreams.Proofs.Session.Controller
import Mathlib.Algebra.GroupWithZero.Nat

/-!
# Counting what waits

A controller counts the bytes that wait in its queue, and its state says whether anything may wait
there. Ending, failing and cancelling a stream drop the queue or leave it, according to the state
and to what is queued, and a requested end is carried out by whoever takes the last chunk. What ties
the count, the queue and the state together is kept by each of these changes, in whatever order they
come.

## Main definitions

- `ReadableController.Change`: what can be done to the queue between a source and its reader
- `ReadableController.Becomes`: some changes make a controller of another
- `ReadableController.Consistent`, `WritableController.Consistent`: count, queue and state agree
- `Registry.Consistent`: they do in every stream

## Main statements

- `ReadableController.consistent_changedBy`: they agree in a new controller after any changes
- `ReadableController.Consistent.dequeue_eq`: taking a chunk out, and the end that comes with the
  last
- `ReadableController.Becomes.run`, `ReadableController.Becomes.runTransform`: guests change
  controllers in no other way

## Design notes

Other modules measure a queue by its bytes one after the other; here it is measured chunk by chunk.
-/

namespace EdgeStreams

variable {H E : Type}

/-! ### Readable streams -/

namespace ReadableController

/-- What can be done to the queue between a source and its reader. -/
inductive Change where
  | enqueue (chunk : Bytes)
  | close
  | error (error : StreamError)
  | dequeue
  | cancel

/-- The number of bytes that a change offers to the queue. -/
def Change.offered : Change → Nat
  | .enqueue chunk => chunk.length
  | .close | .error _ | .dequeue | .cancel => 0

/-- The controller after a change, whatever the change has answered. -/
def changed (controller : ReadableController) : Change → ReadableController
  | .enqueue chunk => (controller.enqueue chunk).2
  | .close => controller.close.2
  | .error error => controller.error error
  | .dequeue => (controller.dequeue.map Prod.snd).getD controller
  | .cancel => controller.cancel

/-- The controller after some changes, first first. -/
def changedBy (controller : ReadableController) (changes : List Change) : ReadableController :=
  changes.foldl changed controller

/-- The count, the queue and the state agree. -/
structure Consistent (controller : ReadableController) : Prop where
  counted : controller.queuedBytes = (controller.queue.map List.length).sum
  nonempty : ∀ chunk ∈ controller.queue, chunk ≠ []
  /-- Nothing waits in a stream that has ended or failed. -/
  dropped : controller.state ≠ .readable → controller.queue = []
  /-- A stream that is to end can be read exactly as long as something waits in it. -/
  closing : controller.closeRequested = true →
    (controller.state = .readable ↔ controller.queue ≠ [])

variable {controller controller' : ReadableController}

theorem consistent_new (highWaterMark : UInt64) : Consistent { highWaterMark } where
  counted := rfl
  nonempty _ hm := by cases hm
  dropped _ := rfl
  closing h := by cases h

/-- What refuses nothing is open: it can be read, and no end has been requested. -/
theorem isOpen_of_not_refused (h : controller.refusal? = none) : controller.IsOpen := by
  unfold refusal? at h
  split at h
  · cases h
  · cases h
  · next hstate =>
    split at h
    · cases h
    · next hclose => exact ⟨hstate, by simpa using hclose⟩

namespace Consistent

/-- A controller whose queue has been dropped, in a state that can no longer be read. -/
theorem of_dropped (hqueue : controller.queue = []) (hbytes : controller.queuedBytes = 0)
    (hstate : controller.state ≠ .readable) : controller.Consistent where
  counted := by rw [hqueue, hbytes]; rfl
  nonempty chunk hm := by rw [hqueue] at hm; cases hm
  dropped _ := hqueue
  closing _ := ⟨fun h => absurd h hstate, fun h => absurd hqueue h⟩

theorem enqueue (h : controller.Consistent) (chunk : Bytes) :
    (controller.enqueue chunk).2.Consistent := by
  unfold ReadableController.enqueue
  split
  · exact h
  · next hopen =>
    obtain ⟨hstate, hclose⟩ := isOpen_of_not_refused hopen
    split
    · -- an empty chunk is accepted, and not queued
      exact h
    · next hchunk =>
      refine ⟨?_, ?_, fun hs => absurd hstate hs, fun hc => ?_⟩
      · simp [h.counted]
      · intro other hm
        rcases List.mem_append.mp hm with hold | hnew
        · exact h.nonempty other hold
        · obtain rfl := List.mem_singleton.mp hnew
          simpa using hchunk
      · rw [show controller.closeRequested = true from hc] at hclose
        cases hclose

theorem close (h : controller.Consistent) : controller.close.2.Consistent := by
  unfold ReadableController.close
  split
  · exact h
  · refine ⟨h.counted, h.nonempty, fun hstate => ?_, fun _ => ?_⟩
    · by_contra hqueue
      exact hstate (if_neg fun he => hqueue (List.isEmpty_iff.mp he))
    · by_cases hqueue : controller.queue = [] <;> simp [hqueue]

theorem error (h : controller.Consistent) (error : StreamError) :
    (controller.error error).Consistent := by
  unfold ReadableController.error
  split
  · exact of_dropped rfl rfl (fun hs => by cases hs)
  · exact h

theorem cancel (controller : ReadableController) : controller.cancel.Consistent := by
  unfold ReadableController.cancel
  split
  · exact of_dropped rfl rfl (fun hs => by cases hs)
  · next hstate => exact of_dropped rfl rfl hstate

/-- What can be taken out waits in a stream that can be read. -/
theorem state_of_queue (h : controller.Consistent) {chunk : Bytes} {rest : List Bytes}
    (hqueue : controller.queue = chunk :: rest) : controller.state = .readable := by
  by_contra hstate
  rw [h.dropped hstate] at hqueue
  cases hqueue

theorem dequeue (h : controller.Consistent) {chunk : Bytes}
    (hd : controller.dequeue = some (chunk, controller')) : controller'.Consistent := by
  unfold ReadableController.dequeue at hd
  split at hd
  · cases hd
  · next first rest hqueue =>
    cases hd
    have hstate := h.state_of_queue hqueue
    have hcounted := h.counted
    rw [hqueue, List.map_cons, List.sum_cons] at hcounted
    refine ⟨?_, fun other hm => h.nonempty other (hqueue ▸ List.mem_cons_of_mem _ hm), ?_, ?_⟩
    · -- `hcounted` has room for the chunk, so the subtraction is exact
      show controller.queuedBytes - chunk.length = (rest.map List.length).sum
      omega
    · intro hs
      by_contra hrest
      refine hs ?_
      simp only [List.isEmpty_eq_false_iff.mpr hrest, Bool.and_false, Bool.false_eq_true, if_false]
      exact hstate
    · intro hclose
      by_cases hrest : rest = [] <;>
        simp [hrest, hstate, show controller.closeRequested = true from hclose]

/-- Taking a chunk out takes its bytes off the count, which has room for them. A requested end comes
with the last chunk, and not before. -/
theorem dequeue_eq (h : controller.Consistent) {chunk : Bytes}
    (hd : controller.dequeue = some (chunk, controller')) :
    controller.queuedBytes = chunk.length + controller'.queuedBytes ∧
      (controller.closeRequested = true →
        (controller'.state = .closed ↔ controller'.queue = [])) := by
  have hafter := h.dequeue hd
  unfold ReadableController.dequeue at hd
  split at hd
  · cases hd
  · next first rest hqueue =>
    cases hd
    have hcounted := h.counted
    have hlater : controller.queuedBytes - chunk.length = (rest.map List.length).sum :=
      hafter.counted
    rw [hqueue, List.map_cons, List.sum_cons] at hcounted
    refine ⟨?_, fun hclose => ?_⟩
    · show controller.queuedBytes = chunk.length + (controller.queuedBytes - chunk.length)
      omega
    · by_cases hrest : rest = [] <;> simp [hrest, hclose, h.state_of_queue hqueue]

/-- Every change keeps count, queue and state in agreement. -/
theorem changed (h : controller.Consistent) (change : Change) :
    (controller.changed change).Consistent := by
  cases change with
  | enqueue chunk => exact h.enqueue chunk
  | close => exact h.close
  | error reason => exact h.error reason
  | dequeue =>
    unfold ReadableController.changed
    cases hd : controller.dequeue with
    | none => exact h
    | some taken => exact h.dequeue hd
  | cancel => exact .cancel controller

/-- By induction on the changes. -/
theorem changedBy (h : controller.Consistent) (changes : List Change) :
    (controller.changedBy changes).Consistent := by
  induction changes generalizing controller with
  | nil => exact h
  | cons change changes ih => exact ih (h.changed change)

end Consistent

/-- Whatever has been done to a new controller, count, queue and state agree. -/
theorem consistent_changedBy (highWaterMark : UInt64) (changes : List Change) :
    (({ highWaterMark } : ReadableController).changedBy changes).Consistent :=
  (consistent_new highWaterMark).changedBy changes

example : (changedBy { highWaterMark := 0 } [.enqueue [1, 2], .close, .dequeue]).state = .closed :=
  rfl

/-- A change adds to the count no more than it offers. -/
theorem queuedBytes_changed_le (controller : ReadableController) (change : Change) :
    (controller.changed change).queuedBytes ≤ controller.queuedBytes + change.offered := by
  cases change with
  | enqueue chunk =>
    show (controller.enqueue chunk).2.queuedBytes ≤ controller.queuedBytes + chunk.length
    unfold enqueue
    split
    · exact Nat.le_add_right _ _
    · split
      · exact Nat.le_add_right _ _
      · exact Nat.le_refl _
  | close =>
    show controller.close.2.queuedBytes ≤ controller.queuedBytes
    unfold close
    split <;> exact Nat.le_refl _
  | error reason =>
    show (controller.error reason).queuedBytes ≤ controller.queuedBytes
    unfold ReadableController.error
    split
    · exact Nat.zero_le _
    · exact Nat.le_refl _
  | dequeue =>
    unfold changed
    cases hd : controller.dequeue with
    | none => exact Nat.le_refl _
    | some taken =>
      unfold dequeue at hd
      split at hd
      · cases hd
      · cases hd
        exact Nat.sub_le _ _
  | cancel =>
    show controller.cancel.queuedBytes ≤ controller.queuedBytes
    unfold cancel
    split <;> exact Nat.zero_le _

/-- Nothing is counted that has not been offered. By induction on the changes. -/
theorem queuedBytes_changedBy_le (controller : ReadableController) (changes : List Change) :
    (controller.changedBy changes).queuedBytes ≤
      controller.queuedBytes + (changes.map Change.offered).sum := by
  induction changes generalizing controller with
  | nil => exact Nat.le_refl _
  | cons change changes ih =>
    have hfirst := controller.queuedBytes_changed_le change
    have hrest := ih (controller.changed change)
    rw [List.map_cons, List.sum_cons]
    show ((controller.changed change).changedBy changes).queuedBytes ≤ _
    omega

/-- Some changes make a controller of another. -/
def Becomes (controller controller' : ReadableController) : Prop :=
  ∃ changes, controller' = controller.changedBy changes

namespace Becomes

variable {first second third : ReadableController}

theorem refl (controller : ReadableController) : controller.Becomes controller := ⟨[], rfl⟩

theorem one (controller : ReadableController) (change : Change) :
    controller.Becomes (controller.changed change) := ⟨[change], rfl⟩

theorem trans (h : first.Becomes second) (h' : second.Becomes third) : first.Becomes third := by
  obtain ⟨changes, rfl⟩ := h
  obtain ⟨more, rfl⟩ := h'
  exact ⟨changes ++ more, (List.foldl_append ..).symm⟩

theorem consistent (h : first.Becomes second) (hc : first.Consistent) : second.Consistent := by
  obtain ⟨changes, rfl⟩ := h
  exact hc.changedBy changes

theorem takeReady (controller : ReadableController) :
    controller.Becomes controller.takeReady.2 := by
  unfold ReadableController.takeReady
  split
  · exact refl controller
  · exact refl controller
  · have htaken := one controller .dequeue
    unfold changed at htaken
    cases hd : controller.dequeue with
    | none => exact refl controller
    | some taken =>
      rw [hd] at htaken
      exact htaken

/-- Whatever calls a source makes. -/
theorem run {α : Type} (program : Program SourceCall.Answer α) (desk : SourceDesk) :
    desk.controller.Becomes (program.run SourceDesk.perform desk).2.controller := by
  refine program.run_preserves SourceDesk.perform
    (fun later => desk.controller.Becomes later.controller) (fun call later h => h.trans ?_) desk
    (refl _)
  cases call with
  | enqueue chunk => exact one _ (.enqueue chunk)
  | close => exact one _ .close
  | error reason => exact one _ (.error reason)
  | desiredSize => exact refl _

/-- Whatever calls a transformer makes. -/
theorem runTransform {α : Type} (program : Program TransformCall.Answer α) (desk : TransformDesk) :
    desk.controller.Becomes (program.run TransformDesk.perform desk).2.controller := by
  refine program.run_preserves TransformDesk.perform
    (fun later => desk.controller.Becomes later.controller) (fun call later h => h.trans ?_) desk
    (refl _)
  cases call with
  | enqueue chunk => exact one _ (.enqueue chunk)
  | error reason => exact one _ (.error reason)
  | terminate => exact one _ .close
  | desiredSize => exact refl _

end Becomes

end ReadableController

/-- The work of a transformer consists of changes of the readable half. -/
def TransformWork.Changes (work : TransformWork E) : Prop :=
  ∀ (transformer : Transformer E) (env : E) (desk : TransformDesk),
    desk.controller.Becomes (work transformer env desk).2.controller

namespace TransformWork

theorem changes_start : (start : TransformWork E).Changes :=
  fun transformer env desk => .runTransform (transformer.start env) desk

theorem changes_transform (chunk : Bytes) : (transform chunk : TransformWork E).Changes :=
  fun transformer env desk => .runTransform (transformer.transform chunk env) desk

theorem changes_flush : (flush : TransformWork E).Changes := by
  intro transformer env desk
  have hrun := ReadableController.Becomes.runTransform (transformer.flush env) desk
  unfold flush
  split
  · next heq =>
    rw [heq] at hrun
    exact hrun.trans (.one _ .close)
  · exact hrun

end TransformWork

/-! ### Writable streams -/

namespace WritableController

/-- The count, the queue and the state agree. -/
structure Consistent (controller : WritableController) : Prop where
  counted : controller.pendingBytes = (controller.pending.map List.length).sum
  /-- Nothing waits in a stream that has ended or failed. -/
  dropped : controller.state.isTerminal = true → controller.pending = []

namespace Consistent

variable {controller controller' : WritableController}

theorem of_none (hpending : controller.pending = []) (hbytes : controller.pendingBytes = 0) :
    controller.Consistent where
  counted := by rw [hpending, hbytes]; rfl
  dropped _ := hpending

theorem push (h : controller.Consistent) (hopen : controller.state.isTerminal = false)
    (chunk : Bytes) : (controller.push chunk).Consistent where
  counted := by simp [WritableController.push, h.counted]
  dropped hs := by cases hopen.symm.trans hs

theorem pop (h : controller.Consistent) {chunk : Bytes}
    (hp : controller.pop = some (chunk, controller')) : controller'.Consistent := by
  unfold WritableController.pop at hp
  split at hp
  · cases hp
  · next first rest hpending =>
    cases hp
    have hcounted := h.counted
    rw [hpending, List.map_cons, List.sum_cons] at hcounted
    refine ⟨?_, fun hs => ?_⟩
    · show controller.pendingBytes - chunk.length = (rest.map List.length).sum
      omega
    · -- nothing can be taken out of a stream that has ended or failed
      have hnone := h.dropped hs
      rw [hpending] at hnone
      cases hnone

theorem error (h : controller.Consistent) (error : StreamError) :
    (controller.error error).Consistent := by
  unfold WritableController.error
  split
  · exact h
  · exact of_none rfl rfl

/-- The sink is set to work, or its work ends, or an abort comes meanwhile. -/
theorem flagged (h : controller.Consistent) (inFlight abortRequested : Bool) :
    Consistent { controller with inFlight, abortRequested } := ⟨h.counted, h.dropped⟩

end Consistent

theorem consistent_new (highWaterMark : UInt64) : Consistent { highWaterMark } := .of_none rfl rfl

theorem pending_of_pop {controller : WritableController} (h : controller.pop = none) :
    controller.pending = [] := by
  unfold WritableController.pop at h
  split at h
  · assumption
  · cases h

theorem pending_error_of_pending {controller : WritableController} (h : controller.pending = [])
    (error : StreamError) : (controller.error error).pending = [] := by
  unfold WritableController.error
  split
  · exact h
  · rfl

end WritableController

/-! ### Registries -/

/-- The controllers of all streams are consistent. -/
structure Registry.Consistent (streams : Registry E) : Prop where
  source : ∀ {id source}, streams.source? id = some source → source.controller.Consistent
  sink : ∀ {id sink}, streams.sink? id = some sink → sink.controller.Consistent

namespace Registry

theorem consistent_new (config : StreamConfig) : (new config : Registry E).Consistent where
  source h := by cases (SlotMap.get?_empty _).symm.trans h
  sink h := by cases (SlotMap.get?_empty _).symm.trans h

namespace Consistent

variable {streams streams' : Registry E} (h : streams.Consistent)
include h

theorem setSource (id : ReadableId) {source : Source E} (hc : source.controller.Consistent) :
    (streams.setSource id source).Consistent where
  source {other found} hf := by
    rw [source?_setSource] at hf
    split at hf
    · obtain ⟨old, -, rfl⟩ := Option.map_eq_some_iff.mp hf
      exact hc
    · exact h.source hf
  sink hf := h.sink hf

/-- The source changes in other respects. -/
theorem setSame {id : ReadableId} {source source' : Source E}
    (hs : streams.source? id = some source) (hsame : source'.controller = source.controller) :
    (streams.setSource id source').Consistent :=
  h.setSource id (hsame ▸ h.source hs)

theorem setSink (id : WritableId) {sink : Sink E} (hc : sink.controller.Consistent) :
    (streams.setSink id sink).Consistent where
  source hf := h.source hf
  sink {other found} hf := by
    rw [sink?_setSink] at hf
    split at hf
    · obtain ⟨old, -, rfl⟩ := Option.map_eq_some_iff.mp hf
      exact hc
    · exact h.sink hf

theorem modifySource (id : ReadableId) {change : Source E → Source E}
    (hchange : ∀ source : Source E, source.controller.Consistent →
      (change source).controller.Consistent) : (streams.modifySource id change).Consistent := by
  unfold Registry.modifySource
  split
  · next source hs => exact h.setSource id (hchange source (h.source hs))
  · exact h

theorem modifySink (id : WritableId) {change : Sink E → Sink E}
    (hchange : ∀ sink : Sink E, sink.controller.Consistent → (change sink).controller.Consistent) :
    (streams.modifySink id change).Consistent := by
  unfold Registry.modifySink
  split
  · next sink hs => exact h.setSink id (hchange sink (h.sink hs))
  · exact h

theorem addSource (wf : streams.WellFormed) {source : Source E}
    (hc : source.controller.Consistent) :
    (streams.addSource source).2.Consistent where
  source {id found} hf := by
    rw [source?_addSource wf] at hf
    split at hf
    · cases hf
      exact hc
    · exact h.source hf
  sink hf := h.sink hf

theorem addSink (wf : streams.WellFormed) {sink : Sink E} (hc : sink.controller.Consistent) :
    (streams.addSink sink).2.Consistent where
  source hf := h.source hf
  sink {id found} hf := by
    rw [sink?_addSink wf] at hf
    split at hf
    · cases hf
      exact hc
    · exact h.sink hf

/-- The end of a pipe changes its ends only in who holds them. -/
theorem finishPipe (id : PipeId) (state : PipeState) :
    (streams.finishPipe id state).Consistent := by
  by_cases hrun : ∃ pipe, streams.pipe? id = some pipe ∧ pipe.isRunning
  · obtain ⟨pipe, hp, hr⟩ := hrun
    refine ⟨fun {other source} hf => ?_, fun {other sink} hf => ?_⟩
    · rw [source?_finishPipe state hp hr] at hf
      split at hf
      · obtain ⟨old, hold, rfl⟩ := Option.map_eq_some_iff.mp hf
        have hc := h.source hold
        unfold unlockReader
        split <;> exact hc
      · exact h.source hf
    · rw [sink?_finishPipe state hp hr] at hf
      split at hf
      · obtain ⟨old, hold, rfl⟩ := Option.map_eq_some_iff.mp hf
        have hc := h.sink hold
        unfold unlockWriter
        split <;> exact hc
      · exact h.sink hf
  · rw [finishPipe_of_not_running]
    · exact h
    · exact fun pipe hp hr => hrun ⟨pipe, hp, hr⟩

end Consistent

end Registry

end EdgeStreams
