import EdgeStreams.Proofs.Session.Algorithms

/-!
# Controllers that nothing goes wrong with

A source that does its work well only ever adds chunks to its controller and then ends it. Whatever
calls it makes, the controller is then open with the chunks added, or has ended with them, unless it
has failed.

## Main definitions

- `ReadableController.IsOpen`, `ReadableController.HasEnded`: open for more, and ended
- `ReadableController.Sound`: no chunk is empty, and the queue is measured right
- `ReadableController.Fed`: what has become of a controller that chunks were added to

## Main statements

- `ReadableController.fed_run`: what any program makes of an open controller
- `ReadableController.takeReady_of_queue`, `ReadableController.IsOpen.takeReady`,
  `ReadableController.HasEnded.takeReady`: what a reader finds
-/

namespace EdgeStreams

namespace ReadableController

/-- The source may add more. -/
structure IsOpen (controller : ReadableController) : Prop where
  state : controller.state = .readable
  close : controller.closeRequested = false

/-- The source has ended; what is queued is still delivered. -/
structure HasEnded (controller : ReadableController) : Prop where
  close : controller.closeRequested = true
  state : controller.state = if controller.queue.isEmpty then .closed else .readable

/-- No chunk is empty, and the queue is measured right. -/
structure Sound (controller : ReadableController) : Prop where
  nonempty : ∀ chunk ∈ controller.queue, chunk ≠ []
  measured : controller.queuedBytes = controller.queue.flatten.length

theorem Sound.empty (highWaterMark : UInt64) : Sound { highWaterMark } where
  nonempty _ hc := absurd hc List.not_mem_nil
  measured := rfl

/-- Chunks have been added to a controller, which may then have ended or failed. -/
structure Fed (controller : ReadableController) (chunks : List Bytes)
    (controller' : ReadableController) : Prop where
  mark : controller'.highWaterMark = controller.highWaterMark
  outcome : (∃ error, controller'.state = .errored error) ∨
    controller'.Sound ∧ controller'.queue = controller.queue ++ chunks ∧
      (controller'.IsOpen ∨ controller'.HasEnded)

variable {controller controller' : ReadableController} {chunks : List Bytes}

theorem IsOpen.not_ended (h : controller.IsOpen) : ¬ controller.HasEnded := by
  intro he
  have hclose := he.close
  rw [h.close] at hclose
  cases hclose

theorem HasEnded.refusal? (h : controller.HasEnded) : controller.refusal? = some .closed := by
  simp only [ReadableController.refusal?, h.state, h.close]
  cases controller.queue.isEmpty <;> rfl

theorem Sound.queued (h : controller.Sound) {chunk : Bytes} (hchunk : chunk ≠ []) :
    (controller.queued chunk).Sound where
  nonempty := by
    intro other ho
    rcases List.mem_append.mp ho with ho | ho
    · exact h.nonempty other ho
    · rw [List.mem_singleton.mp ho]
      exact hchunk
  measured := by simp [ReadableController.queued, h.measured]

theorem IsOpen.finish_eq (h : controller.IsOpen) :
    controller.finish =
      { controller with
        closeRequested := true
        state := if controller.queue.isEmpty then .closed else .readable } := by
  rw [finish, close_of_open h.state h.close]

theorem IsOpen.hasEnded_finish (h : controller.IsOpen) : controller.finish.HasEnded := by
  rw [h.finish_eq]
  exact ⟨rfl, rfl⟩

theorem Sound.finish (h : controller.Sound) (ho : controller.IsOpen) :
    controller.finish.Sound := by
  rw [ho.finish_eq]
  exact ⟨h.nonempty, h.measured⟩

/-! ### What a source adds -/

theorem Fed.refl (hs : controller.Sound) (ho : controller.IsOpen) : controller.Fed [] controller :=
  ⟨rfl, .inr ⟨hs, (List.append_nil _).symm, .inl ho⟩⟩

/-- One call of a source on its controller. -/
theorem Fed.perform {desk : SourceDesk} (h : controller.Fed desk.accepted.reverse desk.controller)
    (call : SourceCall) :
    controller.Fed (SourceDesk.perform call desk).2.accepted.reverse
      (SourceDesk.perform call desk).2.controller := by
  obtain ⟨current, accepted⟩ := desk
  obtain ⟨hmark, hout⟩ := h
  simp only at hmark hout
  -- what has failed or ended takes nothing more
  have hrefused : ∀ {refusal : StreamError}, current.refusal? = some refusal →
      current.enqueue = (fun _ => (.error refusal, current)) ∧
        current.close = (.error refusal, current) := by
    intro refusal hr
    exact ⟨funext fun chunk => by simp [ReadableController.enqueue, hr],
      by simp [ReadableController.close, hr]⟩
  cases call with
  | desiredSize => exact ⟨hmark, hout⟩
  | enqueue chunk =>
    simp only [SourceDesk.perform, SourceDesk.enqueue]
    rcases hout with ⟨error, herror⟩ | ⟨hsound, hqueue, hopen | hended⟩
    · have hrefusal : current.refusal? = some error := by
        simp [ReadableController.refusal?, herror]
      rw [(hrefused hrefusal).1]
      exact ⟨hmark, .inl ⟨error, herror⟩⟩
    · by_cases hchunk : chunk = []
      · subst hchunk
        simp only [ReadableController.enqueue,
          ReadableController.refusal?_eq_none hopen.state hopen.close]
        exact ⟨hmark, .inr ⟨hsound, hqueue, .inl hopen⟩⟩
      · rw [enqueue_of_open hopen.state hopen.close hchunk]
        refine ⟨hmark, .inr ⟨hsound.queued hchunk, ?_, .inl ⟨hopen.state, hopen.close⟩⟩⟩
        simp [ReadableController.queued, hqueue, hchunk, Except.isOk, Except.toBool]
    · rw [(hrefused hended.refusal?).1]
      exact ⟨hmark, .inr ⟨hsound, hqueue, .inr hended⟩⟩
  | close =>
    simp only [SourceDesk.perform]
    rcases hout with ⟨error, herror⟩ | ⟨hsound, hqueue, hopen | hended⟩
    · have hrefusal : current.refusal? = some error := by
        simp [ReadableController.refusal?, herror]
      rw [(hrefused hrefusal).2]
      exact ⟨hmark, .inl ⟨error, herror⟩⟩
    · rw [close_of_open hopen.state hopen.close]
      exact ⟨hmark, .inr ⟨⟨hsound.nonempty, hsound.measured⟩, hqueue, .inr ⟨rfl, rfl⟩⟩⟩
    · rw [(hrefused hended.refusal?).2]
      exact ⟨hmark, .inr ⟨hsound, hqueue, .inr hended⟩⟩
  | error error =>
    simp only [SourceDesk.perform, ReadableController.error]
    cases hstate : current.state with
    | readable => exact ⟨hmark, .inl ⟨error, rfl⟩⟩
    | closed | errored => exact ⟨hmark, hout⟩

/-- Whatever calls a source makes on an open controller. By induction on its program. -/
theorem fed_run {α : Type} (program : Program SourceCall.Answer α) (hs : controller.Sound)
    (ho : controller.IsOpen) :
    controller.Fed (program.run SourceDesk.perform { controller }).2.accepted.reverse
      (program.run SourceDesk.perform { controller }).2.controller :=
  program.run_preserves SourceDesk.perform
    (fun desk => controller.Fed desk.accepted.reverse desk.controller)
    (fun call _ h => h.perform call) _ (.refl hs ho)

/-! ### What a reader finds -/

/-- The controller once the first chunk has been taken. -/
def dropped (controller : ReadableController) : ReadableController :=
  { controller with
    queue := controller.queue.tail
    queuedBytes := controller.queue.tail.flatten.length
    state :=
      if controller.closeRequested && controller.queue.tail.isEmpty then .closed
      else controller.state }

variable {chunk : Bytes} {rest : List Bytes}

theorem Sound.dropped (h : controller.Sound) : controller.dropped.Sound where
  nonempty other ho := h.nonempty other (List.mem_of_mem_tail ho)
  measured := rfl

theorem IsOpen.dropped (h : controller.IsOpen) : controller.dropped.IsOpen where
  state := by simp [ReadableController.dropped, h.close, h.state]
  close := h.close

theorem HasEnded.dropped (h : controller.HasEnded) (hq : controller.queue = chunk :: rest) :
    controller.dropped.HasEnded where
  close := h.close
  state := by simp [ReadableController.dropped, h.close, h.state, hq]

theorem takeReady_of_queue (hs : controller.Sound) (h : controller.IsOpen ∨ controller.HasEnded)
    (hq : controller.queue = chunk :: rest) :
    controller.takeReady = (.ok (some (.chunk chunk)), controller.dropped) := by
  have hstate : controller.state = .readable := by
    rcases h with h | h
    · exact h.state
    · simp [h.state, hq]
  have hsize : controller.queuedBytes - chunk.length = rest.flatten.length := by
    simp [hs.measured, hq]
  simp [takeReady, hstate, dequeue, hq, ReadableController.dropped, hsize]

theorem IsOpen.takeReady (h : controller.IsOpen) (hq : controller.queue = []) :
    controller.takeReady = (.ok none, controller) := by
  simp [ReadableController.takeReady, h.state, dequeue, hq]

theorem HasEnded.takeReady (h : controller.HasEnded) (hq : controller.queue = []) :
    controller.takeReady = (.ok (some .done), controller) := by
  simp [ReadableController.takeReady, h.state, hq]

end ReadableController

end EdgeStreams
