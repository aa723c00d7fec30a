import EdgeStreams.Proofs.Session.Controller
import EdgeStreams.Proofs.Session.Leftovers
import EdgeStreams.Proofs.Session.Resting

/-!
# What the work behind one stream does to the others

The algorithms behind sources and sinks reach other streams over bridges only. All that they do to
another source is to feed it, end it or fail it, and all that they do to another sink is to fail it.

## Main definitions

- `ReadableController.ProceedsTo`: what has ended stays as it is
- `Program.Makes`: a program makes a call
- `Session.calls`: what was asked of sources and sinks
- `Session.WorkedInto`, `Session.AsksNothing`: what a piece of work may have done to all streams

## Main statements

- `Session.exec_withTransformer`: what a transformer does to a session
- `Session.asksNothing_writeAlgorithm`, `Session.asksNothing_closeAlgorithm`,
  `Session.asksNothing_abortAlgorithm`, `Session.asksNothing_cancelAlgorithm`: the algorithms
-/

namespace EdgeStreams

variable {H E : Type}

namespace SlotMap

theorem rel_none_left {α : Type} {R : α → α → Prop} {found : Option α}
    (h : Option.Rel R none found) : found = none := by
  cases h
  rfl

end SlotMap

/-! ### Controllers -/

namespace ReadableController

/-- The queue is measured right, and a stream that is to end has ended once nothing is queued. -/
structure Measured (controller : ReadableController) : Prop where
  queued : controller.queuedBytes = controller.queue.flatten.length
  ended : controller.closeRequested = true → controller.queue = [] → controller.state ≠ .readable

/-- Something has been done to a controller. A requested end is still requested, and a state that is
final has stayed. -/
structure ProceedsTo (controller controller' : ReadableController) : Prop where
  close : controller.closeRequested = true → controller'.closeRequested = true
  state : controller.state ≠ .readable → controller'.state = controller.state
  mark : controller'.highWaterMark = controller.highWaterMark
  measured : controller.Measured → controller'.Measured

namespace ProceedsTo

variable {first second third controller : ReadableController}

theorem refl (controller : ReadableController) : controller.ProceedsTo controller :=
  ⟨id, fun _ => rfl, rfl, id⟩

theorem trans (h : first.ProceedsTo second) (h' : second.ProceedsTo third) :
    first.ProceedsTo third where
  close := h'.close ∘ h.close
  state hs := (h'.state (by rwa [h.state hs])).trans (h.state hs)
  mark := h'.mark.trans h.mark
  measured := h'.measured ∘ h.measured

theorem enqueue (controller : ReadableController) (chunk : Bytes) :
    controller.ProceedsTo (controller.enqueue chunk).2 := by
  unfold ReadableController.enqueue
  split
  · exact refl controller
  · split
    · exact refl controller
    · refine ⟨id, fun _ => rfl, rfl, fun hm => ⟨?_, fun _ he => by simp at he⟩⟩
      simp [hm.queued]

theorem close_call (controller : ReadableController) :
    controller.ProceedsTo controller.close.2 := by
  unfold ReadableController.close
  split
  · exact refl controller
  · next hopen =>
    refine ⟨fun _ => rfl, fun hs => ?_, rfl, fun hm => ⟨hm.queued, fun _ he => ?_⟩⟩
    · cases hstate : controller.state with
      | readable => exact absurd hstate hs
      | closed | errored => simp [refusal?, hstate] at hopen
    · have hempty : controller.queue = [] := he
      simp [hempty]

theorem error (controller : ReadableController) (error : StreamError) :
    controller.ProceedsTo (controller.error error) := by
  unfold ReadableController.error
  split
  · next hreadable =>
    exact ⟨id, fun hs => absurd hreadable hs, rfl, fun _ => ⟨rfl, fun _ _ h => by cases h⟩⟩
  · exact refl controller

theorem cancel (controller : ReadableController) : controller.ProceedsTo controller.cancel := by
  unfold ReadableController.cancel
  split
  · next hreadable =>
    exact ⟨id, fun hs => absurd hreadable hs, rfl, fun _ => ⟨rfl, fun _ _ h => by cases h⟩⟩
  · next hs => exact ⟨id, fun _ => rfl, rfl, fun _ => ⟨rfl, fun _ _ => hs⟩⟩

theorem takeReady (controller : ReadableController) :
    controller.ProceedsTo controller.takeReady.2 := by
  cases hstate : controller.state with
  | closed | errored => simpa [ReadableController.takeReady, hstate] using refl controller
  | readable =>
    cases hqueue : controller.queue with
    | nil => simpa [ReadableController.takeReady, hstate, dequeue, hqueue] using refl controller
    | cons chunk rest =>
      simp only [ReadableController.takeReady, hstate, dequeue, hqueue]
      refine ⟨id, fun hs => absurd hstate hs, rfl, fun hm => ⟨?_, fun hclose he => ?_⟩⟩
      · simp [hm.queued, hqueue]
      · simp_all

/-- One call of a source. -/
theorem perform (call : SourceCall) (desk : SourceDesk) :
    desk.controller.ProceedsTo (SourceDesk.perform call desk).2.controller := by
  cases call with
  | enqueue chunk => exact enqueue _ chunk
  | close => exact close_call _
  | error reason => exact error _ reason
  | desiredSize => exact refl _

/-- One call of a transformer. -/
theorem performTransform (call : TransformCall) (desk : TransformDesk) :
    desk.controller.ProceedsTo (TransformDesk.perform call desk).2.controller := by
  cases call with
  | enqueue chunk => exact enqueue _ chunk
  | error reason => exact error _ reason
  | terminate => exact close_call _
  | desiredSize => exact refl _

/-- Whatever calls a source makes. -/
theorem run {α : Type} (program : Program SourceCall.Answer α) (desk : SourceDesk) :
    desk.controller.ProceedsTo (program.run SourceDesk.perform desk).2.controller :=
  program.run_preserves SourceDesk.perform (fun later =>
    desk.controller.ProceedsTo later.controller)
    (fun call later h => h.trans (perform call later)) desk (refl _)

/-- Whatever calls a transformer makes. -/
theorem runTransform {α : Type} (program : Program TransformCall.Answer α) (desk : TransformDesk) :
    desk.controller.ProceedsTo (program.run TransformDesk.perform desk).2.controller :=
  program.run_preserves TransformDesk.perform
    (fun later => desk.controller.ProceedsTo later.controller)
    (fun call later h => h.trans (performTransform call later)) desk (refl _)

/-- What takes no more chunks never takes any again. -/
theorem not_open (h : first.ProceedsTo second) (hopen : ¬ first.IsOpen) : ¬ second.IsOpen := by
  intro hsecond
  refine hopen ⟨?_, ?_⟩
  · by_contra hs
    exact hs ((h.state hs).symm.trans hsecond.state)
  · cases hclose : first.closeRequested with
    | false => rfl
    | true => exact (h.close hclose).symm.trans hsecond.close

end ProceedsTo

/-- Nothing is taken out of an empty queue. -/
theorem queue_takeReady_of_nil (controller : ReadableController) (h : controller.queue = []) :
    controller.takeReady.2.queue = [] := by
  cases hstate : controller.state <;> simp [takeReady, hstate, dequeue, h]

theorem not_open_of_refusal {controller : ReadableController} {error : StreamError}
    (h : controller.refusal? = some error) : ¬ controller.IsOpen := by
  rintro ⟨hstate, hclose⟩
  simp [refusal?, hstate, hclose] at h

theorem not_open_close (controller : ReadableController) : ¬ controller.close.2.IsOpen := by
  unfold close
  split
  · next hrefused => exact not_open_of_refusal hrefused
  · rintro ⟨-, hclose⟩
    cases hclose

theorem state_error (controller : ReadableController) (error : StreamError) :
    (controller.error error).state ≠ .readable := by
  intro hstate
  unfold ReadableController.error at hstate
  split at hstate
  · cases hstate
  · next hs => exact hs hstate

theorem not_open_error (controller : ReadableController) (error : StreamError) :
    ¬ (controller.error error).IsOpen := fun hopen => controller.state_error error hopen.state

end ReadableController

/-! ### Calls that programs make -/

/-- A program makes a call in a run from a state. -/
inductive Program.Makes {Op α σ : Type} {Answer : Op → Type}
    (perform : (op : Op) → σ → Answer op × σ) (op : Op) : Program Answer α → σ → Prop
  | now {next : Answer op → Program Answer α} (state : σ) : Makes perform op (.call op next) state
  | later {other : Op} {next : Answer other → Program Answer α} {state : σ} :
    Makes perform op (next (perform other state).1) (perform other state).2 →
      Makes perform op (.call other next) state

/-- Whether a call ends or fails the stream. -/
def SourceCall.ends : SourceCall → Bool
  | .close | .error _ => true
  | .enqueue _ | .desiredSize => false

/-- A source that has ended or failed its stream can add nothing to it any more. -/
theorem SourceDesk.not_open_of_makes {α : Type} {program : Program SourceCall.Answer α}
    {desk : SourceDesk} {call : SourceCall} (h : program.Makes SourceDesk.perform call desk)
    (he : call.ends = true) : ¬ (program.run SourceDesk.perform desk).2.controller.IsOpen := by
  induction h with
  | now state =>
    refine ReadableController.ProceedsTo.not_open (.run _ (SourceDesk.perform call state).2) ?_
    cases call with
    | close => exact ReadableController.not_open_close _
    | error reason => exact ReadableController.not_open_error _ reason
    | enqueue | desiredSize => cases he
  | later _ ih => exact ih

/-- The work of a transformer never takes back what has ended. -/
def TransformWork.KeepsEnded (work : TransformWork E) : Prop :=
  ∀ (transformer : Transformer E) (env : E) (desk : TransformDesk),
    desk.controller.ProceedsTo (work transformer env desk).2.controller

namespace TransformWork

theorem keepsEnded_start : (start : TransformWork E).KeepsEnded := fun transformer env desk =>
  .runTransform (transformer.start env) desk

theorem keepsEnded_transform (chunk : Bytes) : (transform chunk : TransformWork E).KeepsEnded :=
  fun transformer env desk => .runTransform (transformer.transform chunk env) desk

theorem keepsEnded_flush : (flush : TransformWork E).KeepsEnded := by
  intro transformer env desk
  have hrun := ReadableController.ProceedsTo.runTransform (transformer.flush env) desk
  unfold flush
  split
  · next heq => exact (heq ▸ hrun).trans (.close_call _)
  · exact hrun

end TransformWork

/-! ### Streams -/

/-- A source has been fed, ended or failed. -/
structure Source.WorkedInto (source source' : Source E) : Prop where
  rest : source' = { source with controller := source'.controller }
  controller : source.controller.ProceedsTo source'.controller

namespace Source.WorkedInto

variable {first second third : Source E}

theorem refl (source : Source E) : source.WorkedInto source := ⟨rfl, .refl _⟩

theorem trans (h : first.WorkedInto second) (h' : second.WorkedInto third) :
    first.WorkedInto third where
  rest := by rw [h'.rest, h.rest]
  controller := h.controller.trans h'.controller

end Source.WorkedInto

/-- Whether an event tells that something was asked of a source or a sink. -/
def StreamEvent.isCall : StreamEvent → Bool
  | .pullBegan _ | .pullEnded _ _ | .canceled _ _ | .written _ _ _ | .closed _ _ | .aborted _ _ =>
    true
  | .sourceStarted _ _ | .sinkStarted _ _ | .enqueued _ _ | .delivered _ _ => false

namespace Session

/-- What was asked of sources and sinks, last first. -/
def calls (s : Session H E) : List StreamEvent := s.journal.filter StreamEvent.isCall

/-- A piece of work has been done on some streams. The calls are what it has asked of sources and
sinks, last first. -/
structure WorkedInto (calls : List StreamEvent) (s t : Session H E) : Prop where
  source : ∀ id, Option.Rel Source.WorkedInto (s.streams.source? id) (t.streams.source? id)
  sink : ∀ id, Option.Rel Sink.WorkedInto (s.streams.sink? id) (t.streams.sink? id)
  bridge : ∀ id, Option.Rel Bridge.Keeps (s.streams.bridge? id) (t.streams.bridge? id)
  pipes : t.streams.pipes = s.streams.pipes
  calls : t.calls = calls ++ s.calls

/-- A piece of work that asks nothing of any source or sink. -/
abbrev AsksNothing (s t : Session H E) : Prop := WorkedInto [] s t

namespace WorkedInto

variable {s t u : Session H E} {calls more : List StreamEvent}

/-- The streams are as they were. -/
theorem of_eq (hs : t.streams = s.streams) (hc : t.calls = calls ++ s.calls) :
    WorkedInto calls s t where
  source _ := hs ▸ SlotMap.rel_refl Source.WorkedInto.refl _
  sink _ := hs ▸ SlotMap.rel_refl Sink.WorkedInto.refl _
  bridge _ := hs ▸ SlotMap.rel_refl Bridge.Keeps.refl _
  pipes := hs ▸ rfl
  calls := hc

theorem refl (s : Session H E) : s.AsksNothing s := of_eq rfl rfl

theorem trans (h : WorkedInto calls s t) (h' : WorkedInto more t u) :
    WorkedInto (more ++ calls) s u where
  source id := SlotMap.rel_trans Source.WorkedInto.trans (h.source id) (h'.source id)
  sink id := SlotMap.rel_trans Sink.WorkedInto.trans (h.sink id) (h'.sink id)
  bridge id := SlotMap.rel_trans Bridge.Keeps.trans (h.bridge id) (h'.bridge id)
  pipes := h'.pipes.trans h.pipes
  calls := by rw [h'.calls, h.calls, List.append_assoc]

theorem note (h : WorkedInto calls s t) {event : StreamEvent} (he : event.isCall = true) :
    WorkedInto (event :: calls) s (note event t) :=
  ⟨h.source, h.sink, h.bridge, h.pipes, by simpa [Session.calls, Session.note, he] using h.calls⟩

theorem noteEnqueued (h : WorkedInto calls s t) (id : ReadableId) (chunks : List Bytes) :
    WorkedInto calls s (noteEnqueued id chunks t) := by
  refine ⟨h.source, h.sink, h.bridge, h.pipes, ?_⟩
  have hnone : (chunks.map (StreamEvent.enqueued id)).filter StreamEvent.isCall = [] := by
    simp [List.filter_eq_nil_iff, StreamEvent.isCall]
  rw [Session.calls, Session.noteEnqueued, List.filter_append, hnone]
  exact h.calls

theorem env (h : WorkedInto calls s t) (env : E) : WorkedInto calls s { t with env } :=
  ⟨h.source, h.sink, h.bridge, h.pipes, h.calls⟩

theorem setSource (h : WorkedInto calls s t) {id : ReadableId} {source source' : Source E}
    (hs : t.streams.source? id = some source) (hr : source.WorkedInto source') :
    WorkedInto calls s (setSource id source' t) where
  source _ := SlotMap.rel_set Source.WorkedInto.trans (h.source _) hs hr
  sink := h.sink
  bridge := h.bridge
  pipes := h.pipes
  calls := h.calls

theorem setSink (h : WorkedInto calls s t) {id : WritableId} {sink sink' : Sink E}
    (hs : t.streams.sink? id = some sink) (hr : sink.WorkedInto sink') :
    WorkedInto calls s (setSink id sink' t) where
  source := h.source
  sink _ := SlotMap.rel_set Sink.WorkedInto.trans (h.sink _) hs hr
  bridge := h.bridge
  pipes := h.pipes
  calls := h.calls

theorem setBridge (h : WorkedInto calls s t) {id : BridgeId} {bridge bridge' : Bridge E}
    (hb : t.streams.bridge? id = some bridge) (hk : bridge.Keeps bridge') :
    WorkedInto calls s (setBridge id bridge' t) where
  source := h.source
  sink := h.sink
  bridge _ := SlotMap.rel_set Bridge.Keeps.trans (h.bridge _) hb hk
  pipes := h.pipes
  calls := h.calls

theorem modifySource (h : WorkedInto calls s t) (id : ReadableId) {change : Source E → Source E}
    (hc : ∀ source : Source E, source.WorkedInto (change source)) :
    WorkedInto calls s (mapStreams (fun streams => streams.modifySource id change) t) := by
  cases hs : t.streams.source? id with
  | none => simpa [mapStreams, Registry.modifySource, hs] using h
  | some source =>
    simpa [mapStreams, Registry.modifySource, hs, Session.setSource] using h.setSource hs
      (hc source)

theorem modifySink (h : WorkedInto calls s t) (id : WritableId) {change : Sink E → Sink E}
    (hc : ∀ sink, t.streams.sink? id = some sink → sink.WorkedInto (change sink)) :
    WorkedInto calls s (mapStreams (fun streams => streams.modifySink id change) t) where
  source other := by
    simp only [streams_mapStreams, Registry.source?_modifySink]
    exact h.source other
  sink other := by
    simp only [streams_mapStreams, Registry.sink?_modifySink]
    split
    · next he =>
      subst he
      have hrel := h.sink other
      cases ht : t.streams.sink? other with
      | none => simpa [ht] using hrel
      | some sink =>
        obtain ⟨before, hs, hr⟩ := SlotMap.rel_some_right (ht ▸ hrel)
        exact hs ▸ .some (hr.trans (hc sink ht))
    · exact h.sink other
  bridge other := by
    simp only [streams_mapStreams, Registry.bridge?_modifySink]
    exact h.bridge other
  pipes := by simpa using h.pipes
  calls := h.calls

end WorkedInto

/-! ### Transformers -/

section Transformed

variable (bridge : Bridge E) (worked : GuestResult E × TransformDesk) (s : Session H E)

/-- The controller of the readable half after the transformer has worked. A failure fails it. -/
def leftBy (worked : GuestResult E × TransformDesk) : ReadableController :=
  match worked.1.1 with
  | .error error => worked.2.controller.error error
  | .ok () => worked.2.controller

/-- The readable half gets what the transformer has made. -/
def fed (source : Source E) : Session H E :=
  setSource bridge.readable { source with controller := leftBy worked }
    (noteEnqueued bridge.readable worked.2.accepted { s with env := worked.1.2 })

/-- The bridge is marked if the transformer has failed the stream. -/
def marked (id : BridgeId) : Session H E :=
  if bridgeFails worked.1.1 worked.2 then setBridge id { bridge with errored := true } s else s

/-- The writable half fails if the transformer has failed or ended the stream. -/
def spread : Session H E :=
  match writableFault? worked.1.1 worked.2 with
  | some error =>
    mapStreams (fun streams => streams.modifySink bridge.writable fun sink =>
      if sink.controller.state = .writable then sink.failing error else sink) s
  | none => s

/-- The session after a transformer has worked on the readable half. -/
def transformed (id : BridgeId) (source : Source E) : Session H E :=
  spread bridge worked (marked bridge worked (fed bridge worked s source) id)

end Transformed

/-- A transformer works if its bridge and the readable half live and the readable half has not
failed. -/
theorem exec_withTransformer (id : BridgeId) (work : TransformWork E) (s : Session H E) :
    exec (withTransformer id work) s =
      match s.streams.bridge? id with
      | none => (.error .released, s)
      | some bridge =>
        match s.streams.source? bridge.readable with
        | none => (.error .released, s)
        | some source =>
          match source.controller.state with
          | .errored error => (.error error, s)
          | _ =>
            let worked := work bridge.transformer s.env { controller := source.controller }
            (worked.1.1, transformed bridge worked s id source) := by
  simp only [withTransformer, exec_bind, exec_bridge]
  cases s.streams.bridge? id with
  | none => rfl
  | some bridge =>
    simp only [Registry.need_some, exec_source]
    cases s.streams.source? bridge.readable with
    | none => rfl
    | some source =>
      cases hstate : source.controller.state with
      | errored error => simp [hstate]
      | readable | closed =>
        simp only [Registry.need_some, hstate, exec_bind, exec_get, exec_modify,
          transformed, spread, marked, fed, leftBy]
        generalize work bridge.transformer s.env { controller := source.controller } = worked
        obtain ⟨⟨result, env⟩, desk⟩ := worked
        cases bridgeFails result desk <;> cases writableFault? result desk <;>
          cases result <;> simp [exec_bind, Sink.failing]

variable {s : Session H E}

theorem asksNothing_transformed {id : BridgeId} {bridge : Bridge E} {source : Source E}
    {worked : GuestResult E × TransformDesk} (hb : s.streams.bridge? id = some bridge)
    (hs : s.streams.source? bridge.readable = some source)
    (hw : source.controller.ProceedsTo worked.2.controller) :
    s.AsksNothing (transformed bridge worked s id source) := by
  have hleft : source.controller.ProceedsTo (leftBy worked) := by
    unfold leftBy
    split
    · exact hw.trans (.error _ _)
    · exact hw
  have hfed : s.AsksNothing (fed bridge worked s source) :=
    (((WorkedInto.refl s).env _).noteEnqueued _ _).setSource hs ⟨rfl, hleft⟩
  have hmarked : s.AsksNothing (marked bridge worked (fed bridge worked s source) id) := by
    unfold marked
    split
    · exact hfed.setBridge hb ⟨rfl, rfl, rfl, fun _ => rfl⟩
    · exact hfed
  unfold transformed spread
  split
  · refine hmarked.modifySink _ fun sink _ => ?_
    split
    · next hwritable => exact .inr ⟨hwritable, Sink.ended_failing hwritable _⟩
    · exact .refl sink
  · exact hmarked

theorem asksNothing_withTransformer (id : BridgeId) {work : TransformWork E} (hw : work.KeepsEnded)
    (s : Session H E) : s.AsksNothing (exec (withTransformer id work) s).2 := by
  rw [exec_withTransformer]
  cases hb : s.streams.bridge? id with
  | none => exact .refl s
  | some bridge =>
    dsimp only
    cases hs : s.streams.source? bridge.readable with
    | none => exact .refl s
    | some source =>
      have hproceeds := hw bridge.transformer s.env { controller := source.controller }
      dsimp only
      split
      · exact .refl s
      · exact asksNothing_transformed hb hs hproceeds

/-! ### Algorithms -/

section Algorithms

variable [Host H]

theorem asksNothing_writeAlgorithm (id : WritableId) (chunk : Bytes) (s : Session H E) :
    s.AsksNothing (exec (writeAlgorithm id chunk) s).2 := by
  simp only [writeAlgorithm, exec_bind, exec_sink]
  cases s.streams.sink? id with
  | none => exact .refl s
  | some sink =>
    dsimp only [Registry.need_some]
    cases sink.backing with
    | body handle => exact .of_eq rfl rfl
    | script guest => exact .of_eq rfl rfl
    | transform name =>
      simp only [exec_bind, exec_bridge]
      cases hb : s.streams.bridge? name with
      | none => exact .refl s
      | some bridge =>
        have hforgot : s.AsksNothing (setBridge name { bridge with pullRequested := false } s) :=
          (WorkedInto.refl s).setBridge hb ⟨rfl, rfl, rfl, fun h => h⟩
        exact hforgot.trans (asksNothing_withTransformer name
          (TransformWork.keepsEnded_transform chunk) _)

theorem asksNothing_closeAlgorithm (id : WritableId) (s : Session H E) :
    s.AsksNothing (exec (closeAlgorithm id) s).2 := by
  simp only [closeAlgorithm, exec_bind, exec_sink]
  cases s.streams.sink? id with
  | none => exact .refl s
  | some sink =>
    dsimp only [Registry.need_some]
    cases sink.backing with
    | body handle => exact .of_eq rfl rfl
    | script guest => exact .of_eq rfl rfl
    | transform name => exact asksNothing_withTransformer name TransformWork.keepsEnded_flush s

theorem asksNothing_abortAlgorithm (id : WritableId) (reason : Option String) (s : Session H E) :
    s.AsksNothing (exec (abortAlgorithm id reason) s).2 := by
  simp only [abortAlgorithm, exec_bind, exec_sink]
  cases s.streams.sink? id with
  | none => exact .refl s
  | some sink =>
    dsimp only [Registry.need_some]
    cases sink.backing with
    | body handle => exact .of_eq rfl rfl
    | script guest => exact .of_eq rfl rfl
    | transform name =>
      simp only [exec_bind, exec_bridge]
      cases hb : s.streams.bridge? name with
      | none => exact .refl s
      | some bridge =>
        have hfailed : s.AsksNothing (setBridge name { bridge with errored := true } s) :=
          (WorkedInto.refl s).setBridge hb ⟨rfl, rfl, rfl, fun _ => rfl⟩
        exact hfailed.modifySource _ fun source => ⟨rfl, .error _ _⟩

/-- The writable half of a transform stream whose readable half is cancelled is not about to end. -/
theorem asksNothing_cancelAlgorithm (id : ReadableId) (reason : Option String) {s : Session H E}
    (hi : ∀ id sink, s.streams.sink? id = some sink → sink.controller.state ≠ .closing) :
    s.AsksNothing (exec (cancelAlgorithm id reason) s).2 := by
  simp only [cancelAlgorithm, exec_bind, exec_source]
  cases s.streams.source? id with
  | none => exact .refl s
  | some source =>
    dsimp only [Registry.need_some]
    cases source.backing with
    | body handle size => exact .of_eq rfl rfl
    | script guest => exact .of_eq rfl rfl
    | transform name =>
      simp only [exec_bind, exec_bridge]
      cases hb : s.streams.bridge? name with
      | none => exact .refl s
      | some bridge =>
        have hfailed : s.AsksNothing (setBridge name { bridge with errored := true } s) :=
          (WorkedInto.refl s).setBridge hb ⟨rfl, rfl, rfl, fun _ => rfl⟩
        exact hfailed.modifySink _ fun sink hs => .failing (hi _ sink hs) _

end Algorithms

end Session

end EdgeStreams
