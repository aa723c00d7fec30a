import EdgeStreams.Proofs.Session.Writing

/-!
# What reaches a source or a sink

The algorithms behind streams over host bodies and behind transform streams that pass every chunk
on, as functions of the session.

## Main statements

- `Session.exec_writeAlgorithm_identity`, `Session.exec_closeAlgorithm_identity`,
  `Session.exec_abortAlgorithm_transform`: the writable half of a transform stream
- `Session.exec_writeAlgorithm_body`, `Session.exec_closeAlgorithm_body`,
  `Session.exec_abortAlgorithm_body`: a writable stream over a host body
- `Session.exec_cancel_of_readable` and its like: cancelling
- `Session.exec_pullBody_chunk` and its like: one pull of a host body
-/

namespace EdgeStreams

variable {H E : Type}

namespace ReadableController

variable {controller : ReadableController}

/-- The controller with one more chunk in its queue. -/
def queued (controller : ReadableController) (chunk : Bytes) : ReadableController :=
  { controller with
    queue := controller.queue ++ [chunk]
    queuedBytes := controller.queuedBytes + chunk.length }

theorem refusal?_eq_none (hs : controller.state = .readable)
    (hc : controller.closeRequested = false) :
    controller.refusal? = none := by
  simp [refusal?, hs, hc]

theorem enqueue_of_open (hs : controller.state = .readable)
    (hc : controller.closeRequested = false) {chunk : Bytes} (hchunk : chunk ≠ []) :
    controller.enqueue chunk = (.ok (), controller.queued chunk) := by
  simp [enqueue, refusal?_eq_none hs hc, hchunk, queued]

theorem close_of_open (hs : controller.state = .readable)
    (hc : controller.closeRequested = false) :
    controller.close =
      (.ok (),
        { controller with
          closeRequested := true
          state := if controller.queue.isEmpty then .closed else .readable }) := by
  simp [close, refusal?_eq_none hs hc]

end ReadableController

namespace Session

variable {s : Session H E}

/-- The identity transformer hands a chunk on. -/
theorem exec_transform_identity {id : BridgeId} {bridge : Bridge E} {source : Source E}
    {chunk : Bytes} (hb : s.streams.bridge? id = some bridge)
    (hid : bridge.transformer = .identity)
    (hr : s.streams.source? bridge.readable = some source)
    (hs : source.controller.state = .readable) (hc : source.controller.closeRequested = false)
    (hchunk : chunk ≠ []) :
    exec (withTransformer id (.transform chunk)) s =
      (.ok (),
        setSource bridge.readable { source with controller := source.controller.queued chunk }
          (noteEnqueued bridge.readable [chunk] s)) := by
  have hq : (source.controller.queued chunk).state = .readable := hs
  simp [withTransformer, exec_bind, hb, hr, hs, hid, Transformer.identity, TransformWork.transform,
    Program.run, TransformDesk.perform, SourceDesk.enqueue,
    ReadableController.enqueue_of_open hs hc hchunk, hchunk, Except.isOk, Except.toBool,
    bridgeFails, writableFault?, hq, setSource]

/-- The identity transformer has nothing to add at the end. -/
theorem exec_flush_identity {id : BridgeId} {bridge : Bridge E} {source : Source E}
    (hb : s.streams.bridge? id = some bridge) (hid : bridge.transformer = .identity)
    (hr : s.streams.source? bridge.readable = some source)
    (hs : source.controller.state = .readable) :
    exec (withTransformer id .flush) s =
      (.ok (),
        setSource bridge.readable { source with controller := source.controller.finish } s) := by
  have hq : ∀ error, source.controller.finish.state ≠ .errored error := by
    intro error
    simp only [ReadableController.finish, ReadableController.close]
    cases source.controller.refusal? with
    | some refusal => simp [hs]
    | none => cases source.controller.queue.isEmpty <;> simp
  cases hf : source.controller.finish.state with
  | errored error => exact absurd hf (hq error)
  | _ =>
    simp [withTransformer, exec_bind, hb, hr, hs, hid, Transformer.identity, TransformWork.flush,
      Program.run, TransformDesk.finish, bridgeFails, writableFault?, hf, noteEnqueued, setSource]

section Algorithms

variable [Host H] {w : WritableId} {sink : Sink E} {id : BridgeId} {bridge : Bridge E}
variable {source : Source E} {handle : BodyHandle}

theorem exec_writeAlgorithm_identity {chunk : Bytes} (hw : s.streams.sink? w = some sink)
    (hk : sink.backing = .transform id) (hb : s.streams.bridge? id = some bridge)
    (hid : bridge.transformer = .identity)
    (hr : s.streams.source? bridge.readable = some source)
    (hs : source.controller.state = .readable) (hc : source.controller.closeRequested = false)
    (hchunk : chunk ≠ []) :
    exec (writeAlgorithm w chunk) s =
      (.ok (),
        setSource bridge.readable { source with controller := source.controller.queued chunk }
          (noteEnqueued bridge.readable [chunk]
            (setBridge id { bridge with pullRequested := false } s))) := by
  have hb' : (setBridge id { bridge with pullRequested := false } s).streams.bridge? id =
      some { bridge with pullRequested := false } := by
    simp [Registry.bridge?_setBridge, hb]
  have hwork := exec_transform_identity hb' hid
    (show _ = some source by simpa using hr) hs hc hchunk
  simp [writeAlgorithm, exec_bind, hw, hk, hb, hwork]

theorem exec_closeAlgorithm_identity (hw : s.streams.sink? w = some sink)
    (hk : sink.backing = .transform id) (hb : s.streams.bridge? id = some bridge)
    (hid : bridge.transformer = .identity)
    (hr : s.streams.source? bridge.readable = some source)
    (hs : source.controller.state = .readable) :
    exec (closeAlgorithm w) s =
      (.ok (),
        setSource bridge.readable { source with controller := source.controller.finish } s) := by
  simp [closeAlgorithm, exec_bind, hw, hk, exec_flush_identity hb hid hr hs]

theorem exec_abortAlgorithm_transform (reason : Option String)
    (hw : s.streams.sink? w = some sink) (hk : sink.backing = .transform id)
    (hb : s.streams.bridge? id = some bridge) :
    exec (abortAlgorithm w reason) s =
      (.ok (),
        mapStreams (fun streams => streams.modifySource bridge.readable fun source =>
            { source with controller := source.controller.error .aborted })
          (setBridge id { bridge with errored := true } s)) := by
  simp [abortAlgorithm, exec_bind, hw, hk, hb]

theorem exec_writeAlgorithm_body {chunk : Bytes} (hw : s.streams.sink? w = some sink)
    (hk : sink.backing = .body handle) :
    exec (writeAlgorithm w chunk) s = exec
    (streamCall .bodyWrite (Host.bodyWrite handle chunk)) s := by
  simp [writeAlgorithm, exec_bind, hw, hk]

theorem exec_closeAlgorithm_body (hw : s.streams.sink? w = some sink)
    (hk : sink.backing = .body handle) :
    exec (closeAlgorithm w) s = exec (streamCall .bodyClose (Host.bodyClose handle)) s := by
  simp [closeAlgorithm, exec_bind, hw, hk]

theorem exec_abortAlgorithm_body {reason : Option String} (hw : s.streams.sink? w = some sink)
    (hk : sink.backing = .body handle) :
    exec (abortAlgorithm w reason) s = exec
    (streamCall .bodyAbandon (Host.bodyAbandon handle)) s := by
  simp [abortAlgorithm, exec_bind, hw, hk]

/-! ### Cancelling -/

variable {r : ReadableId} {reason : Option String} {lock : Option ReaderToken}

/-- The source once its consumer has cancelled it. -/
def canceledSource (source : Source E) : Source E :=
  { source with disturbed := true, canceled := true, controller := source.controller.cancel }

theorem exec_cancel_of_readable (h : s.streams.source? r = some source)
    (hl : source.readerLock = lock) (hs : source.controller.state = .readable)
    (hc : source.canceled = false) :
    exec (cancel r reason lock) s =
      exec (noting (.canceled r) (cancelAlgorithm r reason))
        (setSource r (canceledSource source) s) := by
  simp [cancel, cancelUnchecked, exec_bind, h, hl, Except.bind, hs, hc, canceledSource]

/-- A stream that has ended or failed is only marked as disturbed. -/
theorem exec_cancel_of_terminal (h : s.streams.source? r = some source)
    (hl : source.readerLock = lock) (hs : source.controller.state ≠ .readable) :
    (exec (cancel r reason lock) s).2 = setSource r { source with disturbed := true } s := by
  cases hstate : source.controller.state with
  | readable => exact absurd hstate hs
  | closed => simp [cancel, cancelUnchecked, exec_bind, h, hl, Except.bind, hstate]
  | errored error => simp [cancel, cancelUnchecked, exec_bind, h, hl, Except.bind, hstate]

theorem exec_cancelAlgorithm_body {size : UInt64} (h : s.streams.source? r = some source)
    (hk : source.backing = .body handle size) :
    exec (cancelAlgorithm r reason) s =
      exec (streamCall .bodyAbandon (Host.bodyAbandon handle)) s := by
  simp [cancelAlgorithm, exec_bind, h, hk]

theorem exec_cancelAlgorithm_transform (h : s.streams.source? r = some source)
    (hk : source.backing = .transform id) (hb : s.streams.bridge? id = some bridge) :
    exec (cancelAlgorithm r reason) s =
      (.ok (),
        mapStreams (fun streams => streams.modifySink bridge.writable fun sink =>
            sink.failing .canceled)
          (setBridge id { bridge with errored := true } s)) := by
  simp [cancelAlgorithm, exec_bind, h, hk, hb, Sink.failing]

/-! ### Pulling -/

section PullBody

variable {size : UInt64} {host : H}

theorem exec_pullBody_error {error : HostError}
    (hread : exec (Host.bodyRead handle size) s.host = (.error error, host)) :
    exec (pullBody r handle size) s = (.error (.host .bodyRead error), { s with host }) := by
  simp [pullBody, exec_bind, hread, Except.mapError]

/-- An empty answer is the end of the body. -/
theorem exec_pullBody_end (h : s.streams.source? r = some source)
    (hs : source.controller.state = .readable) (hc : source.controller.closeRequested = false)
    (hread : exec (Host.bodyRead handle size) s.host = (.ok [], host)) :
    exec (pullBody r handle size) s =
      (.ok (), setSource r { source with controller := source.controller.finish }
        { s with host }) := by
  simp [pullBody, exec_bind, hread, Except.mapError, h, ReadableController.finish,
    ReadableController.close_of_open hs hc]

/-- Any other answer is queued. -/
theorem exec_pullBody_chunk {chunk : Bytes} (h : s.streams.source? r = some source)
    (hs : source.controller.state = .readable) (hc : source.controller.closeRequested = false)
    (hchunk : chunk ≠ [])
    (hread : exec (Host.bodyRead handle size) s.host = (.ok chunk, host)) :
    exec (pullBody r handle size) s =
      (.ok (), noteEnqueued r [chunk]
        (setSource r { source with controller := source.controller.queued chunk }
          { s with host })) := by
  simp [pullBody, exec_bind, hread, Except.mapError, h, hchunk, atDesk, SourceDesk.enqueue,
    ReadableController.enqueue_of_open hs hc hchunk, Except.isOk, Except.toBool]

end PullBody

end Algorithms

end Session

end EdgeStreams
