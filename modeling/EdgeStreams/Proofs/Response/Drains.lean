import EdgeStreams.Proofs.Response.Transfer

/-!
# Where the octets of a response go

On their way the octets of a response enter a transform stream that passes every chunk on, and in
the end a host body. Both take in whatever is written.

## Main definitions

- `Drain.overBody`: a sink over a host body
- `Drain.overHalf`: the writable half of a transform stream, seen by its readable half

## Main statements

- `Session.exec_write_overBody`, `Session.exec_close_overBody`: what a sink over a host body asks of
  it
-/

namespace EdgeStreams

variable {E : Type}

namespace Session

variable {id : WritableId} {handle : BodyHandle} {sink : Sink E} {body : MemoryBody}
variable {lock : Option WriterToken} {s : Session MemoryHost E}

/-- A sink that has worked and is at rest again is as it was. -/
theorem setSink_note_working (hs : s.streams.sink? id = some sink) (event : StreamEvent)
    (host : MemoryHost) :
    setSink id sink (note event { setSink id sink.working s with host }) =
      note event { s with host } := by
  simp [setSink, mapStreams, note, Registry.setSink, SlotMap.set_of_get? hs]

section OverBody

variable (hs : s.streams.sink? id = some sink) (hback : sink.backing = .body handle)
  (hrest : sink.AtRest .writable lock) (hc : s.host.Calm)
  (hbody : s.host.bodies.find? handle.raw = some body) (hopen : body.state = .opened)
include hs hback hrest hc hbody hopen

/-- What is written to a sink over a host body that is open stands in that body. -/
theorem exec_write_overBody (chunk : Bytes) :
    exec (write id chunk lock) s =
      (.ok (), note (.written id chunk (.ok ()))
        { s with
          host := (s.host.received .bodyWrite handle.erase).putBody handle
            (body.append chunk) }) := by
  have hworking : (setSink id sink.working s).streams.sink? id = some sink.working := by
    simp [Registry.sink?_setSink, hs]
  have hexec : exec (writeAlgorithm id chunk) (setSink id sink.working s) =
      (.ok (), { setSink id sink.working s with
        host := (s.host.received .bodyWrite handle.erase).putBody handle
          (body.append chunk) }) := by
    simp [exec_writeAlgorithm_body hworking hback, MemoryHost.exec_bodyWrite,
      hc.faultless, hbody, hopen, Except.mapError]
  rw [exec_write_of_atRest hs hrest hexec hworking]
  exact congrArg _ (setSink_note_working hs _ _)

/-- The host body is closed with the sink. -/
theorem exec_close_overBody :
    exec (close id lock) s =
      (.ok (), setSink id (sink.inState .closed) (note (.closed id (.ok ()))
        { s with host := (s.host.received .bodyClose handle.erase).putBody handle
                  { body with state := .closed } })) := by
  have hworking : (setSink id (sink.inState .closing).working s).streams.sink? id =
      some (sink.inState .closing).working := by
    simp [Registry.sink?_setSink, hs]
  have hexec : exec (closeAlgorithm id) (setSink id (sink.inState .closing).working s) =
      (.ok (), { setSink id (sink.inState .closing).working s with
        host := (s.host.received .bodyClose handle.erase).putBody handle
          { body with state := .closed } }) := by
    simp [exec_closeAlgorithm_body hworking hback, MemoryHost.exec_bodyClose,
      hc.faultless, hbody, hopen, Except.mapError]
  rw [exec_close_of_atRest hs hrest hexec hworking]
  refine congrArg _ ?_
  simp [setSink, mapStreams, note, Registry.setSink]

end OverBody

end Session

namespace Drain

variable {id : WritableId} {s worked : Session MemoryHost E} {sink : Sink E}

/-- The work of a sink, between what the stream itself notes of it. -/
theorem confined_work {far : Footprint} {closings : Nat} {during : Sink E} (after : Sink E)
    (event : StreamEvent)
    (h : Confined far closings (Session.setSink id during s) worked) :
    Confined ({ writables := {id} } ∪ far) closings s
      (Session.setSink id after (Session.note event worked)) :=
  (((Confined.setSink s id during).mono Footprint.within_union_left).trans
    ((h.mono Footprint.within_union_right).noted event)).followed
      ((Confined.setSink _ id after).mono Footprint.within_union_left)

/-- A sink over a host body. -/
def overBody (id : WritableId) (writer : WriterToken) (handle : BodyHandle) : Drain E where
  id := id
  writer := writer
  far := { bodies := {handle} }
  closings := 1
  Holds s octets := ∃ sink body, s.streams.sink? id = some sink ∧ sink.backing = .body handle ∧
    sink.AtRest .writable (some writer) ∧ s.host.bodies.find? handle.raw = some body ∧
      body.state = .opened ∧ body.contents.toList = octets
  Closed s octets := ∃ body, s.host.bodies.find? handle.raw = some body ∧ body.state = .closed ∧
    body.contents.toList = octets
  unwritten := rfl
  unpiped := rfl
  frame := by
    rintro f s s' octets ⟨sink, body, hs, hback, hrest, hfound, hbody⟩ hf ha
    exact ⟨sink, body, (hf.sink id fun hm => ha.writables _ hm (.inl rfl)).trans hs, hback, hrest,
      (hf.body handle fun hm => ha.bodies _ hm (.inr rfl)).trans hfound, hbody⟩
  frameClosed := by
    rintro f s s' octets ⟨body, hfound, hbody⟩ hf ha
    exact ⟨body, (hf.body handle fun hm => ha.bodies _ hm rfl).trans hfound, hbody⟩
  writable := by
    rintro s octets ⟨sink, body, hs, -, hrest, -⟩
    simp [Registry.writableState?, hs, hrest.state]
  write := by
    rintro s octets chunk ⟨sink, body, hs, hback, hrest, hfound, hopen, rfl⟩ hc -
    have hput := Confined.putBody s .bodyWrite (.inr rfl) handle.erase handle (body.append chunk)
    refine ⟨_, Session.exec_write_overBody hs hback hrest hc hfound hopen chunk,
      (hput.mono Footprint.within_union_right).noted _, rfl, sink, body.append chunk, hs,
      hback, hrest, ?_, hopen, body.contents_append chunk⟩
    simp [MemoryHost.find?_putBody]
  close := by
    rintro s octets ⟨sink, body, hs, hback, hrest, hfound, hopen, rfl⟩ hc
    have hput := Confined.closeBody s handle.erase handle { body with state := .closed }
    refine ⟨_, Session.exec_close_overBody hs hback hrest hc hfound hopen,
      ((hput.mono Footprint.within_union_right).noted _).followed
        ((Confined.setSink _ id _).mono Footprint.within_union_left),
      { body with state := .closed }, ?_, rfl, rfl⟩
    simp [MemoryHost.find?_putBody]

/-- A transform stream that passes every chunk on, with its writable half at rest. -/
structure Passes (stage : TransformStream) (writer : WriterToken)
    (s : Session MemoryHost E) : Prop where
  sink : ∃ sink, s.streams.sink? stage.writable = some sink ∧
    sink.backing = .transform stage.bridge ∧ sink.AtRest .writable (some writer)
  bridge : ∃ bridge, s.streams.bridge? stage.bridge = some bridge ∧
    bridge.readable = stage.readable ∧ bridge.writable = stage.writable ∧
      bridge.transformer = .identity

theorem Passes.of_frame {stage : TransformStream} {writer : WriterToken} {f : Footprint}
    {s' : Session MemoryHost E} (h : Passes stage writer s) (hf : Frame f s s')
    (hwritable : stage.writable ∉ f.writables) (hbridge : stage.bridge ∉ f.bridges) :
    Passes stage writer s' := by
  obtain ⟨⟨sink, hs, hsink⟩, ⟨bridge, hb, hbridge'⟩⟩ := h
  exact ⟨⟨sink, (hf.sink _ hwritable).trans hs, hsink⟩,
    ⟨bridge, (hf.bridge _ hbridge).trans hb, hbridge'⟩⟩

section Within

variable {readable : ReadableId} {bridge : BridgeId}

theorem readable_within : ({ readables := {readable} } : Footprint).Within
    { readables := {readable}, bridges := {bridge} } :=
  ⟨subset_rfl, subset_rfl, Set.empty_subset _, subset_rfl, subset_rfl⟩

theorem bridge_within : ({ bridges := {bridge} } : Footprint).Within
    { readables := {readable}, bridges := {bridge} } :=
  ⟨Set.empty_subset _, subset_rfl, subset_rfl, subset_rfl, subset_rfl⟩

end Within

/-- The writable half of a transform stream. What has been taken in stands in the queue of the
readable half, which is `half` but for its controller. -/
def overHalf (stage : TransformStream) (writer : WriterToken) (half : Source E) : Drain E where
  id := stage.writable
  writer := writer
  far := { readables := {stage.readable}, bridges := {stage.bridge} }
  closings := 0
  Holds s octets := Passes stage writer s ∧
    ∃ controller, s.streams.source? stage.readable = some { half with controller } ∧
      controller.highWaterMark = half.controller.highWaterMark ∧ controller.Sound ∧
        controller.IsOpen ∧ controller.queue.flatten = octets
  Closed s octets :=
    ∃ controller, s.streams.source? stage.readable = some { half with controller } ∧
      controller.highWaterMark = half.controller.highWaterMark ∧ controller.Sound ∧
        controller.HasEnded ∧ controller.queue.flatten = octets
  unwritten := rfl
  unpiped := rfl
  frame := by
    rintro f s s' octets ⟨hpasses, controller, hr, hrest⟩ hf ha
    exact ⟨hpasses.of_frame hf (fun hm => ha.writables _ hm (.inl rfl))
        fun hm => ha.bridges _ hm (.inr rfl),
      controller, (hf.source _ fun hm => ha.readables _ hm (.inr rfl)).trans hr, hrest⟩
  frameClosed := by
    rintro f s s' octets ⟨controller, hr, hrest⟩ hf ha
    exact ⟨controller, (hf.source _ fun hm => ha.readables _ hm rfl).trans hr, hrest⟩
  writable := by
    rintro s octets ⟨⟨⟨sink, hs, -, hrest⟩, -⟩, -⟩
    simp [Registry.writableState?, hs, hrest.state]
  write := by
    rintro s octets chunk
      ⟨⟨⟨sink, hs, hback, hrest⟩, ⟨⟨_, _, _, errored, asked⟩, hb, rfl, rfl, rfl⟩⟩,
      controller, hh, hmark, hsound, hopen, rfl⟩ - hchunk
    have hworking : (Session.setSink stage.writable sink.working s).streams.sink? stage.writable =
        some sink.working := by
      simp [Registry.sink?_setSink, hs]
    have hexec := Session.exec_writeAlgorithm_identity hworking hback hb rfl hh
      hopen.state hopen.close hchunk
    let forgotten : Bridge E :=
      { readable := stage.readable
        writable := stage.writable
        transformer := .identity
        errored := errored }
    have hwork : Confined { readables := {stage.readable}, bridges := {stage.bridge} } 0
        (Session.setSink stage.writable sink.working s)
        (Session.setSource stage.readable { half with controller := controller.queued chunk }
          (Session.noteEnqueued stage.readable [chunk]
            (Session.setBridge stage.bridge forgotten
              (Session.setSink stage.writable sink.working s)))) :=
      (((Confined.setBridge _ _ _).mono bridge_within).notedEnqueued _ _).trans
        ((Confined.setSource _ _ _).mono readable_within)
    refine ⟨_, Session.exec_write_of_atRest hs hrest hexec hworking, confined_work _ _ hwork, rfl,
      ⟨⟨sink, ?_, hback, hrest⟩, ⟨forgotten, ?_, rfl, rfl, rfl⟩⟩,
      controller.queued chunk, ?_, hmark, hsound.queued hchunk, ⟨hopen.state, hopen.close⟩, ?_⟩
    · simp [Registry.sink?_setSink, hs, Sink.settled]
    · simp [Registry.bridge?_setBridge, hb, forgotten]
    · simp [Registry.source?_setSource, hh]
    · simp [ReadableController.queued]
  close := by
    rintro s octets ⟨⟨⟨sink, hs, hback, hrest⟩, ⟨⟨_, _, _, errored, asked⟩, hb, rfl, rfl, rfl⟩⟩,
      controller, hh, hmark, hsound, hopen, rfl⟩ -
    have hworking : (Session.setSink stage.writable (sink.inState .closing).working s).streams.sink?
        stage.writable = some (sink.inState .closing).working := by
      simp [Registry.sink?_setSink, hs]
    have hexec := Session.exec_closeAlgorithm_identity hworking hback hb rfl hh hopen.state
    have hwork : Confined { readables := {stage.readable}, bridges := {stage.bridge} } 0
        (Session.setSink stage.writable (sink.inState .closing).working s)
        (Session.setSource stage.readable { half with controller := controller.finish }
          (Session.setSink stage.writable (sink.inState .closing).working s)) :=
      (Confined.setSource _ _ _).mono readable_within
    refine ⟨_, Session.exec_close_of_atRest hs hrest hexec hworking, confined_work _ _ hwork,
      controller.finish, ?_, ?_, hsound.finish hopen, hopen.hasEnded_finish, ?_⟩
    · simp [Registry.source?_setSource, hh]
    · simpa [hopen.finish_eq] using hmark
    · simp [hopen.finish_eq]

end Drain

end EdgeStreams
