import EdgeStreams.Proofs.Body.OneShot
import EdgeStreams.Proofs.Client.Lasting

/-!
# Names whose entries are gone

Names are kept by all sorts of things that outlive what they name: clients, bodies, guests, and
entries of the registry itself. An entry that has been taken out is found by nobody any more,
however often its slot is used again. An operation on it says that it has been released, and does
nothing. And what an entry of the registry refers to is what it has referred to from the start, or
nothing.

## Main definitions

- `Session.ForgetsReadable`, `Session.ForgetsWritable`, `Registry.ForgetsPipe`,
  `Registry.ForgetsBridge`: nothing comes of using a name
- `Registry.Refers`: what entries refer to, and what becomes of it
- `Client.ForgetsGone`: what has been taken out is gone

## Main statements

- `Session.forgetsReadable`, `Session.forgetsWritable`: a name that finds nothing
- `Client.forgets_of_calls`: what has been taken out is gone for ever
- `Client.gone_not_always_released`: two operations that do not say so

## Design notes

A pipe locks its source before it looks for its destination. So it may say that the source is
locked, and it may use up the number of a token. Piping through a transform stream never looks at
the readable half, whose name it hands out.
-/

namespace EdgeStreams

variable {H E : Type}

/-! ### What comes of a name that finds nothing -/

namespace Session

variable [Host H]

/-- Nothing is known of a readable stream. Every operation on it says so, and changes nothing. -/
structure ForgetsReadable (s : Session H E) (id : ReadableId) : Prop where
  contained : s.streams.containsReadable id = false
  kind : s.streams.sourceKind? id = none
  native : s.streams.hasNativeSource id = false
  isBody : s.streams.isBody id = false
  handle : s.streams.bodyHandle? id = none
  isLocked : s.streams.isLocked id = false
  isDisturbed : s.streams.isDisturbed id = false
  state : s.streams.readableState? id = none
  owner : s.streams.readableOwner? id = none
  pipedTo : s.streams.pipedTo? id = none
  setOwner : ∀ owner, exec (onStreams (Registry.setReadableOwner id owner)) s =
    (.error .released, s)
  release : (s.mapStreams fun streams => streams.releaseReadable id) = s
  getReader : exec (onStreams (Registry.getReader id)) s = (.error .released, s)
  releaseReader : ∀ token, exec (onStreams (Registry.releaseReader id token)) s =
    (.error .released, s)
  withReader : ∀ {α : Type} (work : ReaderToken → Attempt H E StreamError α),
    attempt (Session.withReader id work) s = some (.error .released, s)
  read : ∀ fuel token, attempt (Session.read fuel id token) s = some (.error .released, s)
  cancel : ∀ reason token, exec (Session.cancel id reason token) s = (.error .released, s)
  pipeTo : ∀ fuel destination options,
    attempt (Session.pipeTo fuel id destination options) s = some (.error .released, s)
  pipeThrough : ∀ fuel stream options,
    attempt (Session.pipeThrough fuel id stream options) s = some (.error .released, s)
  abortCorrelated : ∀ reason, exec (Session.abortCorrelated id reason) s = (.error .released, s)
  /-- Making a body over it uses up the number of an owner. -/
  ofStream : exec (Body.ofStream id) s =
    (.error (.stream .released), { s with nextOwner := s.nextOwner + 1 })
  /-- A body over it. -/
  drain : ∀ {body : Body}, body.readable = some id → ∀ fuel target,
    drive (body.drain fuel target) s = some ((.error
      (if body.used || body.released then .alreadyUsed else .stream .released), body), s)

/-- Nothing is known of a writable stream. Every operation on it says so, and changes nothing,
except that a pipe may say that its source is locked, and use up the number of a token. -/
structure ForgetsWritable (s : Session H E) (id : WritableId) : Prop where
  contained : s.streams.containsWritable id = false
  kind : s.streams.sinkKind? id = none
  handle : s.streams.sinkBodyHandle? id = none
  isLocked : s.streams.isWritableLocked id = false
  state : s.streams.writableState? id = none
  desiredSize : s.streams.desiredSize? id = none
  owner : s.streams.writableOwner? id = none
  setOwner : ∀ owner, exec (onStreams (Registry.setWritableOwner id owner)) s =
    (.error .released, s)
  release : (s.mapStreams fun streams => streams.releaseWritable id) = s
  getWriter : exec (onStreams (Registry.getWriter id)) s = (.error .released, s)
  releaseWriter : ∀ token, exec (onStreams (Registry.releaseWriter id token)) s =
    (.error .released, s)
  write : ∀ chunk token, exec (Session.write id chunk token) s = (.error .released, s)
  close : ∀ token, exec (Session.close id token) s = (.error .released, s)
  abort : ∀ reason token, exec (Session.abort id reason token) s = (.error .released, s)
  pipeTo : ∀ fuel source options, ∃ number, s.streams.nextToken ≤ number ∧
    attempt (Session.pipeTo fuel source id options) s =
      some (.error (if s.streams.isLocked source then .locked else .released),
        { s with streams := { s.streams with nextToken := number } })
  pipeThrough : ∀ fuel source (stream : TransformStream) options, stream.writable = id →
    ∃ number, s.streams.nextToken ≤ number ∧
      attempt (Session.pipeThrough fuel source stream options) s =
        some (.error (if s.streams.isLocked source then .locked else .released),
          { s with streams := { s.streams with nextToken := number } })

variable {s : Session H E}

omit [Host H] in
theorem mapStreams_of_eq {f : Registry E → Registry E} (h : f s.streams = s.streams) :
    s.mapStreams f = s := by
  rw [mapStreams, h]

/-- A stream that is gone is found by no operation. -/
theorem forgetsReadable {id : ReadableId} (h : s.streams.source? id = none)
    (ho : s.streams.InOrder) : s.ForgetsReadable id := by
  have hget : exec (Registry.getReader id) s.streams = (.error .released, s.streams) := by
    simp [Registry.getReader, exec_bind, h]
  have hcheck : ∀ token, exec (Registry.checkReader id token) s.streams =
      (.error .released, s.streams) := fun token => by simp [h, Except.bind]
  have hown : ∀ owner, exec (Registry.setReadableOwner id owner) s.streams =
      (.error .released, s.streams) := fun owner => by
    simp [Registry.setReadableOwner, exec_bind, h]
  have hpipe : ∀ fuel destination options,
      attempt (pipeTo fuel id destination options) s = some (.error .released, s) := by
    intro fuel destination options
    have hopen : exec (Registry.openPipe id destination options) s.streams =
        (.error .released, s.streams) := by
      simp only [Registry.openPipe, exec_bind, hget]
    rw [attempt_pipeTo, hopen]
  -- a running pipe keeps its source in the registry, so none leads out of here
  have hnone : s.streams.pipeFrom? id = none := by
    refine List.find?_eq_none.mpr fun entry hmem he => ?_
    obtain ⟨hp, hr⟩ := s.streams.mem_runningPipes.mp hmem
    obtain ⟨source, -, hs, -⟩ := ho.running _ _ hp (Registry.isRunning_iff.mp hr)
    rw [eq_of_beq he, h] at hs
    cases hs
  have hpiped := ho.pipedTo?_eq_none hnone
  refine ⟨?_, ?_, ?_, ?_, ?_, ?_, ?_, ?_, ?_, hpiped, fun owner => ?_, mapStreams_of_eq ?_, ?_,
    fun token => ?_, fun work => ?_, fun fuel token => ?_, fun reason token => ?_, hpipe,
    fun fuel stream options => ?_, fun reason => ?_, ?_, fun {body} hbody fuel target => ?_⟩
  · simp [Registry.containsReadable, h]
  · simp [Registry.sourceKind?, h]
  · simp [Registry.hasNativeSource, Registry.sourceKind?, h]
  · simp [Registry.isBody, Registry.sourceKind?, h]
  · simp [Registry.bodyHandle?, h]
  · simp [Registry.isLocked, h]
  · simp [Registry.isDisturbed, h]
  · simp [Registry.readableState?, h]
  · simp [Registry.readableOwner?, h]
  · rw [exec_onStreams, hown]
  · simp [Registry.releaseReadable, Registry.modifySource, h]
  · rw [exec_onStreams, hget]
  · rw [exec_onStreams]
    simp only [Registry.releaseReader, exec_bind, hcheck]
  · rw [attempt_withReader, hget]
  · simp only [read, attempt_bind, attempt_finite, exec_onStreams, hcheck, Option.bind_some]
  · simp only [cancel, exec_bind, exec_onStreams, hcheck]
  · rw [attempt_pipeThrough, hpipe]
    rfl
  · simp [abortCorrelated, exec_bind, hnone, hpiped, Registry.isLocked, cancelUnchecked, h]
  · have hmade : (Body.make none (some id) : Step H E Body) s =
        ({ owner := ⟨s.nextOwner⟩, handle := none, readable := some id },
          { s with nextOwner := s.nextOwner + 1 }) := rfl
    simp only [Body.ofStream, exec_bind, exec_modifyGet, exec_adapt, exec_onStreams]
    rw [hmade]
    simp only [hown]
    rfl
  · by_cases hused : body.used = true
    · rw [hused, Bool.true_or, if_pos rfl]
      exact Body.drive_drain_of_undrainable (.used hused) fuel target
    · have hunused := Bool.eq_false_iff.mpr hused
      rw [hunused, Bool.false_or]
      by_cases hreleased : body.released = true
      · rw [if_pos hreleased]
        refine Body.drive_drain_of_undrainable (.released hunused hreleased fun other hother => ?_)
          _ _
        obtain rfl := Option.some.inj (hbody.symm.trans hother)
        simp [Registry.isLocked, h]
      · rw [if_neg hreleased]
        refine Body.drive_drain_of_undrainable
          (.gone hunused (Bool.eq_false_iff.mpr hreleased) hbody ?_)
          _ _
        simp [Registry.containsReadable, h]

/-- A stream that is gone is found by no operation. -/
theorem forgetsWritable {id : WritableId} (h : s.streams.sink? id = none) :
    s.ForgetsWritable id := by
  have hcheck : ∀ token, exec (Registry.checkWriter id token) s.streams =
      (.error .released, s.streams) := fun token => by simp [h, Except.bind]
  have hpipe : ∀ fuel source options, ∃ number, s.streams.nextToken ≤ number ∧
      attempt (pipeTo fuel source id options) s =
        some (.error (if s.streams.isLocked source then .locked else .released),
          { s with streams := { s.streams with nextToken := number } }) := by
    intro fuel source options
    obtain ⟨number, hle, hopen⟩ := Registry.exec_openPipe_of_gone h source options
    refine ⟨number, hle, ?_⟩
    rw [attempt_pipeTo, hopen]
  refine ⟨?_, ?_, ?_, ?_, ?_, ?_, ?_, fun owner => ?_, mapStreams_of_eq ?_, ?_, fun token => ?_,
    fun chunk token => ?_, fun token => ?_, fun reason token => ?_, hpipe,
    fun fuel source stream options he => ?_⟩
  · simp [Registry.containsWritable, h]
  · simp [Registry.sinkKind?, h]
  · simp [Registry.sinkBodyHandle?, h]
  · simp [Registry.isWritableLocked, h]
  · simp [Registry.writableState?, h]
  · simp [Registry.desiredSize?, h]
  · simp [Registry.writableOwner?, h]
  · simp [Registry.setWritableOwner, exec_bind, h]
  · simp [Registry.releaseWritable, Registry.modifySink, h]
  · simp [Registry.getWriter, exec_bind, h]
  · rw [exec_onStreams]
    simp only [Registry.releaseWriter, exec_bind, hcheck]
  · simp only [write, exec_bind, exec_onStreams, hcheck]
  · simp only [close, exec_bind, exec_onStreams, hcheck]
  · simp only [abort, exec_bind, exec_onStreams, hcheck]
  · obtain ⟨number, hle, hpiped⟩ := hpipe fuel source options
    refine ⟨number, hle, ?_⟩
    rw [attempt_pipeThrough, he, hpiped]
    rfl

end Session

namespace Registry

/-- Nothing is known of a pipe. -/
structure ForgetsPipe (streams : Registry E) (id : PipeId) : Prop where
  state : streams.pipeState? id = none

/-- Nothing is known of a bridge. -/
structure ForgetsBridge (streams : Registry E) (id : BridgeId) : Prop where
  state : streams.bridgeState? id = none
  backpressure : streams.backpressure id = false

variable {streams later : Registry E}

theorem forgetsPipe {id : PipeId} (h : streams.pipe? id = none) : streams.ForgetsPipe id :=
  ⟨by simp [pipeState?, h]⟩

theorem forgetsBridge {id : BridgeId} (h : streams.bridge? id = none) : streams.ForgetsBridge id :=
  ⟨by simp [bridgeState?, h], by simp [backpressure, h]⟩

/-! ### What entries refer to -/

/-- What an entry refers to, if it is found later on, is what was found before. -/
structure Refers (streams later : Registry E) : Prop where
  /-- A stream is piped to the destination of a running pipe. -/
  pipedTo : ∀ {id source destination}, streams.source? id = some source →
    source.pipedTo = some destination →
      (∃ name pipe, streams.pipe? name = some pipe ∧ pipe.state = .running ∧ pipe.source = id ∧
        pipe.destination = destination) ∧
      ∃ sink, streams.sink? destination = some sink ∧
        ∀ sink', later.sink? destination = some sink' → sink'.backing = sink.backing
  /-- A half refers to its bridge, which refers to the half. -/
  readableHalf : ∀ {id source name}, streams.source? id = some source →
    source.backing = .transform name →
      ∃ bridge, streams.bridge? name = some bridge ∧ bridge.readable = id ∧
        ∀ bridge', later.bridge? name = some bridge' → bridge'.made = bridge.made
  writableHalf : ∀ {id sink name}, streams.sink? id = some sink → sink.backing = .transform name →
    ∃ bridge, streams.bridge? name = some bridge ∧ bridge.writable = id ∧
      ∀ bridge', later.bridge? name = some bridge' → bridge'.made = bridge.made
  /-- A bridge refers to its halves, which refer to the bridge. -/
  readable : ∀ {name bridge source'}, streams.bridge? name = some bridge →
    later.source? bridge.readable = some source' →
      source'.backing = .transform name ∧
        ∃ source, streams.source? bridge.readable = some source
  writable : ∀ {name bridge sink'}, streams.bridge? name = some bridge →
    later.sink? bridge.writable = some sink' →
      sink'.backing = .transform name ∧ ∃ sink, streams.sink? bridge.writable = some sink
  /-- A pipe refers to its ends, also once it has come to an end. -/
  source : ∀ {name pipe source'}, streams.pipe? name = some pipe →
    later.source? pipe.source = some source' →
      ∃ source, streams.source? pipe.source = some source ∧ source'.backing = source.backing
  destination : ∀ {name pipe sink'}, streams.pipe? name = some pipe →
    later.sink? pipe.destination = some sink' →
      ∃ sink, streams.sink? pipe.destination = some sink ∧ sink'.backing = sink.backing

theorem References.refers (hr : streams.References) (ho : streams.InOrder) (hc : streams.Composed)
    (hl : streams.Lasts later) : streams.Refers later where
  pipedTo {id source destination} hs hpiped := by
    obtain ⟨name, pipe, hp, hrun, hsource, rfl⟩ := ho.piped id source destination hs hpiped
    obtain ⟨-, sink, -, hk, -⟩ := ho.running name pipe hp hrun
    refine ⟨⟨name, pipe, hp, hrun, hsource, rfl⟩, sink, hk, fun sink' hk' => ?_⟩
    obtain ⟨old, hold, hback⟩ := hl.sinks.back (SlotMap.issued_of_get? hk) hk'
    cases hk.symm.trans hold
    exact hback
  readableHalf hs hback := by
    obtain ⟨bridge, hb, he⟩ := hc.readable hs hback
    refine ⟨bridge, hb, he, fun bridge' hb' => ?_⟩
    obtain ⟨old, hold, hmade⟩ := hl.bridges.back (SlotMap.issued_of_get? hb) hb'
    cases hb.symm.trans hold
    exact hmade
  writableHalf hk hback := by
    obtain ⟨bridge, hb, he⟩ := hc.writable hk hback
    refine ⟨bridge, hb, he, fun bridge' hb' => ?_⟩
    obtain ⟨old, hold, hmade⟩ := hl.bridges.back (SlotMap.issued_of_get? hb) hb'
    cases hb.symm.trans hold
    exact hmade
  readable hb hs' := by
    obtain ⟨source, hs, hback⟩ := hl.sources.back (hr.bridge hb).1 hs'
    exact ⟨hback.trans (hr.readable hb hs), source, hs⟩
  writable hb hk' := by
    obtain ⟨sink, hk, hback⟩ := hl.sinks.back (hr.bridge hb).2 hk'
    exact ⟨hback.trans (hr.writable hb hk), sink, hk⟩
  source hp hs' := hl.sources.back (hr.pipe hp).1 hs'
  destination hp hk' := hl.sinks.back (hr.pipe hp).2 hk'

end Registry

/-! ### Whatever clients do -/

namespace Client

variable [Host H] {uses : H → List UInt32 → H → Prop} {before gone later : Client H E}

/-- What was there before and is gone has been forgotten later. -/
structure ForgetsGone (before gone later : Client H E) : Prop where
  readable : ∀ {id source}, before.session.streams.source? id = some source →
    gone.session.streams.source? id = none → later.session.ForgetsReadable id
  writable : ∀ {id sink}, before.session.streams.sink? id = some sink →
    gone.session.streams.sink? id = none → later.session.ForgetsWritable id
  pipe : ∀ {id pipe}, before.session.streams.pipe? id = some pipe →
    gone.session.streams.pipe? id = none → later.session.streams.ForgetsPipe id
  bridge : ∀ {id bridge}, before.session.streams.bridge? id = some bridge →
    gone.session.streams.bridge? id = none → later.session.streams.ForgetsBridge id
  /-- Also while an operation is under way, what entries have referred to is found, or nothing. -/
  refers : ∀ {session}, later.session.MovesTo session →
    before.session.streams.Refers session.streams

/-- In every run over any host and with any guests in which no generation runs over, what has been
taken out is gone for ever, and no reference of an entry ever finds a stranger. -/
theorem forgets_of_calls {host : H} {env : E} {config : StreamConfig}
    (h : Calls uses NoneBack (new host env config) before) (h' : Calls uses NoneBack before gone)
    (h'' : Calls uses NoneBack gone later) : ForgetsGone before gone later := by
  have hnew := sound_new host env config
  have hbefore := h.sound hnew
  have hgone := h'.sound hbefore
  have hlasts := h'.lasts hbefore
  have hlater := h''.lasts hgone
  have horder := (h''.sound hgone).orderly.inOrder
  have hrefers := h.references hnew (.new config)
  have hcomposed := (h.leads.resting (Session.resting_new host env config)).composed
  refine ⟨fun hs hnone => ?_, fun hk hnone => ?_, fun hp hnone => ?_, fun hb hnone => ?_,
    fun hm => ?_⟩
  · exact Session.forgetsReadable
      (hlater.sources.get?_eq_none (hlasts.sources.issued (SlotMap.issued_of_get? hs)) hnone) horder
  · exact Session.forgetsWritable
      (hlater.sinks.get?_eq_none (hlasts.sinks.issued (SlotMap.issued_of_get? hk)) hnone)
  · exact Registry.forgetsPipe
      (hlater.pipes.get?_eq_none (hlasts.pipes.issued (SlotMap.issued_of_get? hp)) hnone)
  · exact Registry.forgetsBridge
      (hlater.bridges.get?_eq_none (hlasts.bridges.issued (SlotMap.issued_of_get? hb)) hnone)
  · have wf := (h''.sound hgone).orderly.wellFormed
    exact hrefers.refers hbefore.orderly.inOrder hcomposed
      (hlasts.trans (hlater.trans (hm.growsTo.lasts wf)))

/-- A stream has been released and swept, and its slot is used for another one. -/
theorem forgets_of_calls_reused :
    ∃ before gone later : Client MemoryHost Unit,
      Calls (fun _ _ _ => True) NoneBack (new {} () {}) before ∧
      Calls (fun _ _ _ => True) NoneBack before gone ∧
      Calls (fun _ _ _ => True) NoneBack gone later ∧
      before.session.streams.containsReadable ⟨0, 0⟩ = true ∧
      later.session.streams.containsReadable ⟨0, 1⟩ = true ∧
      later.session.ForgetsReadable ⟨0, 0⟩ := by
  let empty : Client MemoryHost Unit := new {} () {}
  let made := empty.withSession
    (empty.session.mapStreams fun streams => (streams.bodySource ⟨1⟩).2)
  let released := made.withSession
    (made.session.mapStreams fun streams => streams.releaseReadable ⟨0, 0⟩)
  let swept := released.withSession (released.session.mapStreams fun streams => streams.sweep.2)
  let reused := swept.withSession
    (swept.session.mapStreams fun streams => (streams.bodySource ⟨2⟩).2)
  have hmade : Calls (fun _ _ _ => True) NoneBack empty made :=
    .call .refl (.step (.operate (.bodySource ⟨1⟩) 0 rfl)) (by decide)
  have hgone : Calls (fun _ _ _ => True) NoneBack made swept :=
    .call (.call .refl (.step (.operate (.releaseReadable ⟨0, 0⟩) 0 rfl)) (by decide))
      (.step (.operate .sweep 0 rfl)) (by decide)
  have hreused : Calls (fun _ _ _ => True) NoneBack swept reused :=
    .call .refl (.step (.operate (.bodySource ⟨2⟩) 0 rfl)) (by decide)
  have hlive : made.session.streams.containsReadable ⟨0, 0⟩ = true := by decide +kernel
  have hdead : (swept.session.streams.source? ⟨0, 0⟩).isNone = true := by decide +kernel
  obtain ⟨source, hs⟩ := Option.isSome_iff_exists.mp hlive
  exact ⟨made, swept, reused, hmade, hgone, hreused, hlive, by decide +kernel,
    (forgets_of_calls hmade hgone hreused).readable hs (Option.isNone_iff_eq_none.mp hdead)⟩

/-- A pipe into a stream that is gone says that its source is locked if it is, and piping into a
transform stream whose readable half is gone hands out the name of that half. -/
theorem gone_not_always_released :
    (¬ ∀ (before gone later : Client MemoryHost Unit) (id : WritableId),
      Calls (fun _ _ _ => True) NoneBack (new {} () {}) before →
      Calls (fun _ _ _ => True) NoneBack before gone →
      Calls (fun _ _ _ => True) NoneBack gone later →
      before.session.streams.containsWritable id = true →
      gone.session.streams.containsWritable id = false →
      ∀ fuel source options r,
        attempt (Session.pipeTo fuel source id options) later.session = some r →
          r.1 = .error .released) ∧
    ¬ ∀ (before gone later : Client MemoryHost Unit) (stream : TransformStream),
      Calls (fun _ _ _ => True) NoneBack (new {} () {}) before →
      Calls (fun _ _ _ => True) NoneBack before gone →
      Calls (fun _ _ _ => True) NoneBack gone later →
      before.session.streams.containsReadable stream.readable = true →
      gone.session.streams.containsReadable stream.readable = false →
      ∀ fuel source options r,
        attempt (Session.pipeThrough fuel source stream options) later.session = some r →
          r.1 = .error .released := by
  let empty : Client MemoryHost Unit := new {} () {}
  constructor
  -- the source has a reader when the destination goes: `pipeTo` meets its lock first
  · intro h
    let sourced := empty.withSession
      (empty.session.mapStreams fun streams => (streams.bodySource ⟨1⟩).2)
    let made := sourced.withSession
      (sourced.session.mapStreams fun streams => (streams.bodySink ⟨2⟩).2)
    let locked : Client MemoryHost Unit := { made with
      session := { made.session with
        streams := (exec (Registry.getReader ⟨0, 0⟩) made.session.streams).2 }
      readers := [⟨1⟩] }
    let released := locked.withSession
      (locked.session.mapStreams fun streams => streams.releaseWritable ⟨0, 0⟩)
    let swept := released.withSession (released.session.mapStreams fun streams => streams.sweep.2)
    have hmade : Calls (fun _ _ _ => True) NoneBack empty made :=
      .call (.call .refl (.step (.operate (.bodySource ⟨1⟩) 0 rfl)) (by decide +kernel))
        (.step (.operate (.bodySink ⟨2⟩) 0 rfl)) (by decide +kernel)
    have hlocked : Calls (fun _ _ _ => True) NoneBack made locked :=
      .call .refl (.step (.getReader ⟨0, 0⟩ rfl)) (by decide +kernel)
    have hgone : Calls (fun _ _ _ => True) NoneBack made swept :=
      .call (.call hlocked (.step (.operate (.releaseWritable ⟨0, 0⟩) 0 rfl)) (by decide +kernel))
        (.step (.operate .sweep 0 rfl)) (by decide +kernel)
    have hlive : swept.session.streams.isLocked ⟨0, 0⟩ = true := by decide +kernel
    have hdead : (swept.session.streams.sink? ⟨0, 0⟩).isNone = true := by decide +kernel
    have hforgets := Session.forgetsWritable (Option.isNone_iff_eq_none.mp hdead)
    obtain ⟨number, -, hpiped⟩ := hforgets.pipeTo 1 ⟨0, 0⟩ {}
    rw [if_pos hlive] at hpiped
    cases h made swept swept ⟨0, 0⟩ hmade hgone .refl rfl hforgets.contained 1 ⟨0, 0⟩ {} _ hpiped
  -- only the writable half of the transform stream is looked at
  · intro h
    let stream : TransformStream := ⟨⟨0, 0⟩, ⟨0, 0⟩, ⟨0, 0⟩⟩
    let made := empty.withSession
      ((Session.createTransform .identity : EdgeStreams.Step MemoryHost Unit TransformStream)
        empty.session).2
    let released := made.withSession
      (made.session.mapStreams fun streams => streams.releaseReadable ⟨0, 0⟩)
    let swept := released.withSession (released.session.mapStreams fun streams => streams.sweep.2)
    let sourced := swept.withSession
      (swept.session.mapStreams fun streams => (streams.bodySource ⟨1⟩).2)
    have hmade : Calls (fun _ _ _ => True) NoneBack empty made :=
      .call .refl (.step (.operate (.createTransform .identity) 0 rfl)) (by decide +kernel)
    have hgone : Calls (fun _ _ _ => True) NoneBack made swept :=
      .call (.call .refl (.step (.operate (.releaseReadable ⟨0, 0⟩) 0 rfl)) (by decide +kernel))
        (.step (.operate .sweep 0 rfl)) (by decide +kernel)
    have hsourced : Calls (fun _ _ _ => True) NoneBack swept sourced :=
      .call .refl (.step (.operate (.bodySource ⟨1⟩) 0 rfl)) (by decide +kernel)
    have hpiped : ((attempt (Session.pipeThrough 8 ⟨0, 1⟩ stream {}) sourced.session).map
        fun r => r.1.toOption) = some (some ⟨0, 0⟩) := by decide +kernel
    obtain ⟨r, hr, hok⟩ := Option.map_eq_some_iff.mp hpiped
    have hreleased := h made swept sourced stream hmade hgone hsourced (by decide +kernel)
      (by decide +kernel) 8 ⟨0, 1⟩ {} r hr
    rw [hreleased] at hok
    cases hok

end Client

end EdgeStreams
