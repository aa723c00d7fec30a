import EdgeStreams.Proofs.Body.Steps
import EdgeStreams.Proofs.Response.Opening
import EdgeStreams.Proofs.Response.Origin
import EdgeStreams.Proofs.Session.Creating
import EdgeStreams.Proofs.Session.Flow
import EdgeStreams.Worker.Basic

/-!
# A body piped through a transform stream

Before a body is sent, its stream is piped through a new transform stream. What the body has to give
is then had from the readable half. What a worker does with a response that nothing goes wrong with
is given as one step after another.

## Main definitions

- `Body.GivesOctets`: the octets that a body has to give
- `Footprint.Lives`: all that may change is there
- `Well.Alone`: no pipe runs but those behind a well
- `Relay.Carries`: a response has been piped through a transform stream

## Main statements

- `Body.drive_pipeThroughIdentity`, `Worker.drive_send`: a body is piped through a transform stream,
  and sent
- `Body.exec_stream_handle`, `Body.GivesOctets.stream`: the stream of a body has what the body has
- `Relay.pipeThrough`, `Body.drive_pipeThroughIdentity_of_offersOctets`: what a stream has to give
  comes out of the readable half that it is piped into
- `Body.GivesOctets.pipeThroughIdentity`: so does what a body has to give
-/

namespace EdgeStreams

variable {E : Type}

/-! ### The steps of sending a response -/

section Steps

variable {H : Type} [Host H] {fuel : Nat} {s : Session H E}

/-- The body is piped through a new transform stream, if no step fails. -/
theorem Body.drive_pipeThroughIdentity {body streamed : Body} {source readable : ReadableId}
    {transform : TransformStream} {opened made piped owned : Session H E}
    (hstream : exec (body.stream : Action H E BodyError _) s = (.ok (source, streamed), opened))
    (hmake : (Session.createIdentity : Step H E TransformStream) opened = (transform, made))
    (hpipe : attempt (Session.pipeThrough fuel source transform) made = some (.ok readable, piped))
    (howner : exec (Session.onStreams (Registry.setReadableOwner readable streamed.owner)) piped =
      (.ok (), owned)) :
    drive (body.pipeThroughIdentity fuel) s =
      some ((.ok readable, { streamed with readable := some readable }),
        Session.mapStreams (fun streams =>
          (streams.releaseReadable source).releaseWritable transform.writable) owned) := by
  simp only [pipeThroughIdentity, drive_bind, drive_modifyGet, Session.outcome_apply, hstream,
    hmake, hpipe, howner, Option.bind_some, drive_run, drive_modify, drive_pure]

namespace Worker

/-- The response is piped into a sink, if no step fails and the pipe comes to its end. -/
theorem drive_pipeResponse {response streamed : Body} {sink : WritableId} {readable : ReadableId}
    {pipe : PipeId} {steps : Nat} {through piped pumped : Session H E}
    (hthrough : drive (response.pipeThroughIdentity fuel) s =
      some ((.ok readable, streamed), through))
    (hpipe : attempt (Session.pipeTo fuel readable sink) through = some (.ok pipe, piped))
    (hpump : drive (Session.pump fuel) piped = some (steps, pumped))
    (hdone : pumped.streams.pipeState? pipe = some .done) :
    drive (pipeResponse fuel response sink) s = some ((.ok (), streamed), pumped) := by
  have hfinish : exec (finish pipe readable) pumped = (.ok (), pumped) := by
    simp [finish, exec_bind, hdone]
  simp only [pipeResponse, drive_bind, hthrough, Option.bind_some, drive_run, hpipe, hpump,
    drive_modifyGet, Session.outcome_apply, hfinish, drive_pure]

/-- The response is sent, if no step fails. -/
theorem drive_send {response streamed : Body} {destination : BodyHandle}
    {called piped : Session H E} (hused : response.used = false)
    (hnew : exec (Session.onHost Host.bodyNew) s = (.ok destination, called))
    (hpipe : drive (pipeResponse fuel response (called.streams.bodySink destination).1)
      (called.mapStreams fun streams => (streams.bodySink destination).2) =
        some ((.ok (), streamed), piped)) :
    drive (send fuel response) s =
      some ((.ok destination, streamed),
        piped.mapStreams fun streams =>
          streams.releaseWritable (called.streams.bodySink destination).1) := by
  have hsink : drive (modifyGet (Session.changeStreams fun streams =>
    streams.bodySink destination) : Run H E WritableId) called =
        some ((called.streams.bodySink destination).1,
          called.mapStreams fun streams => (streams.bodySink destination).2) := rfl
  simp only [send, hused, Bool.false_eq_true, if_false, drive_bind, drive_modifyGet,
    Session.outcome_apply, hnew, Option.bind_some, hsink, hpipe, drive_modify, drive_pure,
    Except.map]

end Worker

end Steps

/-! ### What a body has to give -/

/-- What a stream has to give does not depend on its owner. -/
theorem Well.OffersOctets.own {well : Well E} {lock : Option ReaderToken} {octets : Bytes}
    {s : Session MemoryHost E} {source : Source E} (h : well.OffersOctets lock octets s)
    (hs : s.streams.source? well.id = some source) (owner : OwnerKey) :
    well.OffersOctets lock octets
    (Session.setSource well.id { source with owner := some owner } s) := by
  obtain ⟨found, hfound, hserves, hstocks⟩ := h
  obtain rfl : source = found := Option.some_inj.mp (hs.symm.trans hfound)
  exact offersOctets_setSource hs ⟨hserves.backing, hserves.mark, hserves.started,
    hserves.uncanceled, hserves.resting, hserves.unasked, hserves.lock⟩ hstocks

/-- The octets that a body gives to whoever consumes it next. Nothing but some host bodies lies
behind it. -/
def Body.GivesOctets (body : Body) (bodies : Set BodyHandle) (octets : Bytes)
    (s : Session MemoryHost E) : Prop :=
  match body.readable with
  | some id =>
    ∃ well : Well E, well.id = id ∧ well.reach = { bodies } ∧ well.OffersOctets none octets s
  | none => ∃ handle, body.handle = some handle ∧ bodies = {handle} ∧
      s.host.HasUnread handle octets ∧ s.host.InReach handle s.streams.config.bodyChunkSize

namespace Body

variable {body : Body} {bodies : Set BodyHandle} {octets : Bytes} {s : Session MemoryHost E}

/-- What happens elsewhere is nothing to the body. -/
theorem GivesOctets.of_frame {f : Footprint} {s' : Session MemoryHost E}
    (h : body.GivesOctets bodies octets s) (hf : Frame f s s') (hreadables : f.readables = ∅)
    (hbodies : ∀ handle ∈ f.bodies, handle ∉ bodies) (he : s'.env = s.env)
    (hconfig : s'.streams.config = s.streams.config) :
    body.GivesOctets bodies octets s' := by
  obtain ⟨owner, handle, readable, released, used⟩ := body
  cases readable with
  | some id =>
    obtain ⟨well, rfl, hreach, hoffers⟩ := h
    refine ⟨well, rfl, hreach, hoffers.of_frame hf ?_ he⟩
    rw [Well.extent, hreach]
    refine ⟨fun id hm => ?_, fun _ _ => ?_, fun _ _ => ?_, fun _ _ => ?_, fun handle hm => ?_⟩
    · rw [hreadables] at hm
      exact hm.elim
    · rintro (h | h) <;> exact h
    · rintro (h | h) <;> exact h
    · rintro (h | h) <;> exact h
    · rintro (h | h)
      · exact h
      · exact hbodies handle hm h
  | none =>
    obtain ⟨handle, rfl, rfl, ⟨found, hfound, hrest⟩, hreach⟩ := h
    have hkept := hf.body handle fun hm => hbodies handle hm rfl
    exact ⟨handle, rfl, rfl, ⟨found, hkept.trans hfound, hrest⟩,
      hconfig ▸ hreach.congr hkept hf.chunkSize⟩

/-- Nobody needs to own a stream for it to be read. -/
theorem GivesOctets.releaseReadable (h : body.GivesOctets bodies octets s) (id : ReadableId) :
    body.GivesOctets bodies octets (s.mapStreams fun streams => streams.releaseReadable id) := by
  obtain ⟨owner, handle, readable, released, used⟩ := body
  cases readable with
  | none =>
    obtain ⟨handle, hhandle, hbodies, hunread, hreach⟩ := h
    refine ⟨handle, hhandle, hbodies, hunread, ?_⟩
    rw [Session.streams_mapStreams, Registry.releaseReadable, Registry.config_modifySource]
    exact hreach
  | some readable =>
    obtain ⟨well, rfl, hreach, hoffers⟩ := h
    refine ⟨well, rfl, hreach, ?_⟩
    by_cases hid : id = well.id
    · subst hid
      refine hoffers.relock (.modifySource s well.id _) (hreach ▸ ?_) rfl fun source hs hlock =>
        ⟨{ source with released := true, owner := none }, ?_, rfl, rfl, rfl, rfl, rfl, rfl, hlock⟩
      · exact ⟨fun _ _ h => h, fun _ h => h.elim, fun _ h => h.elim, fun _ h => h.elim,
          fun _ h => h.elim⟩
      · simp [Registry.releaseReadable, Registry.source?_modifySource, hs]
    · refine hoffers.of_frame (.modifySource s id _) ?_ rfl
      rw [Well.extent, hreach]
      refine ⟨?_, fun _ h => h.elim, fun _ h => h.elim, fun _ h => h.elim, fun _ h => h.elim⟩
      rintro _ rfl (h | h)
      · exact hid h
      · exact h

/-- A stream over the host body is made for a body that has none yet. Nobody has read it. -/
theorem exec_stream_handle {handle : BodyHandle} (hreadable : body.readable = none)
    (hhandle : body.handle = some handle) (hreleased : body.released = false)
    (hunread : s.host.HasUnread handle octets)
    (hreach : s.host.InReach handle s.streams.config.bodyChunkSize) (wf : s.streams.WellFormed)
    (hsize : 0 < s.streams.config.bodyChunkSize) :
    ∃ (id : ReadableId) (source : Source E) (opened : Session MemoryHost E),
      exec (body.stream : Action MemoryHost E BodyError _) s =
          (.ok (id, { body with readable := some id }), opened) ∧
        (Well.overBody id handle s.streams.config.bodyChunkSize s.streams.config.bodyHighWaterMark
          hsize).OffersOctets none octets opened ∧
          Confined { readables := {id} } 0 s opened ∧ opened.streams.WellFormed ∧
            opened.env = s.env ∧ opened.streams.source? id = some source ∧
              source.disturbed = false ∧ source.released = false := by
  have hsource := source?_opened wf body handle
  have hmade := (hsource _).trans (if_pos rfl)
  have hopened : Frame { readables := {(s.streams.bodySource handle).1} } s
      (body.opened handle s) :=
    ⟨fun other ho => (hsource other).trans (if_neg ho), fun _ _ => rfl, fun _ _ => rfl,
      fun _ _ _ => Iff.rfl, fun _ _ => rfl, rfl, fun h => h, fun _ _ h => h, fun h => h⟩
  exact ⟨_, body.sourceOver handle s.streams, body.opened handle s,
    exec_stream_new wf hreleased hreadable hhandle,
    ⟨_, hmade, ⟨rfl, rfl, rfl, rfl, rfl, rfl, rfl⟩, .empty _,
      .inl ⟨⟨rfl, rfl⟩, octets, rfl, hunread, hreach⟩⟩,
    .of_frame hopened rfl, (Registry.WellFormed.addSource wf _).setSource _ _, rfl, hmade, rfl, rfl⟩

/-- The stream of a body, made if there is none yet. -/
theorem GivesOctets.stream (h : body.GivesOctets bodies octets s)
    (hreleased : body.released = false) (wf : s.streams.WellFormed)
    (hsize : 0 < s.streams.config.bodyChunkSize) :
    ∃ (well : Well E) (streamed : Body) (opened : Session MemoryHost E),
      exec (body.stream : Action MemoryHost E BodyError _) s = (.ok (well.id, streamed), opened) ∧
        well.reach = { bodies } ∧ well.OffersOctets none octets opened ∧
          Confined { readables := {well.id} } 0 s opened ∧ opened.streams.WellFormed ∧
            opened.env = s.env := by
  obtain ⟨owner, handle, readable, released, used⟩ := body
  obtain rfl : released = false := hreleased
  cases readable with
  | some id =>
    obtain ⟨well, rfl, hreach, hoffers⟩ := h
    obtain ⟨source, hs, -⟩ := id hoffers
    refine ⟨well, ⟨owner, handle, some well.id, false, used⟩, s, ?_, hreach, hoffers, .refl _ _, wf,
      rfl⟩
    simp [Body.stream, exec_bind, Registry.containsReadable, hs]
  | none =>
    obtain ⟨handle, rfl, rfl, hunread, hreach⟩ := h
    obtain ⟨id, source, opened, hstream, hoffers, hconfined, wf', henv, -⟩ :=
      exec_stream_handle (show Body.readable ⟨owner, some handle, none, false,
        used⟩ = none from rfl) rfl rfl hunread hreach wf hsize
    exact ⟨_, _, opened, hstream, rfl, hoffers, hconfined, wf', henv⟩

end Body

/-- Making a transform stream adds its parts and changes nothing else. -/
theorem Session.Gains.frame {stage : TransformStream} {s s' : Session MemoryHost E}
    (h : Session.Gains stage s s') :
    Frame
      { readables := {stage.readable}, writables := {stage.writable}, bridges := {stage.bridge} }
      s s' where
  source id hid := (h.source id).trans (if_neg hid)
  sink id hid := (h.sink id).trans (if_neg hid)
  bridge id hid := (h.bridge id).trans (if_neg hid)
  pipe id pipe _ := by rw [Registry.pipe?_congr h.pipes]
  body handle _ := by rw [h.host]
  chunkSize := by rw [h.host]
  faultless hf := by rw [h.host]; exact hf
  overrun _ _ ho := h.host ▸ ho
  wellFormed _ := h.wellFormed.pipes

/-- A response of these octets has been piped through a new transform stream. -/
structure Relay.Carries (relay : Relay E) (bodies : Set BodyHandle) (octets : Bytes)
    (s s' : Session MemoryHost E) : Prop where
  reach : relay.well.reach = { bodies }
  new : s.streams.sink? relay.stage.writable = none
  offersOctets : relay.asWell.OffersOctets none octets s'
  confined : Confined relay.asWell.extent 0 s s'

/-! ### Streams that are there -/

/-- All that may change is there. -/
structure Footprint.Lives (f : Footprint) (streams : Registry E) : Prop where
  readables : ∀ id ∈ f.readables, streams.source? id ≠ none
  writables : ∀ id ∈ f.writables, streams.sink? id ≠ none
  bridges : ∀ id ∈ f.bridges, streams.bridge? id ≠ none
  pipes : ∀ id ∈ f.pipes, streams.sink? id ≠ none

theorem Footprint.Lives.union {f g : Footprint} {streams : Registry E} (hf : f.Lives streams)
    (hg : g.Lives streams) : (f ∪ g).Lives streams where
  readables id hm := hm.elim (hf.readables id) (hg.readables id)
  writables id hm := hm.elim (hf.writables id) (hg.writables id)
  bridges id hm := hm.elim (hf.bridges id) (hg.bridges id)
  pipes id hm := hm.elim (hf.pipes id) (hg.pipes id)

/-- No part of a transform stream may change, and no pipe into it. -/
structure TransformStream.Outside (stage : TransformStream) (f : Footprint) : Prop where
  readable : stage.readable ∉ f.readables
  writable : stage.writable ∉ f.writables
  bridge : stage.bridge ∉ f.bridges
  pipes : stage.writable ∉ f.pipes

/-- A new transform stream is none of those that have been there. -/
theorem Session.Gains.outside {stage : TransformStream} {f : Footprint}
    {s s' : Session MemoryHost E} (h : Session.Gains stage s s') (hf : f.Lives s.streams) :
    stage.Outside f where
  readable hm := hf.readables _ hm h.new_readable
  writable hm := hf.writables _ hm h.new_writable
  bridge hm := hf.bridges _ hm h.new_bridge
  pipes hm := hf.pipes _ hm h.new_writable

namespace Well

variable {well : Well E} {lock : Option ReaderToken} {octets : Bytes} {s s' : Session MemoryHost E}

/-- The stream itself is there. -/
theorem OffersOctets.own_lives (h : well.OffersOctets lock octets s) :
    ({ readables := {well.id} } : Footprint).Lives s.streams := by
  obtain ⟨source, hs, -⟩ := h
  refine ⟨?_, fun _ hm => hm.elim, fun _ hm => hm.elim, fun _ hm => hm.elim⟩
  rintro _ rfl
  rw [hs]
  nofun

/-- So is all that is behind it if that is nothing but host bodies. -/
theorem OffersOctets.lives {bodies : Set BodyHandle} (h : well.OffersOctets lock octets s)
    (hreach : well.reach = { bodies }) : well.extent.Lives s.streams := by
  refine h.own_lives.union ?_
  rw [hreach]
  exact ⟨fun _ hm => hm.elim, fun _ hm => hm.elim, fun _ hm => hm.elim, fun _ hm => hm.elim⟩

/-- No pipe runs but those behind a well. -/
def Alone (well : Well E) (s : Session MemoryHost E) : Prop :=
  ∀ id pipe, s.streams.pipe? id = some pipe → pipe.isRunning → pipe.destination ∈ well.reach.pipes

theorem mem_reach_of_mem_extent {id : WritableId} (h : id ∈ well.extent.pipes) :
    id ∈ well.reach.pipes := h.resolve_left fun h => h

/-- Reading starts no pipe. -/
theorem Alone.of_frame (h : well.Alone s) (hf : Frame well.extent s s') : well.Alone s' := by
  intro id pipe hp hr
  by_cases hd : pipe.destination ∈ well.extent.pipes
  · exact mem_reach_of_mem_extent hd
  · exact h id pipe ((hf.pipe id pipe hd).mp hp) hr

end Well

/-! ### Piping -/

namespace Relay

variable {stage : TransformStream} {well : Well E} {octets : Bytes}
variable {opened made : Session MemoryHost E}

/-- The relay that a pipe from a well into a transform stream makes. -/
def through (well : Well E) (stage : TransformStream) (mark : UInt64) (streams : Registry E)
    (hout : stage.Outside well.extent) : Relay E where
  well := well
  stage := stage
  pipe := ⟨streams.pipes.nextKey⟩
  reader := ⟨streams.nextToken⟩
  writer := ⟨streams.nextToken + 1⟩
  mark := mark
  readable := hout.readable
  writable := hout.writable
  bridge := hout.bridge
  unpiped hm := hout.pipes (.inr hm)

/-- A well is piped through a transform stream that has just been made. -/
theorem pipeThrough (hgains : Session.Gains stage opened made) (henv : made.env = opened.env)
    (hout : stage.Outside well.extent) (hwell : well.OffersOctets none octets opened)
    (hc : opened.host.Calm) (halone : well.Alone opened) :
    let relay := through well stage opened.streams.config.transformHighWaterMark made.streams hout
    ∃ piped half, Settles (fun fuel => attempt (Session.pipeThrough fuel well.id stage) made)
        (.ok stage.readable, piped) ∧
      relay.asWell.OffersOctets none octets piped ∧ Confined relay.asWell.extent 0 opened piped ∧
        piped.streams.source? stage.readable = some half ∧ half.disturbed = false ∧
          half.released = false := by
  intro relay
  let half := opened.streams.newReadable stage.bridge .resolved
  let t := relay.transfer half
  have hmade : Confined
      { readables := {stage.readable}, writables := {stage.writable}, bridges := {stage.bridge} } 0
      opened made := .of_frame hgains.frame hgains.host
  -- the new stream is none of those that the well is made of
  have hoffers : well.OffersOctets none octets made := by
    refine hwell.of_frame hgains.frame ⟨?_, ?_, ?_, fun _ h => h.elim, fun _ h => h.elim⟩ henv
    · rintro _ rfl
      exact hout.readable
    · rintro _ rfl
      exact hout.writable
    · rintro _ rfl
      exact hout.bridge
  have hnew : stage.readable ≠ well.id := fun he => hout.readable (.inl he)
  -- the new writable half has taken in nothing yet
  have hempty : ∀ s', Frame t.ends made s' → s'.streams.sink? t.drain.id =
      some { Registry.newWritable stage.bridge .resolved with writerLock := some t.drain.writer } →
        t.drain.Holds s' [] := by
    intro s' hf hsink
    refine ⟨⟨⟨_, hsink, rfl, ⟨rfl, rfl, rfl, rfl, rfl, rfl⟩⟩,
      ⟨_, (hf.bridge _ fun h => h).trans ((hgains.bridge _).trans (if_pos rfl)), rfl, rfl, rfl⟩⟩,
      half.controller, ?_, rfl, .empty _, ⟨rfl, rfl⟩, rfl⟩
    exact (hf.source _ hnew).trans ((hgains.source _).trans (if_pos rfl))
  -- no pipe leads into it either, since the well has nothing to do with it
  have hidle : ∀ id pipe, made.streams.pipe? id = some pipe → pipe.isRunning →
      pipe.destination ≠ t.drain.id := by
    intro id pipe hp hr hd
    rw [Registry.pipe?_congr hgains.pipes] at hp
    have hinto := halone id pipe hp hr
    rw [hd] at hinto
    exact hout.pipes (.inr hinto)
  obtain ⟨entered, piped, ⟨bound, hsettles⟩, hends, hcarries⟩ :=
    t.pipeTo ⟨rfl, rfl, rfl⟩ hgains.wellFormed.pipes hoffers (hmade.calm hc)
      ((hgains.sink _).trans (if_pos rfl)) rfl hidle hempty
  obtain ⟨controller, hr, hmark, hstocks, -⟩ := stocks_of_carries hcarries
  refine ⟨piped, { half with controller }, ⟨bound, fun fuel hfuel => ?_⟩,
    ⟨_, hr, ⟨rfl, hmark, rfl, rfl, rfl, rfl, rfl⟩, hstocks⟩, ?_, hr, rfl, rfl⟩
  · exact (Session.attempt_pipeThrough _ _ _ _ {}).trans
      (congrArg (Option.map _) (hsettles fuel hfuel))
  · refine ((hmade.mono ⟨?_, ?_, ?_, Set.empty_subset _, Set.empty_subset _⟩).trans
      (hends.mono ⟨?_, ?_, Set.empty_subset _, ?_, Set.empty_subset _⟩)).trans
        (confined_of_carries hcarries)
    · exact fun _ h => .inl h
    · exact fun _ h => .inr (.inr h)
    · exact fun _ h => .inr (.inr h)
    · exact fun _ h => .inr (.inl (.inl h))
    · exact fun _ h => .inr (.inr h)
    · exact fun _ h => .inr (.inr h)

end Relay

/-- A body whose stream has something to give is piped through a new transform stream. Nobody has
read the readable half. -/
theorem Body.drive_pipeThroughIdentity_of_offersOctets {body streamed : Body} {well : Well E}
    {octets : Bytes} {s opened : Session MemoryHost E}
    (hstream : exec (body.stream : Action MemoryHost E BodyError _) s =
      (.ok (well.id, streamed), opened))
    (hwell : well.OffersOctets none octets opened) (hlives : well.extent.Lives opened.streams)
    (halone : well.Alone opened) (wf : opened.streams.WellFormed) (hc : opened.host.Calm) :
    ∃ (relay : Relay E) (half : Source E) (s' : Session MemoryHost E), relay.well = well ∧
      Settles (fun fuel => drive (body.pipeThroughIdentity fuel) s)
        ((.ok relay.stage.readable, { streamed with readable := some relay.stage.readable }), s') ∧
      relay.asWell.OffersOctets none octets s' ∧ Confined relay.asWell.extent 0 opened s' ∧
        opened.streams.sink? relay.stage.writable = none ∧
          s'.streams.source? relay.stage.readable = some half ∧ half.disturbed = false ∧
            half.released = false := by
  have hgains := Session.gains_createIdentity wf
  obtain ⟨stage, made, hmake⟩ : ∃ stage made,
      (Session.createIdentity : Step MemoryHost E TransformStream) opened = (stage, made) :=
    ⟨_, _, rfl⟩
  have henv : made.env = opened.env := by
    have hrun := Session.createIdentity_run wf
    rw [show StateT.run Session.createIdentity opened = (stage, made) from hmake] at hrun
    rw [(Prod.mk.inj hrun).2]
    rfl
  rw [show StateT.run Session.createIdentity opened = (stage, made) from hmake] at hgains
  have hout := hgains.outside hlives
  let relay := Relay.through well stage opened.streams.config.transformHighWaterMark
    made.streams hout
  obtain ⟨piped, half, ⟨bound, hpipe⟩, hoffers, hpiped, hhalf, hdisturbed, hreleased⟩ :=
    Relay.pipeThrough hgains henv hout hwell hc halone
  have howner : exec (Session.onStreams (Registry.setReadableOwner stage.readable streamed.owner))
      piped = (.ok (), Session.setSource stage.readable
        { half with owner := some streamed.owner } piped) := by
    rw [Session.exec_onStreams, Registry.exec_setReadableOwner hhalf]
    rfl
  have howned := hoffers.own hhalf streamed.owner
  have hfreed := Frame.releaseEnds (Session.setSource stage.readable
    { half with owner := some streamed.owner } piped) well.id stage.writable
  refine ⟨relay, { half with owner := some streamed.owner }, _, rfl, ⟨bound, fun fuel hfuel =>
    Body.drive_pipeThroughIdentity hstream hmake (hpipe fuel hfuel) howner⟩,
    Relay.offersOctets_released howned, ?_, hgains.new_writable, ?_, hdisturbed, hreleased⟩
  · have hown : ({ readables := {stage.readable} } : Footprint).Within relay.asWell.extent :=
      Footprint.within_union_left
    have hset := (Confined.setSource piped stage.readable
      { half with owner := some streamed.owner }).mono hown
    have hends : ({ readables := {well.id}, writables := {stage.writable} } : Footprint).Within
        relay.asWell.extent :=
      ⟨fun _ h => .inr (.inl (.inl h)), fun _ h => .inr (.inr h), Set.empty_subset _,
        Set.empty_subset _, Set.empty_subset _⟩
    exact (hpiped.trans hset).trans ((Confined.of_frame hfreed rfl).mono hends)
  · refine (hfreed.source _ fun he => hout.readable (.inl he)).trans ?_
    simp [Registry.source?_setSource, hhalf]

/-- A body is piped through a new transform stream. -/
theorem Body.GivesOctets.pipeThroughIdentity {body : Body} {bodies : Set BodyHandle}
    {octets : Bytes} {s : Session MemoryHost E} (h : body.GivesOctets bodies octets s)
    (hreleased : body.released = false) (wf : s.streams.WellFormed)
    (hsize : 0 < s.streams.config.bodyChunkSize) (hc : s.host.Calm)
    (hidle : ∀ id pipe, s.streams.pipe? id = some pipe → ¬ pipe.isRunning) :
    ∃ (relay : Relay E) (streamed : Body) (s' : Session MemoryHost E),
      Settles (fun fuel => drive (body.pipeThroughIdentity fuel) s)
        ((.ok relay.stage.readable, streamed), s') ∧ relay.Carries bodies octets s s' := by
  obtain ⟨well, streamed, opened, hstream, hreach, hwell, hopened, wf', -⟩ :=
    h.stream hreleased wf hsize
  have halone : well.Alone opened := fun id pipe hp hr =>
    absurd hr (hidle id pipe ((hopened.pipe id pipe fun h => h).mp hp))
  obtain ⟨relay, half, s', rfl, hsettles, hoffers, hpiped, hnew, -⟩ :=
    drive_pipeThroughIdentity_of_offersOctets hstream hwell (hwell.lives hreach)
      halone wf' (hopened.calm hc)
  refine ⟨relay, _, s', hsettles, hreach, ?_, hoffers, (hopened.mono ?_).trans hpiped⟩
  · rw [← hopened.sink _ fun h => h]
    exact hnew
  · exact Well.own_within.trans (Footprint.within_union_left.trans Footprint.within_union_right)

end EdgeStreams
