import EdgeStreams.Proofs.Body.Steps
import EdgeStreams.Proofs.Response.Through

/-!
# Sending a response

A body that nothing goes wrong with is sent in full: a new host body holds its octets in the end,
and is closed.

## Main definitions

- `MemoryHost.HasSent`: what the host shows once a response has been sent

## Main statements

- `Worker.send_settles`: a body is sent
- `Worker.handle_settles`: a request is answered with the body that its handler returns
-/

namespace EdgeStreams

variable {E : Type}

/-- A new host body holds the octets and is closed. It has been made and closed by one call each,
and no body has been abandoned. -/
structure MemoryHost.HasSent (host : MemoryHost) (octets : Bytes) (host' : MemoryHost) : Prop where
  contents : host'.bodyContents? ⟨host.nextHandle⟩ = some octets
  closed : host'.bodyIsClosed ⟨host.nextHandle⟩ = true
  made : host'.callCount .bodyNew = host.callCount .bodyNew + 1
  closings : host'.callCount .bodyClose = host.callCount .bodyClose + 1
  abandoned : host'.callCount .bodyAbandon = host.callCount .bodyAbandon

/-- Without running pipes there is nothing to drive. -/
theorem Session.drive_pump_idle {H : Type} [Host H] {s : Session H E} (fuel : Nat)
    (h : ∀ id pipe, s.streams.pipe? id = some pipe → ¬ pipe.isRunning) :
    drive (Session.pump (fuel + 1)) s = some (0, s) := by
  have hnone : s.streams.runningPipes = [] := by
    refine List.eq_nil_iff_forall_not_mem.mpr fun ⟨id, pipe⟩ hm => ?_
    obtain ⟨hp, hr⟩ := s.streams.mem_runningPipes.mp hm
    exact h id pipe hp hr
  rw [Session.drive_pump, hnone]
  cases fuel <;> rfl

namespace Relay

variable {relay : Relay E} {bodies : Set BodyHandle}

/-- What reading from a transform stream may change if nothing but host bodies lies behind it. -/
theorem extent_asWell (hreach : relay.well.reach = { bodies }) :
    relay.asWell.extent =
      { readables := {relay.stage.readable, relay.well.id}
        writables := {relay.stage.writable}
        bridges := {relay.stage.bridge}
        pipes := {relay.stage.writable}
        bodies } := by
  simp [Well.extent, asWell, Relay.reach, hreach, Footprint.union_eq, Set.pair_comm]

/-- The pipe from a transform stream into a sink over a host body. -/
def onward (relay : Relay E) (hreach : relay.well.reach = { bodies }) (sink : WritableId)
    (destination : BodyHandle) (streams : Registry E) (hsink : sink ≠ relay.stage.writable)
    (hbody : destination ∉ bodies) : Transfer E where
  well := relay.asWell
  drain := .overBody sink ⟨streams.nextToken + 1⟩ destination
  id := ⟨streams.pipes.nextKey⟩
  reader := ⟨streams.nextToken⟩
  apart := by
    rw [extent_asWell hreach]
    refine Footprint.Apart.symm ⟨?_, ?_, ?_, ?_, ?_⟩ <;>
      simp [Drain.extent, Drain.overBody, Footprint.union_eq, hsink, hbody]
  unpiped := by
    have hwithin : relay.asWell.reach.Within relay.asWell.extent := Footprint.within_union_right
    intro hm
    have hpipes := hwithin.pipes hm
    rw [extent_asWell hreach] at hpipes
    exact hsink hpipes

/-- What reading from a transform stream into a host body may change. -/
theorem extent_onward (hreach : relay.well.reach = { bodies }) {sink : WritableId}
    {destination : BodyHandle} {streams : Registry E} (hsink : sink ≠ relay.stage.writable)
    (hbody : destination ∉ bodies) :
    (relay.onward hreach sink destination streams hsink hbody).extent.pipes =
      {relay.stage.writable, sink} := by
  simp [Transfer.extent, onward, extent_asWell hreach, Drain.extent, Drain.overBody,
    Footprint.union_eq, Set.pair_comm]

end Relay

/-- A sink over a host body takes more at any time. -/
theorem Drain.sinkReady_overBody {W : WritableId} {writer : WriterToken} {destination : BodyHandle}
    {octets : Bytes} {s : Session MemoryHost E}
    (h : (Drain.overBody W writer destination).Holds s octets) : s.streams.sinkReady W = true := by
  obtain ⟨sink, body, hs, hback, hrest, -⟩ := h
  simp [Registry.sinkReady, hs, hback, hrest.idle, hrest.pending]

/-- An empty body with a sink over it, ready for a response. -/
structure Session.Awaits (W : WritableId) (destination : BodyHandle) (s : Session MemoryHost E) :
    Prop where
  sink : ∃ sink, s.streams.sink? W = some sink ∧ sink.backing = .body destination ∧
    sink.AtRest .writable none
  body : ∃ body, s.host.bodies.find? destination.raw = some body ∧ body.state = .opened ∧
    body.contents.toList = []

/-- What has been piped through a transform stream is piped into a new body, which then holds all of
it. Nothing remains to be driven. -/
theorem Relay.Carries.pipeTo {relay : Relay E} {bodies : Set BodyHandle} {octets : Bytes}
    {s through : Session MemoryHost E} {id : WritableId} {destination : BodyHandle}
    (h : relay.Carries bodies octets s through) (hwf : s.streams.pipes.WellFormed)
    (hc : s.host.Calm) (hidle : ∀ id pipe, s.streams.pipe? id = some pipe → ¬ pipe.isRunning)
    (hawaits : s.Awaits id destination) (hbody : destination ∉ bodies) :
    ∃ pipe piped, Settles (fun fuel =>
      attempt (Session.pipeTo fuel relay.stage.readable id) through)
        (.ok pipe, piped) ∧
      piped.streams.pipeState? pipe = some .done ∧
        (∀ id pipe, piped.streams.pipe? id = some pipe → ¬ pipe.isRunning) ∧
          (∃ body, piped.host.bodies.find? destination.raw = some body ∧ body.state = .closed ∧
            body.contents.toList = octets) ∧
            (s.host.overrun = none → piped.host.overrun = none) ∧
              ∀ operation, operation ≠ .bodyRead → operation ≠ .bodyWrite →
                piped.host.callCount operation =
                  s.host.callCount operation + if operation = .bodyClose then 1 else 0 := by
  obtain ⟨⟨sink, hs, hback, hrest⟩, body, hfound, hopened, hempty⟩ := hawaits
  have hid : id ≠ relay.stage.writable := by
    rintro rfl
    rw [h.new] at hs
    cases hs
  let t := relay.onward h.reach id destination through.streams hid hbody
  have hextent := extent_asWell h.reach
  have hthrough := h.confined
  rw [hextent] at hthrough
  have hinto : ∀ other pipe, through.streams.pipe? other = some pipe → pipe.isRunning →
      pipe.destination = relay.stage.writable := fun other pipe hp hr =>
    by_contra fun hd => hidle other pipe ((hthrough.pipe other pipe hd).mp hp) hr
  have hholds : ∀ later, Frame t.ends through later → later.streams.sink? t.drain.id =
      some { sink with writerLock := some t.drain.writer } → t.drain.Holds later [] := by
    intro later hf hsink
    refine ⟨_, body, hsink, hback, ⟨hrest.started, hrest.pending, hrest.idle, hrest.unaborted,
      hrest.state, rfl⟩, ?_, hopened, hempty⟩
    exact ((hf.body destination fun hm => hm).trans (hthrough.body destination hbody)).trans hfound
  obtain ⟨entered, piped, hsettles, hends, hcarries⟩ := t.pipeTo ⟨rfl, rfl, rfl⟩
    (hthrough.wellFormed hwf) h.offersOctets (hthrough.calm hc) ((hthrough.sink id hid).trans hs)
    hrest.lock (fun other pipe hp hr hd => hid (hd.symm.trans (hinto other pipe hp hr))) hholds
  -- a pipe into a host body never has to wait
  obtain ⟨hover, hconfined⟩ := hcarries.resolve_left fun ⟨_, _, _, hunder, hready, _⟩ => by
    exact absurd ((Drain.sinkReady_overBody hunder.drain).symm.trans hready) (by decide)
  refine ⟨t.id, piped, hsettles, by simp [Registry.pipeState?, hover.pipe],
    fun other pipe hp hr => ?_, hover.drain, fun hintact =>
    hconfined.intact (hends.intact (hthrough.intact hintact)), fun operation hread hwrite => ?_⟩
  · have hlast := hover.idle other pipe hp hr
    have hfirst := hover.spent.2 other pipe hp hr
    have hentered := (hconfined.pipe other pipe (by
      rw [extent_onward]
      rintro (hd | hd)
      · exact hfirst hd
      · exact hlast hd)).mp hp
    exact hfirst (hinto other pipe ((hends.pipe other pipe hlast).mp hentered) hr)
  · rw [hconfined.tally operation hread hwrite, hends.tally operation hread hwrite,
      hthrough.tally operation hread hwrite]
    simp [t, Relay.onward, Drain.overBody]

namespace MemoryHost

/-- The host once it has made a body. -/
def withNew (host : MemoryHost) : MemoryHost :=
  { host.received .bodyNew none with nextHandle := host.nextHandle + 1 }.putBody
    ⟨host.nextHandle⟩ .writable

theorem callCount_withNew (host : MemoryHost) (operation : HostOperation) :
    host.withNew.callCount operation =
      host.callCount operation + if operation = .bodyNew then 1 else 0 :=
  host.callCount_received .bodyNew operation none

end MemoryHost

/-- A new body and a sink over it. -/
def Session.prepared (s : Session MemoryHost E) : Session MemoryHost E :=
  { s with
    host := s.host.withNew
    streams := (s.streams.bodySink ⟨s.host.nextHandle⟩).2 }

namespace Session

variable {s : Session MemoryHost E}

theorem exec_bodyNew (hc : s.host.Calm) :
    exec (onHost Host.bodyNew) s =
      (.ok (⟨s.host.nextHandle⟩ : BodyHandle), { s with host := s.host.withNew }) := by
  simp [exec_onHost, MemoryHost.exec_bodyNew, hc.faultless, MemoryHost.withNew]

theorem prepared_awaits (wf : s.streams.WellFormed) :
    s.prepared.Awaits (s.streams.bodySink ⟨s.host.nextHandle⟩).1 ⟨s.host.nextHandle⟩ where
  sink := ⟨_, (Registry.sink?_addSink wf _ _).trans (if_pos rfl), rfl,
    ⟨rfl, rfl, rfl, rfl, rfl, rfl⟩⟩
  body := ⟨.writable, (s.host.find?_putBody _ _ _).trans (if_pos rfl), rfl, rfl⟩

theorem frame_prepared (wf : s.streams.WellFormed) :
    Frame
      { writables := {(s.streams.bodySink ⟨s.host.nextHandle⟩).1}
        bodies := {⟨s.host.nextHandle⟩} } s s.prepared where
  source _ _ := rfl
  sink id hid := (Registry.sink?_addSink wf _ id).trans (if_neg hid)
  bridge _ _ := rfl
  pipe _ _ _ := Iff.rfl
  body handle hne := by
    refine (s.host.find?_putBody _ _ _).trans (if_neg fun he => hne ?_)
    cases handle
    exact congrArg Handle.mk he
  chunkSize := rfl
  faultless h := by simp [prepared, MemoryHost.withNew, h]
  overrun _ _ ho := ho
  wellFormed h := h

end Session

namespace Worker

variable {response : Body} {bodies : Set BodyHandle} {octets : Bytes} {s : Session MemoryHost E}

/-- A body that nothing goes wrong with is sent in full. -/
theorem send_settles (h : response.GivesOctets bodies octets s) (hused : response.used = false)
    (hreleased : response.released = false) (wf : s.streams.WellFormed)
    (hsize : 0 < s.streams.config.bodyChunkSize) (hc : s.host.Calm)
    (hidle : ∀ id pipe, s.streams.pipe? id = some pipe → ¬ pipe.isRunning)
    (hfresh : ⟨s.host.nextHandle⟩ ∉ bodies) :
    ∃ streamed sent, Settles (fun fuel => drive (send fuel response) s)
        ((.ok ⟨s.host.nextHandle⟩, streamed), sent) ∧
      s.host.HasSent octets sent.host ∧ (s.host.overrun = none → sent.host.overrun = none) := by
  have hprepared := s.frame_prepared wf
  have hcalm : s.prepared.host.Calm := ⟨hprepared.faultless hc.faultless, hc.chunkSize⟩
  have hgives : response.GivesOctets bodies octets s.prepared :=
    h.of_frame hprepared rfl (by rintro _ rfl; exact hfresh) rfl rfl
  obtain ⟨relay, streamed, through, ⟨bound, hthrough⟩, hcarries⟩ :=
    hgives.pipeThroughIdentity hreleased (wf.addSink _) hsize hcalm hidle
  obtain ⟨pipe, piped, ⟨bound', hpiped⟩, hdone, hrest, ⟨body, hbody, hclosed, hcontents⟩, hintact,
      htally⟩ :=
    hcarries.pipeTo wf.pipes hcalm hidle (Session.prepared_awaits wf) hfresh
  have hcount : ∀ operation, operation ≠ .bodyRead → operation ≠ .bodyWrite →
      piped.host.callCount operation = s.host.callCount operation +
        (if operation = .bodyNew then 1 else 0) + if operation = .bodyClose then 1 else 0 := by
    intro operation hread hwrite
    rw [htally operation hread hwrite]
    congr 1
    exact s.host.callCount_withNew operation
  refine ⟨streamed, piped.mapStreams fun streams =>
      streams.releaseWritable (s.streams.bodySink ⟨s.host.nextHandle⟩).1,
    ⟨max bound bound' + 1, fun fuel hfuel => ?_⟩, ⟨?_, ?_, ?_, ?_, ?_⟩, hintact⟩
  · have hpump : drive (Session.pump fuel) piped = some (0, piped) := by
      obtain ⟨fuel, rfl⟩ := Nat.exists_eq_succ_of_ne_zero (show fuel ≠ 0 by omega)
      exact Session.drive_pump_idle fuel hrest
    have hsent := drive_send hused (Session.exec_bodyNew hc)
      (drive_pipeResponse (hthrough fuel (by omega)) (hpiped fuel (by omega)) hpump hdone)
    exact hsent
  · simp [MemoryHost.bodyContents?, hbody, hcontents]
  · simp [MemoryHost.bodyIsClosed, MemoryHost.bodyState?, hbody, hclosed]
  · simpa using hcount .bodyNew (by decide) (by decide)
  · simpa using hcount .bodyClose (by decide) (by decide)
  · simpa using hcount .bodyAbandon (by decide) (by decide)

/-! ### The rest of a request -/

section Request

variable {H σ : Type}

/-- At most one stream is let go of with a request. -/
theorem releaseLeftover_cases (request : Option Body) (s : Session H E) :
    releaseLeftover request s = s ∨
      ∃ id, releaseLeftover request s = s.mapStreams fun streams => streams.releaseReadable id := by
  obtain _ | ⟨owner, handle, _ | id, _ | _⟩ := request
  case some.some.false => exact .inr ⟨id, rfl⟩
  all_goals exact .inl rfl

theorem host_tidy (config : WorkerConfig) (s : Session H E) : (tidy config s).host = s.host := by
  unfold tidy
  split <;> rfl

section Fuel

variable [Host H] {fuel : Nat}

theorem extends_pipeResponse (response : Body) (sink : WritableId) :
    Extends (pipeResponse fuel response sink : Run H E (Except WorkerError Unit × Body))
      (pipeResponse (fuel + 1) response sink) := by
  refine .bind (response.extends_pipeThroughIdentity fuel) fun piped => ?_
  dsimp only
  split
  · exact .refl _
  · refine .bind (Session.extends_pipeTo fuel _ sink {}) fun found => ?_
    split
    · exact .refl _
    · exact .bind (Session.extends_pump fuel) fun _ => .refl _

theorem extends_send (response : Body) :
    Extends (send fuel response : Run H E (Except WorkerError BodyHandle × Body))
      (send (fuel + 1) response) := by
  unfold send
  split
  · exact .refl _
  · refine .bind (.refl _) fun destination => ?_
    split
    · exact .refl _
    · exact .bind (.refl _) fun sink => .bind (extends_pipeResponse response sink) fun _ => .refl _

theorem extends_respond (made : Except ScriptError Body) :
    Extends (respond fuel made : Run H E (Except WorkerError BodyHandle))
      (respond (fuel + 1) made) := by
  cases made with
  | error error => exact .refl _
  | ok response => exact .bind (extends_send response) fun _ => .refl _

end Fuel

variable [Host H] {fuel : Nat} {worker : Worker H E} {request : BodyHandle}
  {handler : Handler H E σ}
variable {state state' : σ} {context : RequestContext H E} {streamed : Body}
variable {destination : BodyHandle} {sent : Session H E}

/-- A request is answered once its handler has made a response. -/
theorem handle_of_respond {made : Except ScriptError Body} {result : Except WorkerError BodyHandle}
    (hmade : handler (⟨((Body.ofHandle request).run worker.session).2,
      some ((Body.ofHandle request).run worker.session).1⟩, state) = some (made, context, state'))
    (hrespond : respond fuel made (releaseLeftover context.request context.session) =
      some (result, sent)) :
    handle fuel worker request handler state =
      some (result,
        { worker with session := tidy worker.config sent, requests := worker.requests + 1 },
        state') := by
  show (do
    let (made, context, state) ← handler (⟨((Body.ofHandle request).run worker.session).2,
      some ((Body.ofHandle request).run worker.session).1⟩, state)
    let (result, session) ← respond fuel made (releaseLeftover context.request context.session)
    some (result, ({ worker with
      session := tidy worker.config session
      requests := worker.requests + 1 } : Worker H E), state)) = _
  rw [hmade]
  simp only [Option.bind_eq_bind, Option.bind_some, hrespond]

/-- More fuel never changes the answer to a request. -/
theorem handle_more {r : Except WorkerError BodyHandle × Worker H E × σ}
    (h : handle fuel worker request handler state = some r) :
    handle (fuel + 1) worker request handler state = some r := by
  simp only [handle, Option.bind_eq_bind] at h ⊢
  obtain ⟨⟨made, context, left⟩, hmade, h⟩ := Option.bind_eq_some_iff.mp h
  obtain ⟨⟨result, sent⟩, hrespond, h⟩ := Option.bind_eq_some_iff.mp h
  refine Option.bind_eq_some_iff.mpr ⟨_, hmade, Option.bind_eq_some_iff.mpr ⟨_, ?_, h⟩⟩
  exact extends_respond made _ _ hrespond

/-- The response is sent and let go of. -/
theorem respond_of_send {response : Body}
    (hsend : drive (send fuel response) (releaseLeftover context.request context.session) =
      some ((.ok destination, streamed), sent)) :
    respond fuel (.ok response) (releaseLeftover context.request context.session) =
      some (.ok destination, (streamed.release sent).2) := by
  change drive (respond fuel (.ok response)) _ = _
  simp only [respond, drive_bind, hsend, Option.bind_some, drive_modifyGet, drive_pure]

end Request

variable {σ : Type} {worker : Worker MemoryHost E} {request : BodyHandle}
variable {handler : Handler MemoryHost E σ} {state state' : σ}
  {context : RequestContext MemoryHost E}

/-- A request is answered with the body that its handler returns, if nothing goes wrong with it. -/
theorem handle_settles
    (hmade : handler (⟨((Body.ofHandle request).run worker.session).2,
      some ((Body.ofHandle request).run worker.session).1⟩, state) =
        some (.ok response, context, state'))
    (h : response.GivesOctets bodies octets context.session) (hused : response.used = false)
    (hreleased : response.released = false) (wf : context.session.streams.WellFormed)
    (hsize : 0 < context.session.streams.config.bodyChunkSize) (hc : context.session.host.Calm)
    (hidle : ∀ id pipe, context.session.streams.pipe? id = some pipe → ¬ pipe.isRunning)
    (hfresh : ⟨context.session.host.nextHandle⟩ ∉ bodies) :
    ∃ worker', Settles (fun fuel => handle fuel worker request handler state)
        (.ok ⟨context.session.host.nextHandle⟩, worker', state') ∧
      context.session.host.HasSent octets worker'.session.host ∧
        (context.session.host.overrun = none → worker'.session.host.overrun = none) := by
  have hsent : ∃ streamed sent,
      Settles (fun fuel => drive (send fuel response)
          (releaseLeftover context.request context.session))
        ((.ok ⟨context.session.host.nextHandle⟩, streamed), sent) ∧
      context.session.host.HasSent octets sent.host ∧
        (context.session.host.overrun = none → sent.host.overrun = none) := by
    rcases releaseLeftover_cases context.request context.session with heq | ⟨id, heq⟩
    · rw [heq]
      exact send_settles h hused hreleased wf hsize hc hidle hfresh
    · rw [heq]
      have hframe := Frame.modifySource context.session id fun source =>
        { source with released := true, owner := none }
      refine send_settles (s := context.session.mapStreams fun streams =>
        streams.releaseReadable id)
        (Body.GivesOctets.releaseReadable h id) hused hreleased (wf.modifySource _ _) ?_ hc
        (fun other pipe hp => hidle other pipe ((hframe.pipe other pipe fun h => h).mp hp)) hfresh
      rw [Session.streams_mapStreams, Registry.releaseReadable, Registry.config_modifySource]
      exact hsize
  obtain ⟨streamed, sent, ⟨bound, hsend⟩, hsent⟩ := hsent
  refine ⟨_, ⟨bound, fun fuel hfuel =>
    handle_of_respond hmade (respond_of_send (hsend fuel hfuel))⟩, ?_⟩
  rw [host_tidy, Body.host_release]
  exact hsent

end Worker

end EdgeStreams
