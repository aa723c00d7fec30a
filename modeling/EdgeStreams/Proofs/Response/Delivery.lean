import EdgeStreams.Proofs.Client.Sources
import EdgeStreams.Proofs.Response.Sending

/-!
# Responses arrive in full

## Main definitions

- `Body.HasUnread`: what a body has to give that nobody has read from
- `Worker.ReachedBy`: a worker after any operations

## Main statements

- `Worker.handle_delivers`: the response is in a new host body, complete
-/

namespace EdgeStreams

variable {E : Type}

/-- The octets that a source has to give: those left in its host body, or those that its guest has
added and will bring. -/
def Source.HasUnread (source : Source E) (octets : Bytes) (s : Session MemoryHost E) : Prop :=
  match source.backing with
  | .body handle _ => s.host.HasUnread handle octets
  | .script guest =>
    (∀ error, source.controller.state ≠ .errored error) ∧
      (source.controller.closeRequested = true ∧ octets = source.controller.queue.flatten ∨
        source.controller.closeRequested = false ∧
          ∃ pulls rest, octets = source.controller.queue.flatten ++ rest ∧
            guest.Brings source.controller.highWaterMark pulls s.env rest)
  | .transform _ => False

/-- The octets that a body has to give, if nobody has read from it and nobody holds its stream. -/
def Body.HasUnread (body : Body) (octets : Bytes) (s : Session MemoryHost E) : Prop :=
  match body.readable with
  | some id => ∃ source, s.streams.source? id = some source ∧ source.readerLock = none ∧
      source.disturbed = false ∧ source.HasUnread octets s
  | none => ∃ handle, body.handle = some handle ∧ s.host.HasUnread handle octets

/-- No read of a source goes too far, up to and at the end of its host body. -/
def Source.InReach (source : Source E) (s : Session MemoryHost E) : Prop :=
  match source.backing with
  | .body handle size => s.host.InReach handle size
  | .script _ | .transform _ => True

/-- No read of a body goes too far, nor does one of a stream that is made for it. -/
def Body.InReach (body : Body) (s : Session MemoryHost E) : Prop :=
  match body.readable with
  | some id => ∀ source, s.streams.source? id = some source → source.InReach s
  | none => ∀ handle, body.handle = some handle →
      s.host.InReach handle s.streams.config.bodyChunkSize

theorem Source.Untouched.sound {source : Source E} (h : source.Untouched)
    (hfine : ∀ error, source.controller.state ≠ .errored error) :
    source.controller.Sound ∧ (source.controller.IsOpen ∨ source.controller.HasEnded) :=
  h.controller.resolve_left fun ⟨error, herror⟩ => hfine error herror

/-- A source that nobody has read gives what it has. -/
theorem Source.Untouched.offersOctets {source : Source E} {id : ReadableId} {octets : Bytes}
    {s : Session MemoryHost E} (h : source.Untouched) (hs : s.streams.source? id = some source)
    (hlock : source.readerLock = none) (hunread : source.HasUnread octets s)
    (hreach : source.InReach s) :
    ∃ (well : Well E) (bodies : Set BodyHandle), well.id = id ∧ well.reach = { bodies } ∧
      well.OffersOctets none octets s ∧
      ∀ handle ∈ bodies, s.host.bodies.find? handle.raw ≠ none := by
  unfold Source.HasUnread at hunread
  unfold Source.InReach at hreach
  cases hback : source.backing with
  | body handle size =>
    rw [hback] at hunread hreach
    obtain ⟨hsize, hopen, hqueue⟩ := h.body handle size hback
    obtain ⟨hsound, -⟩ := h.sound fun error herror => by simp [hopen.state] at herror
    refine ⟨.overBody id handle size source.controller.highWaterMark hsize, {handle}, rfl, rfl,
      ⟨source, hs, ⟨hback, rfl, h.started, h.uncanceled, h.resting, h.unasked, hlock⟩, hsound,
        .inl ⟨hopen, octets, by simp [hqueue], hunread, hreach⟩⟩, ?_⟩
    rintro _ rfl
    obtain ⟨body, hbody, -⟩ := hunread
    simp [hbody]
  | script guest =>
    rw [hback] at hunread
    obtain ⟨hfine, hgives⟩ := hunread
    obtain ⟨hsound, hstate⟩ := h.sound hfine
    refine ⟨.overScript id guest source.controller.highWaterMark, ∅, rfl, rfl,
      ⟨source, hs, ⟨hback, rfl, h.started, h.uncanceled, h.resting, h.unasked, hlock⟩, hsound, ?_⟩,
      nofun⟩
    rcases hgives with ⟨hclose, hoctets⟩ | ⟨hclose, pulls, rest, hoctets, hbrings⟩
    · exact .inr ⟨hstate.resolve_left fun hopen => by simp [hopen.close] at hclose,
        hoctets, trivial⟩
    · exact .inl ⟨hstate.resolve_right fun hended => by simp [hended.close] at hclose, rest,
        hoctets, pulls, hbrings⟩
  | transform bridge =>
    rw [hback] at hunread
    exact hunread.elim

/-- A body that nobody has read from gives what it has. -/
theorem Body.HasUnread.gives {body : Body} {octets : Bytes} {s : Session MemoryHost E}
    (h : body.HasUnread octets s) (hr : body.InReach s) (hp : s.streams.Pristine) :
    ∃ bodies, body.GivesOctets bodies octets s ∧
      ∀ handle ∈ bodies, s.host.bodies.find? handle.raw ≠ none := by
  obtain ⟨owner, handle, readable, released, used⟩ := body
  cases readable with
  | some id =>
    obtain ⟨source, hs, hlock, hd, hunread⟩ := h
    have huntouched := (hp.untouched id source hs hd).resolve_left fun ⟨bridge, hbridge⟩ => by
      simp [Source.HasUnread, hbridge] at hunread
    obtain ⟨well, bodies, hid, hreach, hoffers, hexist⟩ :=
      huntouched.offersOctets hs hlock hunread (hr source hs)
    exact ⟨bodies, ⟨well, hid, hreach, hoffers⟩, hexist⟩
  | none =>
    obtain ⟨handle, rfl, hunread⟩ := h
    refine ⟨{handle}, ⟨handle, rfl, rfl, hunread, hr handle rfl⟩, ?_⟩
    rintro _ rfl
    obtain ⟨body, hbody, -⟩ := hunread
    simp [hbody]

namespace Worker

/-- A worker over a new host, after any operations and requests: it works on the session of a client
that operations have led to. -/
structure ReachedBy (worker : Worker MemoryHost E) (client : Client MemoryHost E) : Prop where
  session : client.session = worker.session
  runsTo : ∃ size env,
    (Client.new (.withChunkSize size) env worker.config.toStreamConfig).RunsTo client

variable {σ : Type} {worker : Worker MemoryHost E} {client later : Client MemoryHost E}
variable {request : BodyHandle} {handler : Handler MemoryHost E σ} {state state' : σ}
variable {context : RequestContext MemoryHost E} {response : Body} {octets : Bytes}

/-- The client when the handler of a request takes over. -/
def entered (client : Client MemoryHost E) (request : BodyHandle) : Client MemoryHost E :=
  client.withSession ((Body.ofHandle request).run client.session).2

theorem runsTo_entered (client : Client MemoryHost E) (request : BodyHandle) :
    client.RunsTo (entered client request) :=
  .step .refl (.nextOwner _) ⟨.of_outline rfl, UInt32.le_refl _⟩

/-- The response of a request is delivered in full. The worker may have gone through any operations
and requests before, and the handler may do anything, as long as it leaves no pipe running. The body
that it returns has not been read from and is held by nobody. Then the request is answered with a
host body that has never been given out before, which has all the octets of the returned body and is
closed. Sending it takes one call to make that body and one to close it, and abandons none. No read
goes too far if none of the returned body does.

Handles are not numbered over again, and no generation of the streams runs over, on the way to the
state that the handler leaves: `Client.RunsTo` tells the operations for which that is so. -/
theorem handle_delivers (hworker : worker.ReachedBy client)
    (hmade : handler (⟨((Body.ofHandle request).run worker.session).2,
      some ((Body.ofHandle request).run worker.session).1⟩, state) =
        some (.ok response, context, state'))
    (hhandler : (entered client request).RunsTo later) (hcontext : later.session = context.session)
    (hidle : ∀ id pipe, context.session.streams.pipe? id = some pipe → ¬ pipe.isRunning)
    (hfaults : context.session.host.faults = {}) (hused : response.used = false)
    (hreleased : response.released = false)
    (hunread : response.HasUnread octets context.session)
    (hreach : response.InReach context.session) (hintact : context.session.host.overrun = none) :
    ∃ worker', Settles (fun fuel => handle fuel worker request handler state)
        (.ok ⟨context.session.host.nextHandle⟩, worker', state') ∧
      context.session.host.nextHandle ∉ later.handles ∧
        context.session.host.HasSent octets worker'.session.host ∧
          worker'.session.host.overrun = none := by
  obtain ⟨size, env, hruns⟩ := hworker.runsTo
  obtain ⟨wf, hpristine, hnumbered⟩ :=
    Client.RunsTo.inTime ((hruns.trans (runsTo_entered client request)).trans hhandler)
  rw [hcontext] at wf hpristine hnumbered
  obtain ⟨bodies, hgives, hexist⟩ := hunread.gives hreach hpristine
  have hnew : ∀ raw, raw < context.session.host.nextHandle →
      raw ≠ context.session.host.nextHandle :=
    fun raw hlt => UInt32.ne_of_lt hlt
  obtain ⟨worker', hsettles, hsent, hreads⟩ :=
    handle_settles hmade hgives hused hreleased wf hpristine.size
    ⟨hfaults, hnumbered.chunkSize⟩ hidle
    fun hm => hnew _ (hnumbered.bodies _ (hexist _ hm)) rfl
  exact ⟨worker', hsettles, fun hm => hnew _ (hnumbered.issued _ hm) rfl, hsent, hreads hintact⟩

/-- A handler that answers with the body of the request. -/
def echo : Handler MemoryHost E Unit := fun (context, state) =>
  some (match context.request with
    | some body => (.ok body, { context with request := none }, state)
    | none => (.error (.typeError "no body"), context, state))

/-- A client over a host whose reads answer with one octet. It has made a body of two octets. -/
def withRequest : Client MemoryHost Unit :=
  let host := MemoryHost.withChunkSize 1
  { session := { host := (host.addBody [104, 105]).2, env := (), streams := .new {} }
    handles := [(host.addBody [104, 105]).1.raw] }

/-- A request is answered with its own octets, in a body with the next handle. -/
theorem handle_delivers_echo :
    ∃ worker', Settles (fun fuel => handle fuel
        ({ config := {}, session := withRequest.session } : Worker MemoryHost Unit) ⟨1⟩ echo ())
        (.ok ⟨2⟩, worker', ()) ∧
      worker'.session.host.bodyContents? ⟨2⟩ = some [104, 105] ∧
        worker'.session.host.bodyIsClosed ⟨2⟩ = true ∧ worker'.session.host.overrun = none := by
  let worker : Worker MemoryHost Unit := { config := {}, session := withRequest.session }
  have hrequest : (Client.new (MemoryHost.withChunkSize 1) () {}).RunsTo withRequest :=
    .step .refl (.callHost (MemoryHost.Acts.addBody [104, 105])) ⟨.of_outline rfl, by decide⟩
  have hreached : worker.ReachedBy withRequest := ⟨rfl, 1, (), hrequest⟩
  have hmade : echo (⟨((Body.ofHandle ⟨1⟩).run worker.session).2,
      some ((Body.ofHandle ⟨1⟩).run worker.session).1⟩, ()) =
        some (.ok ⟨⟨1⟩, some ⟨1⟩, none, false, false⟩,
          ⟨(entered withRequest ⟨1⟩).session, none⟩, ()) := rfl
  have hunread : Body.HasUnread ⟨⟨1⟩, some ⟨1⟩, none, false, false⟩ [104, 105]
      (entered withRequest ⟨1⟩).session := ⟨⟨1⟩, rfl, .readable [104, 105], rfl, by decide, rfl⟩
  have hreach : Body.InReach ⟨⟨1⟩, some ⟨1⟩, none, false, false⟩
      (entered withRequest ⟨1⟩).session := by
    rintro handle ⟨⟩ body ⟨⟩
    decide
  obtain ⟨worker', hsettles, -, hsent, hreads⟩ := handle_delivers hreached hmade .refl rfl
    (fun id pipe hp => by cases hp.symm.trans (SlotMap.get?_empty id.key))
      rfl rfl rfl hunread hreach rfl
  exact ⟨worker', hsettles, hsent.contents, hsent.closed, hreads⟩

/-- A client over a host whose reads are as long as a word can say, and so are those of the streams.
It has made a body of one octet. -/
def withLongReads : Client MemoryHost Unit :=
  let host := MemoryHost.withChunkSize 0xFFFFFFFFFFFFFFFF
  { session :=
      { host := (host.addBody [104]).2, env := (),
        streams := .new { bodyChunkSize := 0xFFFFFFFFFFFFFFFF } }
    handles := [(host.addBody [104]).1.raw] }

/-- There the read that is to find the end of the response goes too far, and the program ends before
the request has been answered. -/
theorem handle_overruns :
    ({ config := { bodyChunkSize := 0xFFFFFFFFFFFFFFFF }, session := withLongReads.session } :
        Worker MemoryHost Unit).ReachedBy withLongReads ∧
      Settles (fun fuel => (handle fuel
          ({ config := { bodyChunkSize := 0xFFFFFFFFFFFFFFFF }, session := withLongReads.session } :
            Worker MemoryHost Unit) ⟨1⟩ echo ()).map fun answer => answer.2.1.session.host.overrun)
        (some ⟨1⟩) := by
  have hends : (handle 8
      ({ config := { bodyChunkSize := 0xFFFFFFFFFFFFFFFF }, session := withLongReads.session } :
        Worker MemoryHost Unit) ⟨1⟩ echo ()).map (fun answer => answer.2.1.session.host.overrun) =
      some (some ⟨1⟩) := by decide +kernel
  refine ⟨⟨rfl, 0xFFFFFFFFFFFFFFFF, (), ?_⟩, .of_more (fun fuel shown h => ?_) hends⟩
  · exact .step .refl (.callHost (MemoryHost.Acts.addBody [104])) ⟨.of_outline rfl, by decide⟩
  · obtain ⟨answer, hanswer, rfl⟩ := Option.map_eq_some_iff.mp h
    simp only [handle_more hanswer, Option.map_some]

end Worker

end EdgeStreams
