import EdgeStreams.Proofs.Body.Piecewise
import EdgeStreams.Proofs.Client.Backpressure
import EdgeStreams.Proofs.Client.Sources
import EdgeStreams.Proofs.Response.Drains

/-!
# Host bodies, chunk by chunk, whatever clients do

A stream over a host body is read to its end by one call for each chunk and one for the end, also
where a pipe into another host body reads it.

## Main definitions

- `Session.Carries`, `Session.Carried`: a pipe between two host bodies, and what it leaves
- `Session.GivesChunks`: what comes of reading, draining and piping a stream over a host body

## Main statements

- `Session.Carries.chunk`, `Session.Carries.done`: one step of such a pipe
- `Session.Carries.pumpSteps`: it carries everything over
- `Session.Carries.endless`: it does not come to an end where it leads back into the body
- `Client.sources_ask_once_per_chunk`: the calls that a stream over a host body makes
-/

namespace EdgeStreams

variable {E : Type}

namespace Session

variable {id : ReadableId} {handle : BodyHandle} {size : UInt64} {source : Source E}
  {body : MemoryBody}
variable {s t : Session MemoryHost E} {limit : ℕ} {lock : Option ReaderToken} {rest : Bytes}

/-! ### A pipe into a host body -/

/-- A pipe carries into a host body what its source still has; the body has taken in some octets. -/
structure Carries (handle : BodyHandle) (size : UInt64) (limit : ℕ) (name : PipeId) (pipe : Pipe)
    (dest : BodyHandle) (rest taken : Bytes) (s : Session MemoryHost E) : Prop where
  ahead : s.Ahead pipe.source handle size limit (some pipe.reader) rest
  entry : s.streams.pipe? name = some { pipe with pumping := true }
  sink : ∃ sink, s.streams.sink? pipe.destination = some sink ∧ sink.backing = .body dest ∧
    sink.AtRest .writable (some pipe.writer)
  body : ∃ body, s.host.bodies.find? dest.raw = some body ∧ body.state = .opened ∧
    body.contents.toList = taken

section Carries

variable {name : PipeId} {pipe : Pipe} {dest : BodyHandle} {taken : Bytes}

/-- The destination takes what the pipe finds. -/
theorem Carries.drive_pumpSteps (h : Carries handle size limit name pipe dest rest taken s)
    (fuel steps : ℕ) :
    drive (pumpSteps (fuel + 1) name pipe steps) s =
      (attempt (readUnchecked fuel pipe.source) s).bind
        (pumpFound name pipe steps fun s => drive (pumpSteps fuel name pipe (steps + 1)) s) := by
  obtain ⟨source, hs, -, hl⟩ := h.ahead.source
  obtain ⟨sink, hk, hback, hrest⟩ := h.sink
  have hfault : destinationFault? s.streams pipe.destination = none := by
    simp [destinationFault?, Registry.writableState?, hk, hrest.state]
  have hready : s.streams.sinkReady pipe.destination = true := by
    simp [Registry.sinkReady, hk, hback, hrest.idle, hrest.pending]
  rw [Session.drive_pumpSteps, hfault]
  simp only [hready, Bool.not_true, Bool.false_eq_true, if_false,
    attempt_readByPipe fuel s pipe hs hl]

/-- A chunk is read and written: two calls. What goes into the body that it has come from is read
again. -/
theorem Carries.chunk (hlimit : 0 < limit)
    (h : Carries handle size limit name pipe dest rest taken s) (hne : rest ≠ []) :
    ∃ t, (∀ fuel steps, drive (pumpSteps (fuel + 4) name pipe steps) s =
        drive (pumpSteps (fuel + 3) name pipe (steps + 1)) t) ∧
      Carries handle size limit name pipe dest
        (rest.drop limit ++ if dest = handle then rest.take limit else [])
          (taken ++ rest.take limit) t ∧
      t.host.calls.toList =
        s.host.calls.toList ++ [⟨.bodyRead, handle.erase⟩, ⟨.bodyWrite, dest.erase⟩] ∧
      t.delivered pipe.source = rest.take limit :: s.delivered pipe.source ∧
      (dest ≠ handle → s.host.WithinReach handle size → t.host.WithinReach handle size) := by
  obtain ⟨sink, hk, hback, hrest⟩ := h.sink
  obtain ⟨body, hb, hopen, rfl⟩ := h.body
  obtain ⟨u, hread, hahead, hfetches⟩ := h.ahead.chunk hlimit hne
  obtain ⟨body', hb', hstate, hcontents, hfar⟩ := hfetches.bodies hb
  have hk' : u.streams.sink? pipe.destination = some sink := (hfetches.sink _).trans hk
  obtain ⟨t, hwrite, hstreams, hhost, hdelivered⟩ : ∃ t : Session MemoryHost E,
      exec (write pipe.destination (rest.take limit) (some pipe.writer)) u = (.ok (), t) ∧
      t.streams = u.streams ∧
      t.host = (u.host.received .bodyWrite dest.erase).putBody dest
        (body'.append (rest.take limit)) ∧
      t.delivered pipe.source = u.delivered pipe.source :=
    ⟨_, exec_write_overBody hk' hback hrest hahead.calm hb' (hstate.trans hopen) (rest.take limit),
      rfl, rfl, delivered_note rfl _ _⟩
  -- the body written to is replaced and the others are as the read has left them
  have hfound : ∀ raw, t.host.bodies.find? raw =
      if raw = dest.raw then some (body'.append (rest.take limit))
        else u.host.bodies.find? raw := by
    intro raw
    rw [hhost, MemoryHost.find?_putBody]
    rfl
  refine ⟨t, fun fuel steps => ?_, ⟨⟨?_, ?_, ?_, ?_⟩, ?_, ⟨sink, ?_, hback, hrest⟩,
    body'.append (rest.take limit), (hfound _).trans (if_pos rfl), hstate.trans hopen, ?_⟩, ?_, ?_,
    fun hapart hwithin => ?_⟩
  · rw [h.drive_pumpSteps, hread, Option.bind_some, pumpFound, hwrite]
  · rw [hhost]
    exact ⟨by simp [hahead.calm.faultless], hahead.calm.chunkSize⟩
  · rw [hhost]
    exact hahead.limit
  · rw [hstreams]
    exact hahead.source
  · obtain ⟨left, hleft, hopen', hunread⟩ := hahead.left
    -- in a circle the octets that are written stand behind those not yet read
    by_cases hself : dest = handle
    · subst hself
      obtain rfl : left = body' := Option.some_inj.mp (hleft.symm.trans hb')
      refine ⟨_, (hfound _).trans (if_pos rfl), hopen', ?_⟩
      rw [if_pos rfl, ← hunread, hfar rfl, MemoryBody.unread_append_advance]
    · rw [if_neg hself, List.append_nil]
      have hother : handle.raw ≠ dest.raw := fun heq => hself (congrArg Handle.mk heq.symm)
      exact ⟨left, ((hfound _).trans (if_neg hother)).trans hleft, hopen', hunread⟩
  · rw [hstreams, hfetches.pipe, h.entry]
  · rw [hstreams, hk']
  · rw [MemoryBody.contents_append, hcontents]
  · rw [hhost, MemoryHost.putBody, MemoryHost.received, Array.toList_push, hfetches.calls,
      List.append_assoc]
    rfl
  · rw [hdelivered, hfetches.delivered]
    rfl
  · have hread := hfetches.withinReach h.ahead.limit hwithin
    have hother : handle.raw ≠ dest.raw := fun heq => hapart (congrArg Handle.mk heq.symm)
    exact ⟨by rw [hhost]; exact hread.intact,
      hread.inReach.congr ((hfound _).trans (if_neg hother)) (by rw [hhost]; rfl)⟩

/-- What a pipe leaves that has carried everything: its host body holds some octets, and the source
says no more than that it has ended. -/
structure Carried (name : PipeId) (pipe : Pipe) (dest : BodyHandle) (taken : Bytes)
    (s : Session MemoryHost E) : Prop where
  entry : ∃ pumping, s.streams.pipe? name = some { pipe with state := .done, pumping }
  source : s.AtEnd pipe.source none
  body : ∃ body, s.host.bodies.find? dest.raw = some body ∧ body.contents.toList = taken ∧
    body.state = if pipe.options.preventClose then .opened else .closed

/-- The end of the host body that a pipe carries into, unless it is to be left open. -/
def closing (options : PipeOptions) (dest : BodyHandle) : List CallRecord :=
  if options.preventClose then [] else [⟨.bodyClose, dest.erase⟩]

/-- A pipe that has found the end closes its destination, unless that is to be left open. -/
theorem closeDestination_overBody {sink : Sink E}
    (hk : s.streams.sink? pipe.destination = some sink) (hback : sink.backing = .body dest)
    (hrest : sink.AtRest .writable (some pipe.writer)) (hc : s.host.Calm)
    (hb : s.host.bodies.find? dest.raw = some body) (hopen : body.state = .opened) :
    ∃ t, (closeDestination pipe : Step MemoryHost E PipeState) s = (.done, t) ∧
      (∀ id, t.streams.source? id = s.streams.source? id) ∧
      (∀ name, t.streams.pipe? name = s.streams.pipe? name) ∧
      (∃ body', t.host.bodies.find? dest.raw = some body' ∧ body'.contents = body.contents ∧
        body'.state = if pipe.options.preventClose then .opened else .closed) ∧
      t.host.calls.toList = s.host.calls.toList ++ closing pipe.options dest ∧
      (∀ id, t.delivered id = s.delivered id) ∧ t.host.overrun = s.host.overrun := by
  cases hkept : pipe.options.preventClose with
  | true =>
    refine ⟨s, closeDestination_of_prevented hkept, fun _ => rfl, fun _ => rfl,
      ⟨body, hb, rfl, hopen⟩, ?_, fun _ => rfl, rfl⟩
    simp [closing, hkept]
  | false =>
    have hclose := closeDestination_eq (s := s) hkept
    rw [exec_close_overBody hk hback hrest hc hb hopen] at hclose
    refine ⟨_, hclose, fun _ => rfl, fun _ => rfl, ⟨{ body with state := .closed }, ?_, rfl, rfl⟩,
      ?_, fun id => delivered_note rfl id _, rfl⟩
    · simp [MemoryHost.find?_putBody]
    · simp [closing, hkept, MemoryHost.putBody, MemoryHost.received]

/-- The end is read, and the pipe is finished. -/
theorem Carries.done (h : Carries handle size limit name pipe dest [] taken s)
    (hrunning : pipe.isRunning = true) (hwithin : s.host.WithinReach handle size) :
    ∃ t, (∀ fuel steps, drive (pumpSteps (fuel + 4) name pipe steps) s = some (steps + 1, t)) ∧
      Carried name pipe dest taken t ∧
      t.host.calls.toList =
        s.host.calls.toList ++ ⟨.bodyRead, handle.erase⟩ :: closing pipe.options dest ∧
      t.delivered pipe.source = s.delivered pipe.source ∧ t.host.overrun = none := by
  obtain ⟨sink, hk, hback, hrest⟩ := h.sink
  obtain ⟨body, hb, hopen, rfl⟩ := h.body
  obtain ⟨u, hread, ⟨source, hs, hstarted, hclosed, hl⟩, hfetches⟩ := h.ahead.done
  obtain ⟨body', hb', hstate, hcontents, -⟩ := hfetches.bodies hb
  obtain ⟨v, hclose, hsources, hpipes, ⟨body'', hb'', hcontents', hstate'⟩, hcalls,
      hdelivered, hover⟩ :=
    closeDestination_overBody ((hfetches.sink _).trans hk) hback hrest
      (hfetches.calm h.ahead.calm) hb' (hstate.trans hopen)
  have hentry : v.streams.pipe? name = some { pipe with pumping := true } := by
    rw [hpipes, hfetches.pipe, h.entry]
  have hsource : v.streams.source? pipe.source = some source := by
    rw [hsources, hs]
  refine ⟨pipeFinished name .done v, fun fuel steps => ?_,
    ⟨⟨true, ?_⟩, ⟨{ Registry.unlockReader pipe.reader source with pipedTo := none },
      ?_, ?_, ?_, ?_⟩, body'', hb'', by rw [hcontents', hcontents], hstate'⟩, ?_, ?_,
    hover.trans (hfetches.withinReach h.ahead.limit hwithin).intact⟩
  · rw [h.drive_pumpSteps, hread, Option.bind_some, pumpFound, hclose]
  · rw [pipeFinished, streams_mapStreams, Registry.pipe?_finishPipe .done hentry hrunning,
      if_pos rfl]
  · rw [pipeFinished, streams_mapStreams, Registry.source?_finishPipe .done hentry hrunning,
      if_pos rfl, hsource, Option.map_some]
  · simp [Registry.unlockReader, hl, hstarted]
  · simp [Registry.unlockReader, hl, hclosed]
  · simp [Registry.unlockReader, hl]
  · rw [pipeFinished, host_mapStreams, hcalls, hfetches.calls, List.append_assoc]
    rfl
  · exact (hdelivered _).trans hfetches.delivered

/-- What a pipe calls that carries some chunks from one host body into another: two calls for each,
and then the end is read. -/
def conveyance (handle dest : BodyHandle) (options : PipeOptions) (chunks : List Bytes) :
    List CallRecord :=
  (chunks.flatMap fun _ => [⟨.bodyRead, handle.erase⟩, ⟨.bodyWrite, dest.erase⟩]) ++
    ⟨.bodyRead, handle.erase⟩ :: closing options dest

/-- The pipe carries everything over, chunk by chunk. By induction on what is left. -/
theorem Carries.pumpSteps (hlimit : 0 < limit) (hrunning : pipe.isRunning = true)
    (h : Carries handle size limit name pipe dest rest taken s) (hapart : dest = handle → rest = [])
    (hwithin : s.host.WithinReach handle size) (steps : ℕ) :
    ∃ total t, Settles (fun fuel => drive (pumpSteps fuel name pipe steps) s) (total, t) ∧
      Carried name pipe dest (taken ++ rest) t ∧
      t.host.calls.toList =
        s.host.calls.toList ++ conveyance handle dest pipe.options (slices limit rest) ∧
      t.delivered pipe.source = (slices limit rest).reverse ++ s.delivered pipe.source ∧
      t.host.overrun = none := by
  induction hlen : rest.length using Nat.strong_induction_on generalizing s rest taken steps with
  | _ length ih =>
  subst hlen
  by_cases hne : rest = []
  · subst hne
    obtain ⟨t, hdrive, hcarried, hcalls, hdelivered, hover⟩ := h.done hrunning hwithin
    refine ⟨steps + 1, t,
      ⟨4, fun fuel hfuel => ?_⟩, by rwa [List.append_nil], by simpa [conveyance], ?_,
      hover⟩
    · obtain ⟨more, rfl⟩ := Nat.exists_eq_add_of_le' hfuel
      exact hdrive more steps
    · simpa using hdelivered
  · have hother : dest ≠ handle := fun heq => hne (hapart heq)
    obtain ⟨t, hdrive, hcarries, hcalls, hdelivered, hkept⟩ := h.chunk hlimit hne
    rw [if_neg hother, List.append_nil] at hcarries
    have hshorter : (rest.drop limit).length < rest.length := by
      have hpos := List.length_pos_of_ne_nil hne
      rw [List.length_drop]
      omega
    obtain ⟨total, u, ⟨bound, hlater⟩, hcarried, hcalls', hdelivered', hover⟩ :=
      ih _ hshorter hcarries (fun heq => absurd heq hother) (hkept hother hwithin) (steps + 1) rfl
    refine ⟨total, u, ⟨bound + 4, fun fuel hfuel => ?_⟩, ?_, ?_, ?_, hover⟩
    · obtain ⟨more, rfl⟩ := Nat.exists_eq_add_of_le' (show 4 ≤ fuel by omega)
      exact (hdrive more steps).trans (hlater (more + 3) (by omega))
    · rwa [List.append_assoc, List.take_append_drop] at hcarried
    · rw [hcalls', hcalls, slices_of_ne_nil hlimit hne]
      simp [conveyance]
    · rw [hdelivered', hdelivered, slices_of_ne_nil hlimit hne]
      simp

/-- A pipe from a host body into itself finds ever more. By induction on the fuel. -/
theorem Carries.endless (hlimit : 0 < limit)
    (h : Carries handle size limit name pipe handle rest taken s) (hne : rest ≠ [])
    (fuel steps : ℕ) :
    drive (Session.pumpSteps fuel name pipe steps) s = none := by
  induction fuel using Nat.strong_induction_on generalizing s rest taken steps with
  | _ fuel ih =>
  match fuel with
  | 0 => rfl
  | 1 | 2 | 3 => rw [h.drive_pumpSteps, h.ahead.starved (by decide), Option.bind_none]
  | fuel + 4 =>
    obtain ⟨t, hdrive, hcarries, -⟩ := h.chunk hlimit hne
    rw [hdrive, ih (fuel + 3) (by omega) hcarries]
    simp [hne, Nat.ne_of_gt hlimit]

/-- The pipe is no longer driven. -/
theorem Carried.parked (h : Carried name pipe dest taken s) :
    (mapStreams (Session.parked name) s).streams.pipe? name =
        some { pipe with state := .done, pumping := false } ∧
      (mapStreams (Session.parked name) s).AtEnd pipe.source none := by
  obtain ⟨pumping, hentry⟩ := h.entry
  have hparked : (mapStreams (Session.parked name) s).streams =
      s.streams.setPipe name { pipe with state := .done, pumping := false } := by
    rw [streams_mapStreams, Session.parked, hentry]
  refine ⟨?_, ?_⟩
  · rw [hparked, Registry.pipe?_setPipe, if_pos rfl, hentry, Option.map_some]
  · obtain ⟨source, hs, hend⟩ := h.source
    exact ⟨source, by rw [hparked]; exact hs, hend⟩

end Carries

/-- A pipe is opened between a stream that is ahead and a sink over an open host body, and is
driven. -/
theorem Ahead.opensPipe {destination : WritableId} {dest : BodyHandle} {sink : Sink E}
    (h : s.Ahead id handle size limit none rest) (wf : s.streams.WellFormed)
    (hk : s.streams.sink? destination = some sink) (hback : sink.backing = .body dest)
    (hrest : sink.AtRest .writable none) (hb : s.host.bodies.find? dest.raw = some body)
    (hopen : body.state = .opened) (options : PipeOptions) :
    ∃ name pipe t, pipe.source = id ∧ pipe.options = options ∧ pipe.isRunning = true ∧
      Carries handle size limit name pipe dest rest body.contents.toList t ∧ t.host = s.host ∧
      t.delivered id = s.delivered id ∧ attempt (pipeTo 0 id destination options) s = none ∧
      ∀ fuel, attempt (pipeTo (fuel + 1) id destination options) s =
        (drive (pumpSteps fuel name pipe 0) t).map fun r =>
          (.ok name, mapStreams (parked name) r.2) := by
  obtain ⟨source, hs, hd, hl⟩ := h.source
  obtain ⟨pipe, hpipe⟩ : ∃ pipe, pipe = s.streams.nextPipe id destination options := ⟨_, rfl⟩
  obtain ⟨name, hname⟩ : ∃ name : PipeId, name = ⟨s.streams.pipes.nextKey⟩ := ⟨_, rfl⟩
  obtain ⟨t, ht⟩ : ∃ t : Session MemoryHost E, t =
      mapStreams (fun streams => streams.setPipe name { pipe with pumping := true })
        { s with streams := s.streams.withPipe id destination source sink options } := ⟨_, rfl⟩
  have hopened := Registry.exec_openPipe_eq options hs hl hk hrest.lock
  have hentry := Registry.pipe?_withPipe wf id destination source sink options name
  have hsource := Registry.source?_withPipe destination sink options hs id
  have hsink := Registry.sink?_withPipe id source options hk destination
  rw [if_pos hname, ← hpipe] at hentry
  rw [if_pos rfl] at hsource hsink
  have hkept : t.streams.source? id =
      (s.streams.withPipe id destination source sink options).source? id := by rw [ht]; rfl
  have hrunning : pipe.isRunning = true := by rw [hpipe]; rfl
  have hsource' : pipe.source = id := by rw [hpipe]; rfl
  refine ⟨name, pipe, t, hsource', by rw [hpipe]; rfl, hrunning, ⟨?_, ?_, ?_, ?_⟩, by rw [ht]; rfl,
    by rw [ht]; rfl, ?_, fun fuel => ?_⟩
  · rw [hsource']
    exact h.of_source (hkept.trans hsource)
      ⟨hd.backing, hd.started, hd.uncanceled, hd.resting, hd.unasked, hd.isOpen, hd.empty⟩
        (by rw [hpipe]; rfl) (by rw [ht]; rfl)
  · rw [ht, streams_mapStreams, Registry.pipe?_setPipe, if_pos rfl, hentry, Option.map_some]
  · refine ⟨{ sink with writerLock := some ⟨s.streams.nextToken + 1⟩ }, ?_, hback,
      ⟨hrest.started, hrest.pending, hrest.idle, hrest.unaborted, hrest.state, by rw [hpipe]; rfl⟩⟩
    rw [ht, hpipe]
    exact hsink
  · exact ⟨body, by rw [ht]; exact hb, hopen, rfl⟩
  · rw [attempt_pipeTo, hopened]
    rfl
  · have hidle : (!pipe.isRunning || pipe.pumping) = false := by rw [hpipe]; rfl
    rw [attempt_pipeTo, hopened, ← hname]
    simp only [drive_pumpPipe, hentry, hidle, Bool.false_eq_true, if_false, ← ht, Option.map_map]
    rfl

/-- A sink over a host body takes in whatever is written to it, and nobody holds it. -/
structure TakesIn (destination : WritableId) (dest : BodyHandle) (body : MemoryBody)
    (s : Session MemoryHost E) : Prop where
  sink : ∃ sink, s.streams.sink? destination = some sink ∧ sink.backing = .body dest ∧
    sink.controller.state = .writable ∧ sink.writerLock = none
  found : s.host.bodies.find? dest.raw = some body
  isOpen : body.state = .opened

/-- A stream over a host body gives some chunks one by one and then the end, for one call of the
host each, and nothing more is asked of the host. -/
structure GivesChunks (id : ReadableId) (handle : BodyHandle) (chunks : List Bytes)
    (s : Session MemoryHost E) : Prop where
  /-- So many reads, also more than there are chunks. -/
  read : ∀ source token, s.streams.source? id = some source →
    Registry.admits source.readerLock token = .ok () → ∀ times,
      ∃ t, Settles (fun fuel => drive (Session.readTimes fuel id token times) s)
          ((chunks.take times).map (fun chunk => .ok (.chunk chunk)) ++
            List.replicate (times - chunks.length) (.ok .done), t) ∧
        t.host.calls.toList = s.host.calls.toList ++
          List.replicate (min times (chunks.length + 1)) ⟨.bodyRead, handle.erase⟩ ∧
        t.delivered id = (chunks.take times).reverse ++ s.delivered id ∧ t.host.overrun = none
  /-- A body whose stream it is. -/
  drain : s.streams.isLocked id = false → ∀ (body streamed : Body) (before : Session MemoryHost E),
    body.used = false →
    exec (body.stream : Action MemoryHost E BodyError _) before = (.ok (id, streamed), s) →
    ∀ decoders target,
      ∃ t, Settles (fun fuel => drive (body.drainWith decoders fuel target) before)
          ((Representation.decodeWith decoders chunks.flatten target, streamed.markUsed), t) ∧
        t.host.calls.toList = s.host.calls.toList ++
          List.replicate (chunks.length + 1) ⟨.bodyRead, handle.erase⟩ ∧
        t.delivered id = chunks.reverse ++ s.delivered id ∧ t.Exhausted id ∧ t.host.overrun = none
  /-- A pipe into another host body, or into the same where nothing is left to read. -/
  pipe : s.streams.isLocked id = false → ∀ destination dest body, s.TakesIn destination dest body →
    (dest = handle → chunks = []) → ∀ options,
      ∃ name t, Settles (fun fuel => attempt (pipeTo fuel id destination options) s) (.ok name, t) ∧
        t.streams.pipeState? name = some .done ∧
        (∃ body', t.host.bodies.find? dest.raw = some body' ∧
          body'.contents.toList = body.contents.toList ++ chunks.flatten ∧
          body'.state = if options.preventClose then .opened else .closed) ∧
        t.host.calls.toList = s.host.calls.toList ++ conveyance handle dest options chunks ∧
        t.delivered id = chunks.reverse ++ s.delivered id ∧ t.Exhausted id ∧ t.host.overrun = none
  /-- A pipe back into the host body finds what it has written, and there is no end to read to. -/
  circle : s.streams.isLocked id = false → chunks ≠ [] → ∀ destination body,
    s.TakesIn destination handle body → ∀ options fuel,
      attempt (pipeTo fuel id destination options) s = none

/-- A sink over a host body that takes writes has nothing to do between two operations. -/
theorem TakesIn.rests {destination : WritableId} {dest : BodyHandle}
    (h : s.TakesIn destination dest body) (hr : s.Resting) :
    ∃ sink, s.streams.sink? destination = some sink ∧ sink.backing = .body dest ∧
      sink.AtRest .writable none := by
  obtain ⟨sink, hk, hback, hstate, hlock⟩ := h.sink
  have hi : sink.Idle := hr.composed.idle hk
  exact ⟨sink, hk, hback, hi.started hstate, hi.pending, hi.inFlight,
    hi.abortRequested, hstate, hlock⟩

/-- A pipe into another host body carries everything over. -/
theorem Ahead.pipe (h : s.Ahead id handle size limit none rest) (hlimit : 0 < limit)
    (hwithin : s.host.WithinReach handle size) (hr : s.Resting) {destination : WritableId}
    {dest : BodyHandle} (hd : s.TakesIn destination dest body)
    (hapart : dest = handle → rest = []) (options : PipeOptions) :
    ∃ name t, Settles (fun fuel => attempt (pipeTo fuel id destination options) s) (.ok name, t) ∧
      t.streams.pipeState? name = some .done ∧
      (∃ body', t.host.bodies.find? dest.raw = some body' ∧
        body'.contents.toList = body.contents.toList ++ rest ∧
        body'.state = if options.preventClose then .opened else .closed) ∧
      t.host.calls.toList = s.host.calls.toList ++ conveyance handle dest options
        (slices limit rest) ∧
      t.delivered id = (slices limit rest).reverse ++ s.delivered id ∧ t.Exhausted id ∧
      t.host.overrun = none := by
  obtain ⟨sink, hk, hback, hrest⟩ := hd.rests hr
  obtain ⟨name, pipe, u, rfl, rfl, hrunning, hcarries, hhost, hdelivered, -, hrun⟩ :=
    h.opensPipe hr.wellFormed hk hback hrest hd.found hd.isOpen options
  obtain ⟨total, v, ⟨bound, hdrive⟩, hcarried, hcalls, hdelivered', hover⟩ :=
    hcarries.pumpSteps hlimit hrunning hapart (hhost ▸ hwithin) 0
  obtain ⟨hentry, hend⟩ := hcarried.parked
  refine ⟨name, mapStreams (parked name) v, ⟨bound + 1, fun fuel hfuel => ?_⟩, ?_,
    hcarried.body, ?_, ?_, hend.exhausted, hover⟩
  · obtain ⟨more, rfl⟩ := Nat.exists_eq_add_of_le' (show 1 ≤ fuel by omega)
    have hdone : drive (pumpSteps more name pipe 0) u = some (total, v) := hdrive more (by omega)
    exact (hrun more).trans (congrArg (Option.map _) hdone)
  · rw [Registry.pipeState?, hentry]
    rfl
  · rw [host_mapStreams, hcalls, hhost]
  · exact hdelivered'.trans (congrArg _ hdelivered)

/-- A pipe back into the host body never comes to an end. -/
theorem Ahead.circles (h : s.Ahead id handle size limit none rest) (hlimit : 0 < limit)
    (hr : s.Resting) (hne : rest ≠ []) {destination : WritableId}
    (hd : s.TakesIn destination handle body) (options : PipeOptions) (fuel : ℕ) :
    attempt (pipeTo fuel id destination options) s = none := by
  obtain ⟨sink, hk, hback, hrest⟩ := hd.rests hr
  obtain ⟨name, pipe, u, -, -, -, hcarries, -, -, hnone, hrun⟩ :=
    h.opensPipe hr.wellFormed hk hback hrest hd.found hd.isOpen options
  match fuel with
  | 0 => exact hnone
  | fuel + 1 => rw [hrun, hcarries.endless hlimit hne, Option.map_none]

/-- A stream that nobody has read gives all that stands in its host body. -/
theorem Ahead.gives (h : s.Ahead id handle size limit source.readerLock rest) (hlimit : 0 < limit)
    (hwithin : s.host.WithinReach handle size) (hs : s.streams.source? id = some source)
    (hfresh : source.disturbed = false) (hr : s.Resting) :
    s.GivesChunks id handle (slices limit rest) := by
  have hcut := cutInto_slices hlimit rest
  have hfree : s.streams.isLocked id = false → s.Ahead id handle size limit none rest := by
    intro hlocked
    have hl : source.readerLock = none := by simpa [Registry.isLocked, hs] using hlocked
    rwa [hl] at h
  have hnil : slices limit rest = [] ↔ rest = [] :=
    ⟨fun hnil => by rw [← hcut.whole, hnil, List.flatten_nil], fun hnil => by rw [hnil, slices_nil]⟩
  refine ⟨?_, ?_, ?_, ?_⟩
  · intro found token hfound hadmits times
    obtain rfl : source = found := Option.some_inj.mp (hs.symm.trans hfound)
    obtain ⟨t, hreads, hcalls, hdelivered, hwithin'⟩ := h.readTimes hadmits hlimit hwithin times
    exact ⟨t, hreads, hcalls, hdelivered, hwithin'.intact⟩
  · intro hlocked body streamed before hused hstream decoders target
    have huntouched : s.streams.isDisturbed id = false := by simp [Registry.isDisturbed, hs, hfresh]
    obtain ⟨t, hdrain, hend, hcalls, hdelivered, hwithin'⟩ :=
      (hfree hlocked).drain hlimit hwithin huntouched hused hstream decoders target
    rw [hcut.whole]
    exact ⟨t, hdrain, hcalls, hdelivered, hend.exhausted, hwithin'.intact⟩
  · intro hlocked destination dest body hd hapart options
    rw [hcut.whole]
    exact (hfree hlocked).pipe hlimit hwithin hr hd (fun heq => hnil.mp (hapart heq)) options
  · intro hlocked hne destination body hd options fuel
    exact (hfree hlocked).circles hlimit hr (fun hrest => hne (hnil.mpr hrest)) hd options fuel

end Session

namespace Client

/-- A new source over a host body. -/
def withSource (client : Client MemoryHost E) (handle : BodyHandle) :
    ReadableId × Client MemoryHost E :=
  ((client.session.streams.bodySource handle).1,
    client.withSession (client.session.mapStreams fun streams => (streams.bodySource handle).2))

variable {uses : MemoryHost → List UInt32 → MemoryHost → Prop} {host : MemoryHost} {env : E}
variable {config : StreamConfig} {client later : Client MemoryHost E} {handle : BodyHandle}

theorem LeadsTo.withSource (h : LeadsTo uses NoneBack (new host env config) client)
    (handle : BodyHandle) :
    LeadsTo uses NoneBack (new host env config) (client.withSource handle).2 := by
  have wf := (h.orderly (orderly_new host env config)).wellFormed
  have hages : client.NoneBack (client.withSource handle).2 :=
    ⟨wf.sources.ages_insert _, .refl _, .refl _, .refl _⟩
  exact h.step (.operate (.bodySource handle) 0 rfl) hages

theorem source?_withSource (wf : client.session.streams.WellFormed) (handle : BodyHandle) :
    (client.withSource handle).2.session.streams.source? (client.withSource handle).1 =
      some { backing := .body handle client.session.streams.config.bodyChunkSize
             controller := { highWaterMark := client.session.streams.config.bodyHighWaterMark } } :=
  (Registry.source?_addSource wf _ _).trans (if_pos rfl)

/-- A source keeps the host body and the chunk size that it has been made with. -/
theorem backing_withSource (hclient : LeadsTo uses NoneBack (new host env config) client)
    (hlater : LeadsTo uses NoneBack (client.withSource handle).2 later) {source : Source E}
    (hs : later.session.streams.source? (client.withSource handle).1 = some source) :
    source.backing = .body handle (max config.bodyChunkSize 1) := by
  have hmade := hclient.withSource handle
  have wf := (hclient.orderly (orderly_new host env config)).wellFormed
  have hlasts := hlater.calls.lasts (hmade.calls.sound (sound_new host env config))
  have hkey := source?_withSource wf handle
  obtain ⟨made, hfound, hback⟩ := hlasts.sources.back (SlotMap.issued_of_get? hkey) hs
  obtain rfl := Option.some_inj.mp (hkey.symm.trans hfound)
  rw [hback, hclient.config_eq (Session.resting_new host env config)]
  rfl

/-- A stream over a host body asks the host once for each chunk and once for the end. For all
settings, whatever has been done before it is made and, short of reading it, afterwards: making it
calls nothing, and whoever reads it to the end, by reads, by draining a body or through a pipe into
a host body, is given what has not been read of the body in chunks of one size, all full but the
last, for one call each. One more call finds the end, and no read after that makes a call.

The size is the smaller of what the host gives at once and what the settings ask for, of which zero
counts as one. The high-water mark makes no difference. Two conditions are left: the place where a
read of that size ends can be named by a word, also for the read that finds the end, and a pipe does
not lead back into the host body. One that does while octets are left has no outcome: it reads again
what it has written. -/
theorem sources_ask_once_per_chunk (hclient : LeadsTo uses NoneBack (new host env config) client)
    (hlater : LeadsTo uses NoneBack (client.withSource handle).2 later) {source : Source E}
    (hs : later.session.streams.source? (client.withSource handle).1 = some source)
    (hfresh : source.disturbed = false) (hcalm : later.session.host.Calm) {octets : Bytes}
    (hleft : later.session.host.HasUnread handle octets)
    (hwithin : later.session.host.WithinReach handle (max config.bodyChunkSize 1)) :
    (client.withSource handle).2.session.host = client.session.host ∧
      ∃ chunks,
        CutInto (min (max config.bodyChunkSize 1) later.session.host.chunkSize).toNat octets
          chunks ∧
        later.session.GivesChunks (client.withSource handle).1 handle chunks := by
  have hleads := (hclient.withSource handle).trans hlater
  have hback := backing_withSource hclient hlater hs
  have hpristine := hleads.pristine (fun hages => hages.sources) (Registry.pristine_new config)
    (orderly_new host env config)
  have hlimit := later.session.host.readLimit_pos (UInt64.max_one_pos config.bodyChunkSize)
    hcalm.chunkSize
  have hahead : later.session.Ahead (client.withSource handle).1 handle (max config.bodyChunkSize 1)
      (later.session.host.readLimit (max config.bodyChunkSize 1)) source.readerLock octets :=
    ⟨hcalm, rfl, ⟨source, hs, (hpristine.untouched_body hs hback hfresh).dormant hback, rfl⟩, hleft⟩
  exact ⟨rfl, _, cutInto_slices hlimit octets,
    hahead.gives hlimit hwithin hs hfresh hleads.coupled_of_new.resting⟩

/-- Five octets, two at a time: three chunks for four calls, whether they are read, drained or piped
into another host body. -/
theorem sources_ask_once_per_chunk_five :
    ∃ client later : Client MemoryHost Unit,
      LeadsTo (fun _ _ _ => True) NoneBack
        (new ((({} : MemoryHost).addBody [97, 98, 99, 100, 101]).2.allocateBody .writable).2 ()
          { bodyChunkSize := 2 }) client ∧
      LeadsTo (fun _ _ _ => True) NoneBack (client.withSource ⟨1⟩).2 later ∧
      (∃ t, Settles (fun fuel =>
            drive (Session.readTimes fuel (client.withSource ⟨1⟩).1 none 5) later.session)
          ([.ok (.chunk [97, 98]), .ok (.chunk [99, 100]), .ok (.chunk [101]), .ok .done,
            .ok .done], t) ∧
        t.host.calls.toList = List.replicate 4 ⟨.bodyRead, some ⟨.body, 1⟩⟩) ∧
      (∃ body t, Settles (fun fuel => drive (Body.drain fuel body .bytes) later.session)
          ((.ok (.bytes [97, 98, 99, 100, 101]), body.markUsed), t) ∧
        t.host.calls.toList = List.replicate 4 ⟨.bodyRead, some ⟨.body, 1⟩⟩) ∧
      ∃ destination name t, Settles (fun fuel => attempt
          (Session.pipeTo fuel (client.withSource ⟨1⟩).1 destination {}) later.session)
            (.ok name, t) ∧
        (∃ body, t.host.bodies.find? 2 = some body ∧
          body.contents.toList = [97, 98, 99, 100, 101] ∧ body.state = .closed) ∧
        t.host.calls.toList.map CallRecord.operation =
          [.bodyRead, .bodyWrite, .bodyRead, .bodyWrite, .bodyRead, .bodyWrite, .bodyRead,
            .bodyClose] := by
  obtain ⟨host, hhost⟩ : ∃ host, host =
      ((({} : MemoryHost).addBody [97, 98, 99, 100, 101]).2.allocateBody .writable).2 := ⟨_, rfl⟩
  have hcalm : host.Calm := by
    rw [hhost]
    exact ⟨rfl, by decide⟩
  have hbody : host.bodies.find? 1 = some (.readable [97, 98, 99, 100, 101]) ∧
      host.bodies.find? 2 = some .writable ∧ host.calls = #[] ∧
      (min 2 host.chunkSize).toNat = 2 := by
    rw [hhost]
    decide +kernel
  have hwithin : host.WithinReach ⟨1⟩ 2 := by
    refine ⟨by rw [hhost]; rfl, fun body hfound => ?_⟩
    obtain rfl := Option.some_inj.mp (hbody.1.symm.trans hfound)
    rw [show host.readLimit 2 = 2 from hbody.2.2.2]
    decide
  rw [← hhost]
  -- from here on the host is known by its two bodies, its log and its limit alone
  clear hhost
  obtain ⟨hfirst, hsecond, hcalls, hsize⟩ := hbody
  obtain ⟨client, hnew⟩ : ∃ client :
      Client MemoryHost Unit, client = new host () { bodyChunkSize := 2 } :=
    ⟨_, rfl⟩
  have hclient : LeadsTo (fun _ _ _ => True) NoneBack (new host () { bodyChunkSize := 2 }) client :=
    hnew ▸ .refl
  have wf : client.session.streams.WellFormed :=
    (hclient.orderly (orderly_new host () _)).wellFormed
  obtain ⟨later, hmade⟩ : ∃ later, later = (client.withSource ⟨1⟩).2.withSession
      ((client.withSource ⟨1⟩).2.session.mapStreams fun streams => (streams.bodySink ⟨2⟩).2) :=
        ⟨_, rfl⟩
  have hlater : LeadsTo (fun _ _ _ => True) NoneBack (client.withSource ⟨1⟩).2 later := by
    rw [hmade]
    exact .step .refl (.operate (.bodySink ⟨2⟩) 0 rfl) ⟨.refl _, wf.sinks.ages_insert _,
      .refl _, .refl _⟩
  have hs : later.session.streams.source? (client.withSource ⟨1⟩).1 =
      some { backing := .body ⟨1⟩ client.session.streams.config.bodyChunkSize
             controller := { highWaterMark := client.session.streams.config.bodyHighWaterMark }
               } := by
    rw [hmade]
    exact source?_withSource wf ⟨1⟩
  have hkept : later.session.host = host := by rw [hmade, hnew]; rfl
  -- the general theorem says which chunks there are; two at a time there are three
  obtain ⟨-, chunks, hcut, hgives⟩ :=
    sources_ask_once_per_chunk hclient hlater hs rfl (hkept ▸ hcalm)
    ⟨.readable [97, 98, 99, 100, 101], by rw [hkept]; exact hfirst, by decide, rfl⟩
      (hkept ▸ hwithin)
  rw [show max (2 : UInt64) 1 = 2 from rfl, hkept, hsize] at hcut
  obtain rfl : chunks = [[97, 98], [99, 100], [101]] :=
    (hcut.eq_slices (by decide)).trans (by decide)
  have hnone : later.session.host.calls.toList = [] := by rw [hkept, hcalls]
  have hfree : later.session.streams.isLocked (client.withSource ⟨1⟩).1 = false := by
    simp [Registry.isLocked, hs]
  obtain ⟨body, hbody⟩ : ∃ body : Body, body =
      { owner := ⟨0⟩, handle := none, readable := some (client.withSource ⟨1⟩).1 } := ⟨_, rfl⟩
  have hstream : exec (body.stream : Action MemoryHost Unit BodyError _) later.session =
      (.ok ((client.withSource ⟨1⟩).1, body), later.session) := by
    simp [hbody, Body.stream, exec_bind, Registry.containsReadable, hs]
  obtain ⟨t, hreads, hread, -⟩ := hgives.read _ none hs rfl 5
  obtain ⟨u, hdrains, hdrain, -⟩ :=
    hgives.drain hfree body body later.session (by rw [hbody]) hstream
    .standard .bytes
  have htakes : later.session.TakesIn ((client.withSource ⟨1⟩).2.session.streams.bodySink ⟨2⟩).1 ⟨2⟩
      .writable := by
    rw [hmade]
    exact ⟨⟨_, (Registry.sink?_addSink (wf.addSource _) _ _).trans (if_pos rfl), rfl, rfl, rfl⟩,
      (by rw [hnew]; exact hsecond), rfl⟩
  obtain ⟨name, v, hpipes, -, hcarried, hpipe, -⟩ := hgives.pipe hfree _ _ _ htakes (by decide) {}
  rw [hnone, List.nil_append] at hread hdrain hpipe
  exact ⟨client, later, hclient, hlater, ⟨t, hreads, hread⟩, ⟨body, u, hdrains, hdrain⟩, _,
    name, v, hpipes, hcarried, by rw [hpipe]; rfl⟩

end Client

namespace Session

/-- A stream over a host body of one octet that is open, and a sink over the same body. -/
def roundAbout (size : UInt64) : Session MemoryHost Unit where
  host := ((MemoryHost.withChunkSize size).allocateBody (MemoryBody.writable.append [104])).2
  env := ()
  streams := (((Registry.new { bodyChunkSize := size }).bodySource ⟨1⟩).2.bodySink ⟨1⟩).2

/-- A pipe from the stream to the sink never comes to an end, and reads that are as long as a word
can say go too far where they are to find the end. -/
theorem roundAbout_endless :
    (∀ fuel, attempt (pipeTo fuel ⟨⟨0, 0⟩⟩ ⟨⟨0, 0⟩⟩ {}) (roundAbout 1) = none) ∧
      Settles (fun fuel =>
        (drive (readTimes fuel ⟨⟨0, 0⟩⟩ none 2) (roundAbout 0xFFFFFFFFFFFFFFFF)).map
        fun r => r.2.host.overrun) (some ⟨1⟩) := by
  refine ⟨fun fuel => ?_, ?_⟩
  · have hnew : (roundAbout 1).Resting :=
      (LeadsTo.operate (.bodySink ⟨1⟩) 0 rfl).resting
        ((LeadsTo.operate (.bodySource ⟨1⟩) 0 rfl).resting (resting_new _ _ _))
    have hahead : (roundAbout 1).Ahead ⟨⟨0, 0⟩⟩ ⟨1⟩ 1 1 none [104] :=
      ⟨⟨rfl, by decide⟩, rfl, ⟨_, rfl, ⟨rfl, rfl, rfl, rfl, rfl, ⟨rfl, rfl⟩, rfl⟩, rfl⟩, _, rfl,
        by decide, rfl⟩
    exact hahead.circles (by decide) hnew (by decide)
      (⟨⟨_, rfl, rfl, rfl, rfl⟩, rfl, rfl⟩ : (roundAbout 1).TakesIn ⟨⟨0, 0⟩⟩ ⟨1⟩ _) {} fuel
  · have hends : (drive (readTimes 8 ⟨⟨0, 0⟩⟩ none 2) (roundAbout 0xFFFFFFFFFFFFFFFF)).map
        (fun r => r.2.host.overrun) = some (some ⟨1⟩) := by decide +kernel
    exact Extends.settles (fun fuel => extends_readTimes fuel _ _ _) hends

end Session

end EdgeStreams
