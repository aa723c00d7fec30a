import EdgeStreams.Proofs.Body.OneShot
import EdgeStreams.Proofs.Client.Released
import EdgeStreams.Proofs.Session.Creating

/-!
# Pipes that are refused

A pipe locks its source, then its destination. If either cannot be locked the pipe is refused: a
lock that has been taken is given back, and nothing has changed but the number of the next token. A
body that is to be piped through a new transform stream lets go of that stream again where the pipe
is refused, and stays what it was.

## Main definitions

- `Session.OnlyNumbers`: nothing has changed but the number of the next token
- `Session.Discards`: a transform stream has been made and let go of again
- `Registry.Alike`: two registries in which every name finds the same
- `Client.Withdraws`: a body is what it was, and the next sweep leaves nothing of what was made for
  it

## Main statements

- `Session.onlyNumbers_pipeTo`, `Session.onlyNumbers_pipeThrough`: a refused pipe
- `Session.Discards.swept`: a sweep takes out the transform stream, and what it would have taken out
  before
- `Body.withdraws_pipeThroughIdentity`: a body whose pipe is refused
- `refused_pipes_leave_no_trace`: all of them, whatever clients have done before

## Design notes

Nothing is asked of the ends of a pipe: they may live or not, be locked or not, and be the two
halves of one transform stream. A body that has no stream yet is given one before it is piped, and
that cannot be locked; so where the pipe is refused the body has had its stream all along.
-/

namespace EdgeStreams

variable {H E : Type}

namespace Session

variable {s t : Session H E} {fuel : Nat} {source : ReadableId} {error : StreamError}

/-! ### Refused pipes -/

/-- Nothing has changed but the number that the next token gets. -/
def OnlyNumbers (s t : Session H E) : Prop :=
  ∃ number, s.streams.nextToken ≤ number ∧
    t = { s with streams := { s.streams with nextToken := number } }

/-- Where a pipe between them is refused, its ends are as they were, and so is everything else. -/
theorem onlyNumbers_pipeTo [Host H] {destination : WritableId} {options : PipeOptions}
    (h : attempt (pipeTo fuel source destination options) s = some (.error error, t)) :
    s.OnlyNumbers t := by
  rw [attempt_pipeTo] at h
  rcases Registry.exec_openPipe_cases s.streams source destination options with
    ⟨_, _, -, -, -, -, hopen⟩ | ⟨_, streams', hopen, hgives⟩
  · rw [hopen] at h
    obtain ⟨r, -, hr⟩ := Option.map_eq_some_iff.mp h
    cases hr
  · rw [hopen] at h
    cases h
    obtain ⟨number, hle, rfl⟩ := hgives.eq
    exact ⟨number, hle, rfl⟩

theorem onlyNumbers_pipeThrough [Host H] {stream : TransformStream} {options : PipeOptions}
    (h : attempt (pipeThrough fuel source stream options) s = some (.error error, t)) :
    s.OnlyNumbers t := by
  rw [attempt_pipeThrough] at h
  obtain ⟨⟨result, piped⟩, hpiped, hr⟩ := Option.map_eq_some_iff.mp h
  cases result with
  | error => cases hr; exact onlyNumbers_pipeTo hpiped
  | ok => cases hr

/-- Streams that live and that nobody holds are piped. -/
theorem pipeThrough_not_refused [Host H] {stream : TransformStream} {options : PipeOptions}
    {found : Source E} {sink : Sink E} (hs : s.streams.source? source = some found)
    (hl : found.readerLock = none) (hk : s.streams.sink? stream.writable = some sink)
    (hkl : sink.writerLock = none) :
    attempt (pipeThrough fuel source stream options) s ≠ some (.error error, t) := by
  intro h
  rw [attempt_pipeThrough, attempt_pipeTo, Registry.exec_openPipe_eq options hs hl hk hkl] at h
  obtain ⟨piped, hpiped, hr⟩ := Option.map_eq_some_iff.mp h
  obtain ⟨pumped, -, rfl⟩ := Option.map_eq_some_iff.mp hpiped
  cases hr

end Session

/-! ### A transform stream that is let go of -/

/-- Every name finds the same in both. -/
structure Registry.Alike (streams streams' : Registry E) : Prop where
  source : ∀ id, streams'.source? id = streams.source? id
  sink : ∀ id, streams'.sink? id = streams.sink? id
  bridge : ∀ id, streams'.bridge? id = streams.bridge? id
  pipe : ∀ id, streams'.pipe? id = streams.pipe? id

namespace Session

variable {s t : Session H E} {stage : TransformStream}

/-- A transform stream has been made and let go of again. Nobody holds it, and all else is as it
was. -/
structure Discards (stage : TransformStream) (s t : Session H E) : Prop where
  new_readable : s.streams.source? stage.readable = none
  new_writable : s.streams.sink? stage.writable = none
  new_bridge : s.streams.bridge? stage.bridge = none
  readable : ∃ source, t.streams.source? stage.readable = some source ∧ source.released = true ∧
    source.readerLock = none
  writable : ∃ sink, t.streams.sink? stage.writable = some sink ∧ sink.released = true ∧
    sink.writerLock = none
  bridge : ∃ bridge, t.streams.bridge? stage.bridge = some bridge ∧
    bridge.readable = stage.readable ∧ bridge.writable = stage.writable
  source_other : ∀ id, id ≠ stage.readable → t.streams.source? id = s.streams.source? id
  sink_other : ∀ id, id ≠ stage.writable → t.streams.sink? id = s.streams.sink? id
  bridge_other : ∀ id, id ≠ stage.bridge → t.streams.bridge? id = s.streams.bridge? id
  pipes : t.streams.pipes = s.streams.pipes
  host : t.host = s.host
  env : t.env = s.env

theorem Gains.discards (h : Gains stage s t) (henv : t.env = s.env) :
    s.Discards stage (t.mapStreams fun streams => streams.releaseTransform stage) where
  new_readable := h.new_readable
  new_writable := h.new_writable
  new_bridge := h.new_bridge
  readable := by
    have hmade := (h.source stage.readable).trans (if_pos rfl)
    simp only [streams_mapStreams, Registry.releaseTransform, Registry.releaseReadable,
      Registry.releaseWritable, Registry.source?_modifySink, Registry.source?_modifySource, hmade]
    exact ⟨_, rfl, rfl, rfl⟩
  writable := by
    have hmade := (h.sink stage.writable).trans (if_pos rfl)
    simp only [streams_mapStreams, Registry.releaseTransform, Registry.releaseReadable,
      Registry.releaseWritable, Registry.sink?_modifySink, Registry.sink?_modifySource, hmade]
    exact ⟨_, rfl, rfl, rfl⟩
  bridge := by
    have hmade := (h.bridge stage.bridge).trans (if_pos rfl)
    exact ⟨_, by simpa [Registry.releaseTransform, Registry.releaseReadable,
      Registry.releaseWritable] using hmade, rfl, rfl⟩
  source_other id hne := by
    have hsame := (h.source id).trans (if_neg hne)
    simpa [Registry.releaseTransform, Registry.releaseReadable, Registry.releaseWritable,
      Registry.source?_modifySource, hne] using hsame
  sink_other id hne := by
    have hsame := (h.sink id).trans (if_neg hne)
    simpa [Registry.releaseTransform, Registry.releaseReadable, Registry.releaseWritable,
      Registry.sink?_modifySink, hne] using hsame
  bridge_other id hne := by
    have hsame := (h.bridge id).trans (if_neg hne)
    simpa [Registry.releaseTransform, Registry.releaseReadable,
      Registry.releaseWritable] using hsame
  pipes := by
    simpa [Registry.releaseTransform, Registry.releaseReadable,
      Registry.releaseWritable] using h.pipes
  host := h.host
  env := henv

namespace Discards

variable (h : s.Discards stage t)
include h

theorem readableLeft : t.streams.ReadableLeft stage.readable := by
  obtain ⟨source, hs, hr, -⟩ := h.readable
  intro found hfound
  cases hs.symm.trans hfound
  exact hr

theorem writableLeft : t.streams.WritableLeft stage.writable := by
  obtain ⟨sink, hk, hr, -⟩ := h.writable
  intro found hfound
  cases hk.symm.trans hfound
  exact hr

theorem source?_swept (id : ReadableId) :
    t.streams.sweep.2.source? id = s.streams.sweep.2.source? id := by
  by_cases he : id = stage.readable
  · obtain ⟨source, hs, -, hlock⟩ := h.readable
    have hgone := h.readableLeft.swept (by simp [Registry.holder?, hs, hlock])
    rw [he, hgone, Registry.source?_sweep, h.new_readable, Option.filter_none]
  · rw [Registry.source?_sweep, Registry.source?_sweep, h.source_other id he]

theorem sink?_swept (w : WritableId) :
    t.streams.sweep.2.sink? w = s.streams.sweep.2.sink? w := by
  by_cases he : w = stage.writable
  · obtain ⟨sink, hk, -, hlock⟩ := h.writable
    have hgone := h.writableLeft.swept (by simp [Registry.holder?, hk, hlock])
    rw [he, hgone, Registry.sink?_sweep, h.new_writable, Option.filter_none]
  · rw [Registry.sink?_sweep, Registry.sink?_sweep, h.sink_other w he]

/-- A sweep takes out the transform stream, and otherwise what it would have taken out before. -/
theorem swept : s.streams.sweep.2.Alike t.streams.sweep.2 where
  source := h.source?_swept
  sink := h.sink?_swept
  bridge id := by
    have hlives : ∀ bridge : Bridge E,
        (t.streams.sweep.2.containsReadable bridge.readable ||
          t.streams.sweep.2.containsWritable bridge.writable) =
        (s.streams.sweep.2.containsReadable bridge.readable ||
          s.streams.sweep.2.containsWritable bridge.writable) := fun bridge => by
      simp only [Registry.containsReadable, Registry.containsWritable,
        h.source?_swept, h.sink?_swept]
    rw [Registry.bridge?_sweep, Registry.bridge?_sweep]
    simp only [hlives]
    by_cases he : id = stage.bridge
    · obtain ⟨bridge, hb, hreadable, hwritable⟩ := h.bridge
      have hgone : s.streams.sweep.2.source? stage.readable = none := by
        rw [Registry.source?_sweep, h.new_readable, Option.filter_none]
      have hgone' : s.streams.sweep.2.sink? stage.writable = none := by
        rw [Registry.sink?_sweep, h.new_writable, Option.filter_none]
      rw [he, hb, h.new_bridge, Option.filter_none, Option.filter_some, hreadable, hwritable]
      simp [Registry.containsReadable, Registry.containsWritable, hgone, hgone']
    · rw [h.bridge_other id he]
  pipe id := by
    rw [Registry.pipe?_sweep, Registry.pipe?_sweep, Registry.pipe?_congr h.pipes]

end Discards

end Session

/-! ### A body that is to be piped -/

namespace Body

variable {s : Session H E} {body : Body}

/-- What asking a body for its stream comes to: an error, the stream that it has, or one that is
made and that nobody holds. -/
theorem stream_cases (wf : s.streams.WellFormed) (body : Body) :
    (∃ error, exec (body.stream : Action H E BodyError _) s = (.error error, s)) ∨
      ∃ id source streamed opened,
        exec (body.stream : Action H E BodyError _) s = (.ok (id, streamed), opened) ∧
          opened.streams.WellFormed ∧ opened.streams.source? id = some source ∧
            (streamed = body ∧ opened = s ∨ source.readerLock = none) := by
  by_cases hreleased : body.released = true
  · exact .inl ⟨_, exec_stream_of_released hreleased⟩
  have hreleased : body.released = false := Bool.eq_false_iff.mpr hreleased
  cases hreadable : body.readable with
  | some id =>
    have hrun := exec_stream_of_readable (s := s) hreleased hreadable
    by_cases hlive : s.streams.containsReadable id = true
    · obtain ⟨source, hs⟩ := Option.isSome_iff_exists.mp hlive
      exact .inr ⟨id, source, body, s, by rw [hrun, hlive]; rfl, wf, hs, .inl ⟨rfl, rfl⟩⟩
    · exact .inl ⟨.stream .released, by rw [hrun, Bool.eq_false_iff.mpr hlive]; rfl⟩
  | none =>
    cases hhandle : body.handle with
    | none =>
      exact .inl ⟨.stream .released, by
        simp [Body.stream, exec_bind, hreleased, hreadable, hhandle]⟩
    | some handle =>
      let made : Source E :=
        { backing := .body handle s.streams.config.bodyChunkSize
          controller := { highWaterMark := s.streams.config.bodyHighWaterMark } }
      let id := (s.streams.bodySource handle).1
      have hmade : (s.streams.bodySource handle).2.source? id = some made :=
        (Registry.source?_addSource wf made id).trans (if_pos rfl)
      have howned := Registry.exec_setReadableOwner hmade body.owner
      refine .inr ⟨id, { made with owner := some body.owner }, { body with readable := some id },
        { s with streams := (exec (Registry.setReadableOwner id body.owner)
          (s.streams.bodySource handle).2).2 }, ?_, ?_, ?_, .inr rfl⟩
      · simp only [Body.stream, exec_bind, exec_get, hreleased, hreadable, hhandle,
          Bool.false_eq_true, if_false, exec_modifyGet, Session.changeStreams, Session.exec_adapt,
          Session.exec_onStreams]
        rw [howned]
        rfl
      · rw [howned]
        exact (wf.addSource made).setSource _ _
      · rw [howned]
        simp [Registry.source?_setSource, hmade]

/-- A body is asked for its stream in vain, or its pipe is refused. It is what it was before; and so
is the session, but for a transform stream that has been let go of. -/
theorem withdraws_pipeThroughIdentity [Host H] {fuel : Nat} {error : BodyError} {later : Body}
    {t : Session H E} (wf : s.streams.WellFormed)
    (h : drive (body.pipeThroughIdentity fuel) s = some ((.error error, later), t)) :
    later = body ∧ (t = s ∨ ∃ stage, s.Discards stage t) := by
  simp only [pipeThroughIdentity, drive_bind, drive_modifyGet, Session.outcome_apply,
    Option.bind_some] at h
  rcases stream_cases wf body with ⟨refusal, hstream⟩ |
    ⟨id, source, streamed, opened, hstream, wf', hs, hwhose⟩
  · rw [hstream] at h
    cases h
    exact ⟨rfl, .inl rfl⟩
  · have hgains := Session.gains_createIdentity wf'
    have henv : ((Session.createIdentity : Step H E TransformStream).run opened).2.env =
        opened.env := by
      rw [Session.createIdentity_run wf']
      rfl
    simp only [hstream, drive_bind, drive_modifyGet, Option.bind_some, drive_run] at h
    generalize hmade : (Session.createIdentity : Step H E TransformStream) opened = made at h
    obtain ⟨stage, made⟩ := made
    have hrun : (Session.createIdentity : Step H E TransformStream).run opened =
        (stage, made) := hmade
    rw [hrun] at hgains henv
    have hmouth : made.streams.source? id = some source := by
      rw [hgains.source, if_neg, hs]
      rintro rfl
      cases hs.symm.trans hgains.new_readable
    have hinlet := (hgains.sink stage.writable).trans (if_pos rfl)
    obtain ⟨⟨opening, piped⟩, hpiped, h⟩ := Option.bind_eq_some_iff.mp h
    cases opening with
    | error refusal =>
      obtain ⟨rfl, rfl⟩ : streamed = body ∧ opened = s := hwhose.resolve_right fun hfree =>
        Session.pipeThrough_not_refused hmouth hfree hinlet rfl hpiped
      cases h
      obtain ⟨number, -, rfl⟩ := Session.onlyNumbers_pipeThrough hpiped
      have hnumbered : Session.Gains stage opened
          { made with streams := { made.streams with nextToken := number } } :=
        { hgains with wellFormed := ⟨hgains.wellFormed.sources, hgains.wellFormed.sinks,
            hgains.wellFormed.bridges, hgains.wellFormed.pipes⟩ }
      exact ⟨rfl, .inr ⟨stage, hnumbered.discards henv⟩⟩
    | ok readable =>
      -- The readable half still lives, so that it gets its owner.
      rw [Session.attempt_pipeThrough] at hpiped
      obtain ⟨⟨opening, through⟩, hpipe, hanswer⟩ := Option.map_eq_some_iff.mp hpiped
      cases opening with
      | error => cases hanswer
      | ok pipe =>
        cases hanswer
        have hlives := (hgains.source stage.readable).trans (if_pos rfl)
        obtain ⟨source', hs'⟩ := Option.isSome_iff_exists.mp
          ((Session.continuesAs_pipeTo hpipe).containsReadable
            (Option.isSome_iff_exists.mpr ⟨_, hlives⟩))
        simp only [drive_bind, drive_modifyGet, Session.outcome_apply, Option.bind_some,
          Session.exec_onStreams, Registry.exec_setReadableOwner hs'] at h
        cases h

end Body

/-! ### Whatever clients do -/

/-- Neither half is there, nor what joins them. -/
structure Registry.Lacks (streams : Registry E) (stage : TransformStream) : Prop where
  readable : streams.source? stage.readable = none
  writable : streams.sink? stage.writable = none
  bridge : streams.bridge? stage.bridge = none

namespace Client

variable [Host H] {uses : H → List UInt32 → H → Prop} {client after : Client H E}
variable {t : Session H E} {stage : TransformStream}

/-- A body that was to be piped is what it was. If a transform stream has been made for it, that is
let go of, and a sweep leaves what it would have left before. Whatever is done until the next sweep,
that leaves nothing of the transform stream, unless somebody holds one of its halves. -/
structure Withdraws (uses : H → List UInt32 → H → Prop) (client : Client H E) (body later : Body)
    (t : Session H E) : Prop where
  kept : later = body
  traceless : t = client.session ∨ ∃ stage, client.session.Discards stage t ∧
    client.session.streams.sweep.2.Alike t.streams.sweep.2 ∧
      ∀ after, Calls uses NoneBack (client.withSession t) after →
        after.session.streams.holder? (.readable stage.readable) = none →
          after.session.streams.holder? (.writable stage.writable) = none →
            after.session.streams.sweep.2.Lacks stage

/-- What has been made for nothing goes with the next sweep that finds it unlocked. -/
theorem lacks_of_discards (h : client.session.Discards stage t)
    (hsound : (client.withSession t).Sound) (hresting : t.Resting)
    (hcalls : Calls uses NoneBack (client.withSession t) after)
    (hr : after.session.streams.holder? (.readable stage.readable) = none)
    (hw : after.session.streams.holder? (.writable stage.writable) = none) :
    after.session.streams.sweep.2.Lacks stage := by
  obtain ⟨source, hs, -⟩ := h.readable
  obtain ⟨sink, hk, -⟩ := h.writable
  obtain ⟨bridge, hb, hreadable, hwritable⟩ := h.bridge
  have hsource := (hcalls.readableLeft hsound hresting (SlotMap.issued_of_get? hs)
    h.readableLeft).swept hr
  have hsink := (hcalls.writableLeft hsound hresting (SlotMap.issued_of_get? hk)
    h.writableLeft).swept hw
  refine ⟨hsource, hsink, ?_⟩
  rw [Registry.bridge?_sweep]
  refine Option.filter_eq_none_iff.mpr fun found hfound => ?_
  obtain ⟨old, hold, hmade⟩ :=
    (hcalls.lasts hsound).bridges.back (SlotMap.issued_of_get? hb) hfound
  cases hb.symm.trans hold
  obtain ⟨hreadable', hwritable', -⟩ : found.readable = bridge.readable ∧
      found.writable = bridge.writable ∧ found.transformer = bridge.transformer := by
    simpa only [Bridge.made, Prod.mk.injEq] using hmade
  rw [hreadable', hwritable', hreadable, hwritable]
  simp [Registry.containsReadable, Registry.containsWritable, hsource, hsink]

end Client

section Refused

variable [Host H] {uses : H → List UInt32 → H → Prop}
variable {allowed : Client H E → Client H E → Prop} {client : Client H E}

/-- Where a pipe is refused, with whatever ends and options, nothing has changed but the number of
the next token: no host and no guest has been called, no lock is left, and every entry is as it was.
Where a body cannot be piped through a new transform stream, the body is as it was, and the next
sweep takes out what has been made for it. -/
theorem refused_pipes_leave_no_trace {host : H} {env : E} {config : StreamConfig}
    (h : Client.Calls uses allowed (.new host env config) client) (fuel : Nat) :
    (∀ (s t : Session H E) source destination options error,
      attempt (Session.pipeTo fuel source destination options) s = some (.error error, t) →
        s.OnlyNumbers t) ∧
    (∀ (s t : Session H E) source stream options error,
      attempt (Session.pipeThrough fuel source stream options) s = some (.error error, t) →
        s.OnlyNumbers t) ∧
    ∀ (body later : Body) error t,
      drive (body.pipeThroughIdentity fuel) client.session = some ((.error error, later), t) →
        client.Withdraws uses body later t := by
  refine ⟨fun s t source destination options error hrun => Session.onlyNumbers_pipeTo hrun,
    fun s t source stream options error hrun => Session.onlyNumbers_pipeThrough hrun,
    fun body later error t hrun => ?_⟩
  have hsound := h.sound (Client.sound_new host env config)
  have hresting := h.leads.resting (Session.resting_new host env config)
  have hcall : Client.Call uses client (client.withSession t) :=
    .run (.pipeThroughIdentity fuel body) hrun
  have hleads := body.leads_pipeThroughIdentity (R := Session.LeadsTo) fuel client.session _ hrun
  obtain ⟨rfl, htrace⟩ := Body.withdraws_pipeThroughIdentity hsound.orderly.wellFormed hrun
  refine ⟨rfl, htrace.imp_right ?_⟩
  rintro ⟨stage, hdiscards⟩
  exact ⟨stage, hdiscards, hdiscards.swept, fun after hcalls =>
    Client.lacks_of_discards hdiscards (hcall.keeps hsound).sound (hleads.resting hresting) hcalls⟩

/-- A source is free and its destination is not, so the lock that the pipe takes is given back.
Another source is gone. The stream of a body is read by somebody else. -/
theorem refused_pipes_leave_no_trace_locked :
    ∃ client : Client MemoryHost Unit,
      Client.Calls (fun _ _ _ => True) (fun _ _ => True) (.new {} () {}) client ∧
      (∃ t, attempt (Session.pipeTo 1 ⟨1, 0⟩ ⟨0, 0⟩ {}) client.session = some (.error .locked, t) ∧
        client.session.OnlyNumbers t) ∧
      (∃ t, attempt (Session.pipeThrough 1 ⟨2, 0⟩ ⟨⟨0, 0⟩, ⟨1, 0⟩, ⟨0, 0⟩⟩ {}) client.session =
        some (.error .released, t) ∧ client.session.OnlyNumbers t) ∧
      ∃ body later t, drive (body.pipeThroughIdentity 1) client.session =
        some ((.error (.stream .locked), later), t) ∧
          client.Withdraws (fun _ _ _ => True) body later t := by
  let body : Body := { owner := ⟨0⟩, handle := none, readable := some ⟨0, 0⟩ }
  have hcalls : Client.Calls (H := MemoryHost) (E := Unit) (fun _ _ _ => True) (fun _ _ => True)
      (.new {} () {}) _ :=
    .call (.call (.call (.call (.call .refl (.step (.operate (.bodySource ⟨1⟩) 0 rfl)) trivial)
      (.step (.operate (.bodySource ⟨2⟩) 0 rfl)) trivial)
      (.step (.operate (.bodySink ⟨3⟩) 0 rfl)) trivial)
      (.step (.getReader ⟨0, 0⟩ rfl)) trivial) (.step (.getWriter ⟨0, 0⟩ rfl)) trivial
  obtain ⟨client, hlocked, hpipe, hthrough, hbody⟩ : ∃ client : Client MemoryHost Unit,
      Client.Calls (fun _ _ _ => True) (fun _ _ => True) (.new {} () {}) client ∧
      (attempt (Session.pipeTo 1 ⟨1, 0⟩ ⟨0, 0⟩ {}) client.session).map Prod.fst =
        some (.error .locked) ∧
      (attempt (Session.pipeThrough 1 ⟨2, 0⟩ ⟨⟨0, 0⟩, ⟨1, 0⟩, ⟨0, 0⟩⟩ {})
        client.session).map Prod.fst = some (.error .released) ∧
      (drive (body.pipeThroughIdentity 1) client.session).map (fun r => r.1.1) =
        some (.error (.stream .locked)) :=
    ⟨_, hcalls, by decide +kernel, by decide +kernel, by decide +kernel⟩
  obtain ⟨⟨_, t⟩, hpipe, rfl⟩ := Option.map_eq_some_iff.mp hpipe
  obtain ⟨⟨_, u⟩, hthrough, rfl⟩ := Option.map_eq_some_iff.mp hthrough
  obtain ⟨⟨⟨_, later⟩, v⟩, hbody, rfl⟩ := Option.map_eq_some_iff.mp hbody
  obtain ⟨hnumbers, hnumbers', hwithdraws⟩ := refused_pipes_leave_no_trace hlocked 1
  exact ⟨client, hlocked, ⟨t, hpipe, hnumbers _ _ _ _ _ _ hpipe⟩,
    ⟨u, hthrough, hnumbers' _ _ _ _ _ _ hthrough⟩, body, later, v, hbody, hwithdraws _ _ _ _ hbody⟩

end Refused

end EdgeStreams
