import EdgeStreams.Proofs.Client.Tearing
import EdgeStreams.Proofs.Piping.Acting
import EdgeStreams.Proofs.Piping.Easing
import EdgeStreams.Proofs.Transform.Halves

/-!
# A pipe into a transform stream that passes every chunk on

The pipe carries what comes until its source has ended or failed. A source that fails makes the pipe
abort the writable half, and the readable half fails with the abort, whatever the source has failed
with. Nobody else ends or fails the readable half, but for a reader that cancels it.

## Main definitions

- `Passthrough`: the pipe and the transform stream
- `Passthrough.Laid`: the transform stream is whole
- `Passthrough.Carries`: the pipe runs and the transform stream takes chunks, or the readable half
  has failed with an abort, or the source has ended

## Main statements

- `Passthrough.Carries.act`: kept by every act but a cancellation of the readable half
- `Passthrough.Carries.acts`: kept as long as nothing is piped out of the transform stream
-/

namespace EdgeStreams

variable {H E : Type}

/-- What is piped with default options into a transform stream. -/
structure Passthrough where
  stage : TransformStream
  inlet : PipeId
  link : Pipe
  into : link.destination = stage.writable
  plain : link.options = {}

namespace Registry

variable {streams : Registry E}

/-- Two pipes of one name are one pipe. -/
theorem RunsAs.same {id : PipeId} {pipe pipe' : Pipe} (h : streams.RunsAs id pipe)
    (h' : streams.RunsAs id pipe') : pipe'.source = pipe.source ∧
    pipe'.destination = pipe.destination ∧
      pipe'.writer = pipe.writer ∧ pipe'.options = pipe.options := by
  obtain ⟨pumping, hp⟩ := h
  obtain ⟨pumping', hp'⟩ := h'
  have heq := Option.some.inj (hp.symm.trans hp')
  simp only [Pipe.mk.injEq] at heq
  obtain ⟨hsource, hdestination, hreader, hwriter, hoptions, -⟩ := heq
  exact ⟨hsource.symm, hdestination.symm, hwriter.symm, hoptions.symm⟩

theorem readableState?_eq {id : ReadableId} {source : Source E}
    (h : streams.source? id = some source) :
    streams.readableState? id = some source.controller.state := by
  simp [readableState?, h]

theorem writableState?_eq {id : WritableId} {sink : Sink E} (h : streams.sink? id = some sink) :
    streams.writableState? id = some sink.controller.state := by
  simp [writableState?, h]

end Registry

/-- The identity transformer queues a chunk, unless it is empty. -/
theorem TransformWork.transform_identity {controller : ReadableController}
    (hopen : controller.IsOpen) (chunk : Bytes) (env : E) :
    (transform chunk .identity env { controller }).1 = (.ok (), env) ∧
      (transform chunk .identity env { controller }).2.terminated = false ∧
        (transform chunk .identity env { controller }).2.controller.IsOpen ∧
          (chunk ≠ [] → ¬ (transform chunk .identity env { controller }).2.controller.IsDry) := by
  obtain ⟨left, hleft, hstill, hqueued⟩ : ∃ left, controller.enqueue chunk = (.ok (), left) ∧
      left.IsOpen ∧ (chunk ≠ [] → ¬ left.IsDry) := by
    simp only [ReadableController.enqueue,
      ReadableController.refusal?_eq_none hopen.state hopen.close]
    split
    · next hempty => exact ⟨_, rfl, hopen, fun hchunk => absurd (List.isEmpty_iff.mp hempty) hchunk⟩
    · exact ⟨_, rfl, ⟨hopen.state, hopen.close⟩, fun _ =>
        ReadableController.not_isDry_queued controller chunk⟩
  simpa [transform, Transformer.identity, Program.run, TransformDesk.perform,
    SourceDesk.enqueue, hleft] using ⟨hstill, hqueued⟩

namespace Session

variable {s t : Session H E} {mark : UInt64}

variable [Host H]

/-- A stream that has ended or failed stays so. -/
theorem Course.readableState? {made : List (WritableId × Bytes)} (h : Course s made t)
    (hc : s.streams.Composed) {id : ReadableId} {state : ReadableState}
    (hs : s.streams.readableState? id = some state) (hover : state ≠ .readable) :
    t.streams.readableState? id = some state := by
  obtain ⟨source, hsource, rfl⟩ := Option.map_eq_some_iff.mp hs
  obtain ⟨source', hsource', hstays⟩ := h.stays hc hsource
  rw [Registry.readableState?_eq hsource', hstays.controller.state hover]

/-- A stream that has been closed or has failed stays so. -/
theorem Course.writableState? {made : List (WritableId × Bytes)} (h : Course s made t)
    (hc : s.streams.Composed) {id : WritableId} {state : WritableState}
    (hs : s.streams.writableState? id = some state) (hover : state ≠ .writable) :
    t.streams.writableState? id = some state := by
  obtain ⟨sink, hk, rfl⟩ := Option.map_eq_some_iff.mp hs
  obtain ⟨sink', hk', hsame⟩ := h.stuck hc hk hover
  rw [Registry.writableState?_eq hk', hsame]

/-- A pipe that has come to its end stays so. -/
theorem MovesTo.pipeState? (h : MovesTo s t) {name : PipeId} {state : PipeState}
    (hs : s.streams.pipeState? name = some state) (hover : state ≠ .running) :
    t.streams.pipeState? name = some state := by
  obtain ⟨pipe, hp, rfl⟩ := Option.map_eq_some_iff.mp hs
  obtain ⟨pumping, hp'⟩ := h.finished hp (by simpa [Pipe.isRunning] using hover)
  simp [Registry.pipeState?, hp']

/-- The identity transformer takes every chunk that comes to an open stream. -/
theorem write_identity (hc : s.streams.Composed) {id : WritableId} {sink : Sink E} {name : BridgeId}
    {bridge : Bridge E} {source : Source E} (hk : s.streams.sink? id = some sink)
    (hw : sink.controller.state = .writable) (hback : sink.backing = .transform name)
    (hspans : s.streams.SpansBridge name bridge source) (hid : bridge.transformer = .identity)
    (hopen : source.controller.IsOpen) (chunk : Bytes) :
    (exec (writeUnchecked id chunk) s).1 = .ok () ∧
      ∃ source', (exec (writeUnchecked id chunk) s).2.streams.source? bridge.readable =
        some source' ∧ source'.controller.IsOpen ∧ (chunk ≠ [] → ¬ source'.controller.IsDry) := by
  obtain ⟨hb, hs⟩ := hspans
  have hduring : (setSink id sink.working s).streams.sink? id = some sink.working := by
    simp [Registry.sink?_setSink, hk]
  have hb' : (setBridge name { bridge with pullRequested := false }
      (setSink id sink.working s)).streams.bridge? name =
        some { bridge with pullRequested := false } := by
    simp [setBridge, Registry.bridge?_setBridge, hb]
  have hrun := TransformWork.transform_identity hopen chunk s.env
  rw [← hid] at hrun
  obtain ⟨worked, hran⟩ : ∃ worked, TransformWork.transform chunk bridge.transformer s.env
      { controller := source.controller } = worked := ⟨_, rfl⟩
  rw [hran] at hrun
  obtain ⟨hresult, hterminated, hleft⟩ := hrun
  obtain ⟨t, hwork, -, hstreams⟩ := exec_withTransformer_of_fine (.transform chunk) hb'
    (show (setBridge name _ (setSink id sink.working s)).streams.source? bridge.readable =
      some source from hs) hopen.state hran hresult hterminated
  rw [← exec_writeAlgorithm_transform hduring hback hb chunk] at hwork
  have hworked : t.streams.sink? id = some sink.working := by simpa [hstreams] using hduring
  rw [exec_writeUnchecked_of_idle hk (hc.idle hk) hw hwork hworked (.refl _)]
  refine ⟨by simp [Sink.verdict, Sink.working, hw],
    { source with controller := worked.2.controller }, ?_, hleft⟩
  simp [hstreams, Registry.source?_setSource, hs]

end Session

namespace Passthrough

variable (p : Passthrough)

/-- The stream that is piped. -/
def mouth : ReadableId := p.link.source

/-- The transform stream is whole. Bridges and the halves that they refer to belong together. -/
structure Laid (streams : Registry E) : Prop where
  readable : ∃ source, streams.source? p.stage.readable = some source ∧
    source.backing = .transform p.stage.bridge ∧ source.start = .resolved
  bridge : ∃ bridge, streams.bridge? p.stage.bridge = some bridge ∧
    bridge.readable = p.stage.readable ∧ bridge.writable = p.stage.writable ∧
      bridge.transformer = .identity
  linked : streams.Mutual

/-- The pipe runs, and the transform stream takes chunks. -/
structure Flowing (s : Session H E) : Prop where
  runsTo : s.streams.RunsAs p.inlet p.link
  isOpen : ∃ source, s.streams.source? p.stage.readable = some source ∧ source.controller.IsOpen

/-- The pipe runs and the transform stream takes chunks, or the readable half has failed with an
abort, or what is piped has ended. -/
def Carries (s : Session H E) : Prop :=
  p.Flowing s ∨ s.streams.readableState? p.stage.readable = some (.errored .aborted) ∨
    s.streams.readableState? p.mouth = some .closed

variable {p} {s t u : Session H E} {mark : UInt64} {name : PipeId} {pipe : Pipe}

/-- Work on other sinks does not reach the readable half. -/
theorem Laid.outside_sink (hl : p.Laid s.streams) (hc : s.streams.Composed) {id : WritableId}
    (hne : id ≠ p.stage.writable) : p.stage.readable ∉ (s.streams.sinkReach id).readables := by
  obtain ⟨source, hs, -⟩ := hl.readable
  obtain ⟨bridge, hb, hreadable, hwritable, -⟩ := hl.bridge
  rw [← hreadable] at hs ⊢
  exact (Registry.outside_sinkReach hc hl.linked ⟨hb, hs⟩ (hwritable ▸ hne.symm)).2

/-- Work on other sources does not reach the readable half. -/
theorem Laid.outside_source (hl : p.Laid s.streams) (hc : s.streams.Composed) {id : ReadableId}
    (hne : id ≠ p.stage.readable) : p.stage.readable ∉ (s.streams.sourceReach id).readables := by
  obtain ⟨source, hs, -⟩ := hl.readable
  obtain ⟨bridge, hb, hreadable, -⟩ := hl.bridge
  rw [← hreadable] at hs hne ⊢
  exact (Registry.outside_sourceReach hc ⟨hb, hs⟩ hne.symm).2

section Laid

variable [Host H]

theorem Laid.course {made : List (WritableId × Bytes)} (hl : p.Laid s.streams)
    (h : Session.Course s made t) (hc : s.streams.Composed) : p.Laid t.streams where
  readable := by
    obtain ⟨source, hs, hback, hstart⟩ := hl.readable
    obtain ⟨source', hs', hstays⟩ := h.stays hc hs
    exact ⟨source', hs', hstays.backing.trans hback, hstays.start.trans hstart⟩
  bridge := by
    obtain ⟨bridge, hb, hreadable, hwritable, hid⟩ := hl.bridge
    obtain ⟨bridge', hb', hkeeps⟩ := SlotMap.rel_some_left (hb ▸ h.bridge hc p.stage.bridge)
    exact ⟨bridge', hb', hkeeps.readable.trans hreadable, hkeeps.writable.trans hwritable,
      hkeeps.transformer.trans hid⟩
  linked := h.mutual hc hl.linked

theorem Laid.flowsTo (hl : p.Laid s.streams) (h : s.FlowsTo t) (hc : s.streams.Composed) :
    p.Laid t.streams := by
  obtain ⟨made, hcourse⟩ := h.course
  exact hl.course hcourse hc

end Laid

namespace Flowing

/-- Another pipe comes to its end. -/
theorem finish (h : p.Flowing s) (hne : name ≠ p.inlet) (state : PipeState) :
    p.Flowing (Session.pipeFinished name state s) where
  runsTo := by
    obtain ⟨pumping, hp⟩ := h.runsTo
    exact ⟨pumping, (Registry.pipe?_finishPipe_of_ne hne.symm).trans hp⟩
  isOpen := by
    obtain ⟨source, hs, hopen⟩ := h.isOpen
    obtain ⟨source', hs', hsame⟩ := Session.controller_pipeFinished name state s hs
    exact ⟨source', hs', hsame ▸ hopen⟩

section Ends

variable (h : p.Flowing s) (hw : s.Wired mark) (hl : p.Laid s.streams)
include h hw hl

/-- The pipe holds the writable half, which takes writes. -/
theorem writable : ∃ sink, s.streams.sink? p.stage.writable = some sink ∧
    sink.writerLock = some p.link.writer ∧ sink.controller.state = .writable ∧
      sink.backing = .transform p.stage.bridge := by
  obtain ⟨pumping, hp⟩ := h.runsTo
  obtain ⟨held, spent, horderly⟩ := hw.orderly
  obtain ⟨sink, hk, hlock⟩ := (horderly.holds _ _ hp rfl).sink
  obtain ⟨source, hs, hopen⟩ := h.isOpen
  obtain ⟨found, hfound, hback, -⟩ := hl.readable
  cases hs.symm.trans hfound
  obtain ⟨bridge, hb, -, hwritable, -⟩ := hl.bridge
  have hk' : s.streams.sink? p.stage.writable = some sink := p.into ▸ hk
  obtain ⟨hsink, hends⟩ := hw.couples.paired hs hback hb (hwritable ▸ hk')
  exact ⟨sink, hk', hlock, by_contra fun hstate => hends hstate hopen, hsink⟩

theorem accepts : s.streams.Accepts p.stage.writable := by
  obtain ⟨sink, hk, -, hwritable, -⟩ := h.writable hw hl
  exact ⟨sink, hk, hwritable⟩

/-- Another pipe writes elsewhere. -/
theorem outside (hr : s.streams.RunsAs name pipe) (hne : name ≠ p.inlet) :
    p.stage.readable ∉ (s.streams.sinkReach pipe.destination).readables := by
  refine hl.outside_sink hw.composed fun he => hne ?_
  obtain ⟨held, spent, horderly⟩ := hw.orderly
  obtain ⟨pumping, hp⟩ := hr
  obtain ⟨pumping', hp'⟩ := h.runsTo
  exact horderly.destination_inj hp rfl hp' rfl (he.trans p.into.symm)

end Ends

variable [Host H]

/-- What is done to other streams leaves the pipe and the readable half alone. -/
theorem changesWithin {f : Footprint} (h : p.Flowing s) (ht : Session.ChangesWithin f s t)
    (hr : p.stage.readable ∉ f.readables) : p.Flowing t where
  runsTo := by
    obtain ⟨pumping, hp⟩ := h.runsTo
    exact ⟨pumping, (Registry.pipe?_congr ht.pipes_eq _).trans hp⟩
  isOpen := by
    obtain ⟨source, hs, hopen⟩ := h.isOpen
    exact ⟨source, (ht.source?_outside hr).trans hs, hopen⟩

variable (h : p.Flowing s) (hw : s.Wired mark) (hl : p.Laid s.streams)
include h hw hl

/-- A chunk that comes in is taken. Unless it is empty, there is something to read then. -/
theorem write (chunk : Bytes) :
    (exec (Session.write p.stage.writable chunk (some p.link.writer)) s).1 = .ok () ∧
      p.Flowing (exec (Session.write p.stage.writable chunk (some p.link.writer)) s).2 ∧
        (chunk ≠ [] → ¬ (exec (Session.write p.stage.writable chunk (some p.link.writer))
          s).2.streams.IsDry p.stage.readable) := by
  obtain ⟨sink, hk, hlock, hwritable, hback⟩ := h.writable hw hl
  obtain ⟨source, hs, hopen⟩ := h.isOpen
  obtain ⟨bridge, hb, hreadable, -, hid⟩ := hl.bridge
  rw [← hreadable] at hs
  have hpipes := (Session.changesWithin_write s p.stage.writable chunk
    (some p.link.writer)).pipes_eq
  rw [← hlock, Session.exec_write_of_lock hk] at hpipes ⊢
  obtain ⟨hok, source', hs', hopen', hstocked⟩ :=
    Session.write_identity hw.composed hk hwritable hback ⟨hb, hs⟩ hid hopen chunk
  rw [hreadable] at hs'
  obtain ⟨pumping, hp⟩ := h.runsTo
  refine ⟨hok, ⟨⟨pumping, (Registry.pipe?_congr hpipes _).trans hp⟩, source', hs', hopen'⟩,
    fun hchunk ⟨found, hfound, hdry⟩ => ?_⟩
  cases hs'.symm.trans hfound
  exact hstocked hchunk hdry

/-- The pipe aborts the writable half, and the readable half fails. -/
theorem abort (hr : s.streams.RunsAs p.inlet pipe) :
    (Session.abortDestination pipe s).2.streams.readableState? p.stage.readable =
      some (.errored .aborted) := by
  obtain ⟨-, hdestination, hwriter, hoptions⟩ := h.runsTo.same hr
  obtain ⟨sink, hk, hlock, hwritable, hback⟩ := h.writable hw hl
  obtain ⟨source, hs, hopen⟩ := h.isOpen
  obtain ⟨bridge, hb, hreadable, -⟩ := hl.bridge
  have hpassed : exec (Session.abort pipe.destination none (some pipe.writer)) s =
      exec (Session.abortUnchecked p.stage.writable none) s := by
    rw [hdestination, hwriter, p.into]
    simp [Session.abort, exec_bind, hk, hlock, Except.bind]
  rw [Session.abortDestination_snd (by rw [hoptions, p.plain]), hpassed]
  obtain ⟨source', hs', hstate⟩ := Session.half_abortUnchecked hw.composed hk hwritable hback hb
    (hreadable ▸ hs) hopen.state none
  rw [← hreadable, Registry.readableState?_eq hs', hstate]

/-- What another pipe does, unless it is the pipe out of the transform stream and gives up. -/
theorem other (hr : s.streams.RunsAs name pipe) (hne : name ≠ p.inlet)
    (hact : Session.ActOf name pipe s t) :
    p.Flowing t ∨ pipe.source = p.stage.readable ∧ Session.GivesUp name pipe s t := by
  have hc := hw.composed
  obtain ⟨during, last, hflows, htouches, hlast, hend⟩ := hact.parts hc
  have hduring := h.changesWithin htouches (h.outside hw hl hr hne)
  have hended : p.Flowing last → p.Flowing t := fun hdone => by
    rcases hend with rfl | ⟨state, -, rfl⟩
    · exact hdone
    · exact hdone.finish hne state
  rcases hlast with rfl | ⟨hgives, -, hcancels⟩
  · exact .inl (hended hduring)
  · by_cases hsource : pipe.source = p.stage.readable
    · exact .inr ⟨hsource, hgives⟩
    · exact .inl (hended (hduring.changesWithin hcancels
        ((hl.flowsTo hflows hc).outside_source (hflows.composed hc) hsource)))

/-- What the pipe does that runs into the transform stream. It finds no fault with its
destination. -/
theorem own (hr : s.streams.RunsAs p.inlet pipe) (hact : Session.ActOf p.inlet pipe s t) :
    p.Carries t := by
  have hc := hw.composed
  obtain ⟨hsource, hdestination, hwriter, -⟩ := h.runsTo.same hr
  cases hact with
  | ended hs hstate =>
    refine .inr (.inr ?_)
    obtain ⟨made, hcourse⟩ :=
      ((Session.flowsTo_closeDestination hc pipe).trans (Session.flowsTo_pipeFinished _ _)).course
    refine hcourse.readableState? hc ?_ (by simp)
    rw [mouth, ← hsource, Registry.readableState?_eq hs, hstate]
  | failed =>
    have haborts := Session.flowsTo_abortDestination hc pipe
    obtain ⟨made, hfinish⟩ :=
      (Session.flowsTo_pipeFinished (s := (Session.abortDestination pipe s).2)
      p.inlet (.failed _)).course
    exact .inr (.inl (hfinish.readableState? (haborts.composed hc) (h.abort hw hl hr) (by simp)))
  | @wrote chunk =>
    rw [hdestination, hwriter, p.into]
    exact .inl (h.write hw hl chunk).2.1
  | gaveUp hgives =>
    cases hgives with
    | @refused chunk error hrefused =>
      rw [hdestination, hwriter, p.into, (h.write hw hl chunk).1] at hrefused
      cases hrefused
    | faulted hdead =>
      rw [hdestination, p.into] at hdead
      exact absurd (h.accepts hw hl) hdead

omit hw in
/-- Streams are read or pulled. -/
theorem quiet (hquiet : Session.Quiet s t) : p.Flowing t where
  runsTo := by
    obtain ⟨pumping, hp⟩ := h.runsTo
    obtain ⟨pumping', hp'⟩ := hquiet.pipe hp
    exact ⟨pumping', hp'⟩
  isOpen := by
    obtain ⟨source, hs, hopen⟩ := h.isOpen
    obtain ⟨found, hfound, hback, -⟩ := hl.readable
    cases hs.symm.trans hfound
    exact hquiet.opens hs ⟨_, hback⟩ hopen

end Flowing

variable [Host H]

/-- The pipe carries what comes until its source has ended or failed, unless the pipe out of the
transform stream gives up. -/
theorem Carries.act (h : p.Carries s) (hw : s.Wired mark) (hl : p.Laid s.streams)
    (ha : Session.Act s t) : p.Carries t ∨ ∃ name pipe, s.streams.RunsAs name pipe ∧
      pipe.source = p.stage.readable ∧ Session.GivesUp name pipe s t := by
  obtain ⟨made, hcourse⟩ := ha.course hw.composed
  rcases h with hflows | hbroken | hended
  · cases ha with
    | quiet hquiet => exact .inl (.inl (hflows.quiet hl hquiet))
    | @pipe name pipe _ hr hact =>
      by_cases hne : name = p.inlet
      · subst hne
        exact .inl (hflows.own hw hl hr hact)
      · rcases hflows.other hw hl hr hne hact with hstill | ⟨hsource, hgives⟩
        · exact .inl (.inl hstill)
        · exact .inr ⟨name, pipe, hr, hsource, hgives⟩
  · exact .inl (.inr (.inl (hcourse.readableState? hw.composed hbroken (by simp))))
  · exact .inl (.inr (.inr (hcourse.readableState? hw.composed hended (by simp))))

/-- As long as nothing is piped out of the transform stream. -/
theorem Carries.acts {but : Set PipeId} (h : p.Carries s) (hw : s.Wired mark)
    (hl : p.Laid s.streams) (hfree : ∀ {name pipe}, s.streams.RunsAs name pipe → pipe.source ≠
      p.stage.readable)
    (ha : Session.Acts but s t) : p.Carries t := by
  suffices hkept : p.Carries t ∧ Session.MovesTo s t ∧ p.Laid t.streams from hkept.1
  refine ha.keeps (P := fun t => p.Carries t ∧ Session.MovesTo s t ∧ p.Laid t.streams)
    hw ?_ ⟨h, .refl, hl⟩
  rintro u v hwired hact ⟨hcarries, hmoves, hlaid⟩
  obtain ⟨made, hcourse⟩ := hact.course hwired.composed
  refine ⟨(hcarries.act hwired hlaid hact).resolve_right ?_,
    hmoves.trans (hact.movesTo hwired.composed), hlaid.course hcourse hwired.composed⟩
  rintro ⟨name, pipe, ⟨pumping, hp⟩, hsource, -⟩
  obtain ⟨pumping', hbefore⟩ := hmoves.running_before hp rfl
  exact hfree ⟨pumping', hbefore⟩ hsource

end Passthrough

end EdgeStreams
