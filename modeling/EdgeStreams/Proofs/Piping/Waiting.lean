import EdgeStreams.Proofs.Piping.Endings
import EdgeStreams.Proofs.Queue.Taking

/-!
# What a waiting pipe has left alone

A pipe that reads a transform stream may drive the pipe into that stream, which may drive another
one behind it, and so on; the steps of these pipes are not counted. But a pipe that has found
nothing to read has left all destinations alone: whatever ended or failed a destination on the way
would have come to the reader, as the end or the failure of the streams in between.

## Main definitions

- `Session.Calm`: no destination has stopped taking writes
- `Session.Doomed`: a reader of the stream does not have to wait
- `Session.Apt`: what is assumed of the streams and the pipes

## Main statements

- `Session.FlowWaits`, `Session.flowWaits`: the functions that make data flow
-/

namespace EdgeStreams

variable {H E : Type}

/-- There is nothing to read at once. -/
def Registry.IsDry (streams : Registry E) (id : ReadableId) : Prop :=
  ∃ source, streams.source? id = some source ∧ source.controller.IsDry

namespace Session

variable {s t u : Session H E} {mark : UInt64} {id : ReadableId} {source : Source E}

/-- No destination of a running pipe has stopped taking writes. -/
def Calm (s t : Session H E) : Prop :=
  ∀ name pipe, t.streams.pipe? name = some pipe → pipe.isRunning →
    s.streams.Accepts pipe.destination → t.streams.Accepts pipe.destination

theorem Calm.of_sinks (h : t.streams.sinks = s.streams.sinks) : s.Calm t := by
  rintro name pipe hp hr ⟨sink, hk, hw⟩
  exact ⟨sink, (congrArg (SlotMap.get? · pipe.destination.key) h).trans hk, hw⟩

theorem Calm.refl (s : Session H E) : s.Calm s := .of_sinks rfl

/-- A stream takes no more chunks, or the pipe into it, which is not being driven, reads such a
stream: a reader finds something at once, or once it has driven that pipe. -/
inductive Doomed (s : Session H E) : ReadableId → Prop
  | spent {id : ReadableId} {source : Source E} : s.streams.source? id = some source →
    source.IsTransform → ¬ source.controller.IsOpen → Doomed s id
  | fed {id : ReadableId} {source : Source E} {bridgeId : BridgeId} {bridge : Bridge E}
    {name : PipeId} {pipe : Pipe} : s.streams.source? id = some source →
      source.backing = .transform bridgeId → s.streams.bridge? bridgeId = some bridge →
        s.streams.pipe? name = some pipe → pipe.isRunning → pipe.pumping = false →
          pipe.destination = bridge.writable → Doomed s pipe.source → Doomed s id

namespace Doomed

theorem isTransform (h : s.Doomed id) (hs : s.streams.source? id = some source) :
    source.IsTransform := by
  cases h with
  | spent hfound ht _ => exact Option.some.inj (hfound.symm.trans hs) ▸ ht
  | fed hfound hback => exact Option.some.inj (hfound.symm.trans hs) ▸ ⟨_, hback⟩

/-- Driving a pipe is of no help only to those who wait for the pipe itself. By induction along the
pipes. -/
theorem drive (h : s.Doomed id) {name : PipeId} {pipe : Pipe}
    (hp : s.streams.pipe? name = some pipe) (pumping : Bool) :
    Doomed (mapStreams (fun streams => streams.setPipe name { pipe with pumping }) s) id ∨
      Doomed (mapStreams (fun streams => streams.setPipe name { pipe with pumping }) s)
        pipe.source := by
  induction h with
  | spent hs ht hopen => exact .inl (.spent hs ht hopen)
  | @fed id source bridgeId bridge other found hs hback hb hfound hr hparked hd _ ih =>
    rcases ih with hleft | hright
    · by_cases he : other = name
      · subst he
        cases hfound.symm.trans hp
        exact .inr hleft
      · have hkept : (mapStreams (fun streams => streams.setPipe name { pipe with pumping })
          s).streams.pipe? other = some found := by simpa [Registry.pipe?_setPipe, he] using hfound
        exact .inl (.fed hs hback hb hkept hr hparked hd hleft)
    · exact .inr hright

/-- A pipe stops being driven. By induction along the pipes. -/
theorem park (h : s.Doomed id) (name : PipeId) : Doomed (mapStreams (parked name) s) id := by
  cases hp : s.streams.pipe? name with
  | none =>
    have hsame : mapStreams (parked name) s = s := by simp [mapStreams, parked, hp]
    rwa [hsame]
  | some pipe =>
    have hparks : mapStreams (parked name) s =
        mapStreams (fun streams => streams.setPipe name { pipe with pumping := false }) s := by
      simp [mapStreams, parked, hp]
    rw [hparks]
    induction h with
    | spent hs ht hopen => exact .spent hs ht hopen
    | @fed id source bridgeId bridge other found hs hback hb hfound hr hparked hd _ ih =>
      have hkept : (mapStreams (fun streams => streams.setPipe name { pipe with pumping := false })
          s).streams.pipe? other = some found := by
        rw [streams_mapStreams, Registry.pipe?_setPipe]
        split
        · next he =>
          subst he
          cases hfound.symm.trans hp
          rw [hfound, ← hparked]
          rfl
        · exact hfound
      exact .fed hs hback hb hkept hr hparked hd ih

end Doomed

section Flow

variable [Host H]

theorem Calm.trans (h : s.Calm t) (h' : t.Calm u) (hm : MovesTo t u) : s.Calm u := by
  intro name pipe hp hr ha
  obtain ⟨pumping, hbefore⟩ := hm.running_before hp hr
  exact h' name pipe hp hr (h name { pipe with pumping } hbefore hr ha)

/-- A write leaves the other streams alone. -/
theorem calm_write (hc : s.streams.Composed) {destination : WritableId} {chunk : Bytes}
    {token : Option WriterToken}
    (ha : (exec (write destination chunk token) s).2.streams.Accepts destination) :
    s.Calm (exec (write destination chunk token) s).2 := by
  rintro name pipe hp hr ⟨sink, hk, hw⟩
  by_cases he : pipe.destination = destination
  · rw [he]
    exact ha
  · refine ⟨sink, ?_, hw⟩
    rw [(changesWithin_write s destination chunk token).sink?_outside fun hm =>
      he (hc.mem_sinkReach hm)]
    exact hk

/-! ### Pipes that are no longer driven -/

omit [Host H] in
theorem sinks_parked (name : PipeId) (s : Session H E) :
    (mapStreams (parked name) s).streams.sinks = s.streams.sinks := by
  rw [streams_mapStreams, parked]
  split <;> rfl

omit [Host H] in
theorem sinkReady_parked (name : PipeId) (s : Session H E) (id : WritableId) :
    (mapStreams (parked name) s).streams.sinkReady id = s.streams.sinkReady id := by
  rw [streams_mapStreams, parked]
  split <;> rfl

theorem runsTo_park (name : PipeId) (s : Session H E) : s.RunsTo (mapStreams (parked name) s) := by
  cases hp : s.streams.pipe? name with
  | none =>
    have hsame : mapStreams (parked name) s = s := by simp [mapStreams, parked, hp]
    exact hsame.symm ▸ .refl s
  | some pipe =>
    have hparks : mapStreams (parked name) s =
        mapStreams (fun streams => streams.setPipe name { pipe with pumping := false }) s := by
      simp [mapStreams, parked, hp]
    exact hparks ▸ .drive false hp

omit [Host H] in
/-- A pipe that has come to its end does not run. -/
theorem finished_pipeFinished (name : PipeId) {state : PipeState} (hstate : state ≠ .running)
    (s : Session H E) (pipe : Pipe)
    (hp : (pipeFinished name state s).streams.pipe? name = some pipe) : ¬ pipe.isRunning := by
  rw [pipeFinished, streams_mapStreams] at hp
  by_cases hrun : ∃ found, s.streams.pipe? name = some found ∧ found.isRunning
  · obtain ⟨found, hfound, hr⟩ := hrun
    rw [Registry.pipe?_finishPipe state hfound hr, if_pos rfl] at hp
    cases hp
    exact fun hr => hstate (Registry.isRunning_iff.mp hr)
  · rw [Registry.finishPipe_of_not_running _ fun found hfound hr => hrun ⟨found, hfound, hr⟩] at hp
    exact fun hr => hrun ⟨pipe, hp, hr⟩

theorem finished_failPipe (name : PipeId) (pipe : Pipe) (error : StreamError) (s : Session H E)
    (pipe' : Pipe) (hp : (failPipe name pipe error s).2.streams.pipe? name = some pipe') :
    ¬ pipe'.isRunning := by
  obtain ⟨t, -, heq⟩ := failPipe_eq name pipe error s
  rw [heq] at hp
  exact finished_pipeFinished name (by simp) t pipe' hp

/-- A pipe whose destination takes no writes comes to its end. -/
theorem finished_of_closed {fuel steps : Nat} {name : PipeId} {pipe : Pipe} {r : Nat × Session H E}
    (hclosed : ¬ s.streams.Accepts pipe.destination)
    (h : EdgeStreams.drive (pumpSteps fuel name pipe steps) s = some r) (pipe' : Pipe)
    (hp : r.2.streams.pipe? name = some pipe') : ¬ pipe'.isRunning := by
  cases fuel with
  | zero => cases h
  | succ fuel =>
    rcases pumpSteps_cases h with ⟨error, -, rfl⟩ | ⟨hfault, -⟩
    · exact finished_failPipe name pipe error s pipe' hp
    · exact absurd (Registry.destinationFault?_eq_none_iff.mp hfault) hclosed

/-! ### Streams that pipes leave alone -/

/-- The journal only grows. By induction on the changes. -/
theorem ChangesWithin.journal {f : Footprint} (h : ChangesWithin f s t) :
    ∃ new, t.journal = new ++ s.journal := by
  induction h with
  | refl => exact ⟨[], rfl⟩
  | note _ _ _ ih =>
    obtain ⟨new, he⟩ := ih
    exact ⟨_ :: new, congrArg _ he⟩
  | setSource _ _ _ _ _ ih | setSink _ _ _ _ ih | setBridge _ _ _ _ ih | env _ _ ih
  | call _ _ _ ih => exact ih

theorem MovesTo.journal (h : MovesTo s t) : ∃ new, t.journal = new ++ s.journal := by
  induction h with
  | refl => exact ⟨[], rfl⟩
  | touch _ ht ih =>
    obtain ⟨new, he⟩ := ih
    obtain ⟨more, he'⟩ := ht.journal
    exact ⟨more ++ new, by rw [he', he, List.append_assoc]⟩
  | note event _ ih =>
    obtain ⟨new, he⟩ := ih
    exact ⟨event :: new, congrArg _ he⟩
  | drive _ _ _ ih | finish _ _ _ ih => exact ih

/-- A stream with nothing in it had nothing in it, if nothing has been taken out since. -/
theorem Wired.isDry_before (hw : s.Wired mark) (hruns : s.RunsTo t) (hkept : WithholdsChunks id s t)
    (hd : t.streams.IsDry id) : s.streams.IsDry id := by
  obtain ⟨source', hs', hstate', hqueue'⟩ := hd
  obtain ⟨made, hcourse⟩ := hruns.course
  obtain ⟨source, hs, hstays⟩ := hcourse.stayed hw.composed hs'
  have hstate : source.controller.state = .readable := by
    by_contra hne
    exact hne ((hstays.controller.state hne).symm.trans hstate')
  refine ⟨source, hs, hstate, ?_⟩
  obtain ⟨first, hinOrder⟩ := hw.passedInOrder hs
  obtain ⟨put', taken', hput', htaken', hpassed'⟩ := hcourse.passedInOrder hw.composed hinOrder
  obtain ⟨put, taken, hput, htaken, hpassed⟩ := hinOrder
  rw [hs] at hpassed
  rw [hs'] at hpassed'
  obtain ⟨new, hjournal⟩ := hruns.movesTo.journal
  have hgrows : t.enqueued id = new.filterMap (StreamEvent.enqueued? id) ++ s.enqueued id := by
    rw [enqueued, hjournal, List.filterMap_append]
    rfl
  cases hpassed with
  | lives hq =>
    cases hpassed' with
    | lives hq' =>
      have hbefore := congrArg List.length (hq.order_of_readable hstate)
      have hafter := congrArg List.length (hq'.order_of_readable hstate')
      have hsame := congrArg List.length (htaken'.symm.trans (hkept.delivered.trans htaken))
      have hmore := congrArg List.length (hput'.symm.trans (hgrows.trans (congrArg _ hput)))
      simp only [List.length_append, List.length_reverse, hqueue', List.length_nil] at *
      exact List.eq_nil_of_length_eq_zero (by omega)

omit [Host H] in
theorem Undrawn.of_pipes (hu : Undrawn id s) (hp : t.streams.pipes = s.streams.pipes) :
    Undrawn id t := fun name pipe hfound =>
  hu name pipe ((Registry.pipe?_congr hp name).symm.trans hfound)

theorem Undrawn.flowsTo (hu : Undrawn id s) (hm : MovesTo s t) (hl : s.Level t) : Undrawn id t := by
  intro name pipe hp hr he
  obtain ⟨pumping, hbefore⟩ := hm.running_before hp hr
  obtain ⟨found, hfound, hsame⟩ := SlotMap.rel_some_right (hp ▸ hl.pipe name)
  cases hbefore.symm.trans hfound
  exact hsame.trans (hu name _ hfound hr he)

/-! ### What is assumed -/

/-- Streams are wired, an empty queue leaves room, running pipes end and fail their destinations,
and the pipe out of a stream that is being pulled is being driven. -/
structure Apt (mark : UInt64) (s : Session H E) : Prop extends s.Wired mark where
  room : 0 < room mark 0
  spreadsEnds : ∀ {name pipe}, s.streams.pipe? name = some pipe → pipe.isRunning → pipe.SpreadsEnds
  driven : ∀ {id source}, s.streams.source? id = some source → source.pulling = true → Undrawn id s

/-- A pipe that runs still does what it did. -/
theorem MovesTo.spreadsEnds (hm : MovesTo s t)
    (h : ∀ {name pipe}, s.streams.pipe? name = some pipe → pipe.isRunning → pipe.SpreadsEnds)
    {name : PipeId} {pipe : Pipe} (hp : t.streams.pipe? name = some pipe) (hr : pipe.isRunning) :
    pipe.SpreadsEnds := by
  obtain ⟨pumping, hbefore⟩ := hm.running_before hp hr
  have hspreads := h hbefore hr
  exact hspreads

namespace Apt

variable (h : s.Apt mark)
include h

theorem flowsTo (hr : s.RunsTo t) (hl : s.Level t) : t.Apt mark where
  toWired := hr.wired h.toWired
  room := h.room
  spreadsEnds := hr.movesTo.spreadsEnds h.spreadsEnds
  driven hs' hp' := by
    obtain ⟨source, hs, hsame⟩ := SlotMap.rel_some_right (hs' ▸ hl.source _)
    exact (h.driven hs (hsame.symm.trans hp')).flowsTo hr.movesTo hl

/-- A pull begins of a stream out of which nothing is taken but by the reader. -/
theorem beginPull (hr : s.RunsTo
      (note (.pullBegan id) (setSource id { source with pulling := true } s)))
    (hu : Undrawn id s) :
    (note (.pullBegan id) (setSource id { source with pulling := true } s)).Apt mark where
  toWired := hr.wired h.toWired
  room := h.room
  spreadsEnds := hr.movesTo.spreadsEnds h.spreadsEnds
  driven {other found} hs' hp' := by
    by_cases he : other = id
    · exact he ▸ hu.of_pipes rfl
    · rw [streams_note, streams_setSource, Registry.source?_setSource, if_neg he] at hs'
      exact (h.driven hs' hp').of_pipes rfl

/-- A pipe starts being driven. -/
theorem drive {name : PipeId} {pipe : Pipe} (hp : s.streams.pipe? name = some pipe) :
    (mapStreams (fun streams => streams.setPipe name { pipe with pumping := true })
      s).Apt mark where
  toWired := (RunsTo.drive true hp).wired h.toWired
  room := h.room
  spreadsEnds := (RunsTo.drive true hp).movesTo.spreadsEnds h.spreadsEnds
  driven hs' hp' := by
    intro other found hfound hr he
    rw [streams_mapStreams, Registry.pipe?_setPipe] at hfound
    split at hfound
    · rw [hp, Option.map_some, Option.some.injEq] at hfound
      rw [← hfound]
    · exact h.driven hs' hp' other found hfound hr he

omit [Host H] in
/-- A stream that has not been started, has failed or has ended does not wait for a reader. -/
theorem wantsPull (hs : s.streams.source? id = some source) (ht : source.IsTransform)
    (hd : source.controller.IsDry) (waits : Bool) : source.wantsPull waits = true := by
  obtain ⟨hmark, hmeasured⟩ := h.couples.marked hs ht
  have hstart : source.start = .resolved :=
    (h.couples.started hs).resolve_right fun hrejected => hrejected.2 hd.1
  have hcanceled : source.canceled = false := by
    by_contra hc
    exact h.state_of_canceled hs (by simpa using hc) hd.1
  have hrequested : source.controller.closeRequested = false := by
    by_contra hc
    exact hmeasured.ended (by simpa using hc) hd.2 hd.1
  have hroom : 0 < source.controller.desiredSize.getD 0 := by
    simpa [ReadableController.desiredSize, hd.1, hmeasured.queued, hd.2, hmark] using h.room
  simp [Source.wantsPull, hstart, StartState.isResolved, hcanceled, hrequested, hd.1, hroom]

omit [Host H] in
theorem not_isDry_of_not_open (hs : s.streams.source? id = some source) (ht : source.IsTransform)
    (hopen : ¬ source.controller.IsOpen) : ¬ s.streams.IsDry id := by
  rintro ⟨found, hfound, hd⟩
  cases hs.symm.trans hfound
  exact ReadableController.not_isDry_of_not_open (h.couples.marked hs ht).2 hopen hd

/-- A pipe that has come to an end has left the stream it wrote to, if that is the one. -/
theorem over_of_finished (hr : s.RunsTo t) {bridgeId : BridgeId} {bridge : Bridge E} {name : PipeId}
    {pipe : Pipe} (hs : s.streams.source? id = some source)
    (hback : source.backing = .transform bridgeId) (hb : s.streams.bridge? bridgeId = some bridge)
    (hp : s.streams.pipe? name = some pipe) (hrunning : pipe.isRunning)
    (hd : pipe.destination = bridge.writable)
    (hfinished : ∀ pipe', t.streams.pipe? name = some pipe' → ¬ pipe'.isRunning) :
    ∃ source', t.streams.source? id = some source' ∧ source'.IsTransform ∧
      ¬ source'.controller.IsOpen := by
  obtain ⟨made, hcourse⟩ := hr.course
  obtain ⟨source', hs', hstays⟩ := hcourse.stays h.composed hs
  obtain ⟨bridge', hb', hkeeps⟩ := SlotMap.rel_some_left (hb ▸ hcourse.bridge h.composed bridgeId)
  obtain ⟨held, spent, horderly⟩ := h.orderly
  obtain ⟨sink, hk, -⟩ := (horderly.holds name pipe hp hrunning).sink
  have hlives : t.streams.containsWritable bridge'.writable = true := by
    rw [hkeeps.writable, ← hd]
    exact hr.movesTo.containsWritable (by simp [Registry.containsWritable, hk])
  have hback' : source'.backing = .transform bridgeId := hstays.backing.trans hback
  refine ⟨source', hs', ⟨bridgeId, hback'⟩, ?_⟩
  obtain ⟨state, pumping, hp', rfl | hended⟩ := hr.ends hp hrunning (h.spreadsEnds hp hrunning)
  · exact absurd rfl (hfinished _ hp')
  · obtain ⟨sink', hk'⟩ := Option.isSome_iff_exists.mp hlives
    refine ((hr.wired h.toWired).couples.paired hs' hback' hb' hk').2 fun hw =>
      hended.destination ?_
    rw [hd, ← hkeeps.writable]
    exact ⟨sink', hk', hw⟩

end Apt

/-- What is bound to come to a reader still is. By induction along the pipes: those that have ended
since leave a stream that takes no more chunks. -/
theorem Doomed.runsTo (hd : s.Doomed id) (h : s.Apt mark) (hr : s.RunsTo t)
    (hl : ∀ name, Option.Rel (fun pipe pipe' => pipe'.pumping = pipe.pumping)
      (s.streams.pipe? name) (t.streams.pipe? name)) : t.Doomed id := by
  obtain ⟨made, hcourse⟩ := hr.course
  induction hd with
  | spent hs ht hopen =>
    obtain ⟨source', hs', hstays⟩ := hcourse.stays h.composed hs
    exact .spent hs' (hstays.isTransform_iff.mpr ht) (hstays.controller.not_open hopen)
  | @fed id source bridgeId bridge name pipe hs hback hb hp hrunning hparked hd _ ih =>
    obtain ⟨source', hs', hstays⟩ := hcourse.stays h.composed hs
    obtain ⟨bridge', hb', hkeeps⟩ := SlotMap.rel_some_left (hb ▸ hcourse.bridge h.composed bridgeId)
    obtain ⟨pipe', hp', hsame⟩ := SlotMap.rel_some_left (hp ▸ hl name)
    obtain ⟨state, pumping, hstill⟩ := hr.movesTo.pipe hp
    cases hp'.symm.trans hstill
    by_cases hrunning' : state = .running
    · exact .fed hs' (hstays.backing.trans hback) hb' hp' (Registry.isRunning_iff.mpr hrunning')
        (hsame.trans hparked) (hd.trans hkeeps.writable.symm) ih
    · obtain ⟨last, hlast, ht, hopen⟩ := h.over_of_finished hr hs hback hb hp hrunning hd
        fun pipe' hfound hr' => hrunning' (by
          cases hp'.symm.trans hfound
          exact Registry.isRunning_iff.mp hr')
      exact .spent hlast ht hopen

/-! ### The functions that call each other -/

/-- What a pull of a stream leaves. Either all destinations have been left alone, or a reader of the
stream does not have to wait; and if there is nothing to read before and after, the former. -/
structure Pulls (id : ReadableId) (s t : Session H E) : Prop where
  calm : s.Calm t ∨ t.Doomed id
  dry : s.streams.IsDry id → t.streams.IsDry id → s.Calm t ∧ ¬ s.Doomed id

namespace Pulls

/-- One pull after another. -/
theorem trans (h : Pulls id s t) (h' : Pulls id t u) (hm : MovesTo t u)
    (hdoomed : t.Doomed id → u.Doomed id) (hdry : u.streams.IsDry id → t.streams.IsDry id) :
    Pulls id s u where
  calm := by
    rcases h'.calm with hcalm' | hd
    · exact h.calm.imp (fun hcalm => hcalm.trans hcalm' hm) hdoomed
    · exact .inr hd
  dry hs hu := by
    obtain ⟨hcalm, hsafe⟩ := h.dry hs (hdry hu)
    exact ⟨hcalm.trans (h'.dry (hdry hu) hu).1 hm, hsafe⟩

/-- What comes before and after leaves the destinations and the stream alone. -/
theorem within {s' t' : Session H E} (h : Pulls id s' t') (hcalm : s.Calm s') (hcalm' : t'.Calm t)
    (hm : MovesTo s' t') (hm' : MovesTo t' t) (hdoomed : s.Doomed id → s'.Doomed id)
    (hdoomed' : t'.Doomed id → t.Doomed id) (hdry : s.streams.IsDry id → s'.streams.IsDry id)
    (hdry' : t.streams.IsDry id → t'.streams.IsDry id) : Pulls id s t where
  calm := h.calm.imp (fun hmiddle => (hcalm.trans hmiddle hm).trans hcalm' hm') hdoomed'
  dry hs ht := by
    obtain ⟨hmiddle, hsafe⟩ := h.dry (hdry hs) (hdry' ht)
    exact ⟨(hcalm.trans hmiddle hm).trans hcalm' hm', hsafe ∘ hdoomed⟩

end Pulls

/-- What a reader learns of a stream: whether a destination has stopped taking writes behind it. -/
structure ReadTellsDoom (id : ReadableId) (s : Session H E)
    (r : Except StreamError ReadOutcome × Session H E) : Prop where
  calm : s.Calm r.2 ∨ r.2.Doomed id
  pending : r.1 = .ok .pending → s.Calm r.2 ∧ ¬ s.Doomed id

/-- How a pipe that has been driven comes to rest. -/
inductive Rests (name : PipeId) (pipe : Pipe) (s t : Session H E) : Prop
  /-- There is nothing to read. -/
  | starved : s.Calm t → ¬ s.Doomed pipe.source → Rests name pipe s t
  | ended : (∀ pipe', t.streams.pipe? name = some pipe' → ¬ pipe'.isRunning) → Rests name pipe s t
  /-- The destination is not ready. -/
  | stopped : t.streams.sinkReady pipe.destination = false → s.Calm t ∨ t.Doomed pipe.source →
    Rests name pipe s t

/-- With some fuel, whatever there is an outcome of leaves destinations alone as reads and pulls
do. -/
structure FlowWaits (H E : Type) [Host H] (mark : UInt64) (fuel : Nat) : Prop where
  readUnchecked {s : Session H E} {id : ReadableId}
    {r : Except StreamError ReadOutcome × Session H E} : s.Apt mark → Undrawn id s →
      (∀ source, s.streams.source? id = some source → source.pulling = false) →
        attempt (Session.readUnchecked fuel id) s = some r → ReadTellsDoom id s r
  pullIfNeeded {s : Session H E} {id : ReadableId} {source : Source E} {readerWaits : Bool}
    {r : Unit × Session H E} : s.Apt mark → Undrawn id s → s.streams.source? id = some source →
      source.IsTransform → source.pulling = false → s.streams.isDisturbed id = true →
        EdgeStreams.drive (Session.pullIfNeeded fuel id readerWaits) s = some r → Pulls id s r.2
  pull {s : Session H E} {id : ReadableId} {source : Source E}
    {r : Except StreamError Unit × Session H E} : s.Apt mark →
      s.streams.source? id = some source → source.IsTransform →
        attempt (Session.pull fuel id) s = some r → Pulls id s r.2
  pumpPipe {s : Session H E} {name : PipeId} {pipe : Pipe} {r : Nat × Session H E} : s.Apt mark →
    s.streams.pipe? name = some pipe → pipe.isRunning → pipe.pumping = false →
      EdgeStreams.drive (Session.pumpPipe fuel name) s = some r → Rests name pipe s r.2 ∧
        (r.1 = 0 → s.Calm r.2 ∧ s.streams.Accepts pipe.destination)
  pumpSteps {s : Session H E} {name : PipeId} {steps : Nat} {r : Nat × Session H E} (pipe : Pipe) :
    s.Apt mark → s.streams.pipe? name = some { pipe with state := .running, pumping := true } →
      (∀ source, s.streams.source? pipe.source = some source → source.pulling = false) →
        EdgeStreams.drive (Session.pumpSteps fuel name pipe steps) s = some r →
          Rests name pipe s r.2 ∧ (r.1 = steps → s.Calm r.2 ∧ s.streams.Accepts pipe.destination)

namespace FlowWaits

theorem zero : FlowWaits H E mark 0 where
  readUnchecked _ _ _ h := by cases h
  pullIfNeeded _ _ _ _ _ _ h := by cases h
  pull _ _ _ h := by cases h
  pumpPipe _ _ _ _ h := by cases h
  pumpSteps _ _ _ _ h := by cases h

variable {fuel : Nat} (ih : FlowWaits H E mark fuel)

/-- A read of a host body or of a guest leaves all sinks alone. -/
theorem readUnchecked_native {r : Except StreamError ReadOutcome × Session H E}
    (hc : s.streams.Composed) (hs : s.streams.source? id = some source) (hn : ¬ source.IsTransform)
    (h : attempt (Session.readUnchecked fuel id) s = some r) : ReadTellsDoom id s r := by
  have hp := hc.native hs hn
  have hcalm : s.Calm r.2 := by
    refine .of_sinks ?_
    rcases revised_readUnchecked hs hn hp (hc.notAsked hs hp) h with
      ⟨source', -, new, -, he⟩ | ⟨outcome, source', host, env, -, ⟨new, -, he⟩,
        -⟩ <;> rw [he] <;> rfl
  exact ⟨.inl hcalm, fun _ => ⟨hcalm, fun hd => hn (hd.isTransform hs)⟩⟩

omit [Host H] in
theorem sinks_takeReady (id : ReadableId) (s : Session H E) :
    (exec (takeReady id) s).2.streams.sinks = s.streams.sinks := by
  cases hs : s.streams.source? id with
  | none => simp [takeReady, exec_bind, hs]
  | some source =>
    rw [exec_takeReady hs, streams_noteDelivered]
    rfl

omit [Host H] in
/-- Nothing is bound to come to the reader of an empty stream, if that is so of the pipe into it. -/
theorem not_doomed_of_dry {bridgeId : BridgeId} {bridge : Bridge E} (hapt : s.Apt mark)
    (hs : s.streams.source? id = some source) (hback : source.backing = .transform bridgeId)
    (hb : s.streams.bridge? bridgeId = some bridge) (hdry : s.streams.IsDry id)
    (hinto : ∀ name pipe, s.streams.pipe? name = some pipe → pipe.isRunning →
      pipe.pumping = false → pipe.destination = bridge.writable → ¬ s.Doomed pipe.source) :
    ¬ s.Doomed id := by
  intro hdoomed
  cases hdoomed with
  | spent hfound ht hopen => exact hapt.not_isDry_of_not_open hfound ht hopen hdry
  | fed hfound hback' hb' hp hr hparked hd hbehind =>
    cases hs.symm.trans hfound
    cases hback.symm.trans hback'
    cases hb.symm.trans hb'
    exact hinto _ _ hp hr hparked hd hbehind

include ih

theorem readUnchecked_succ {r : Except StreamError ReadOutcome × Session H E} (hapt : s.Apt mark)
    (hu : Undrawn id s)
    (hidle : ∀ source, s.streams.source? id = some source → source.pulling = false)
    (h : attempt (Session.readUnchecked (fuel + 1) id) s = some r) : ReadTellsDoom id s r := by
  have hc := hapt.composed
  cases hs : s.streams.source? id with
  | none => exact readUnchecked_of_gone hs h ▸ ⟨.inl (.refl s), nofun⟩
  | some source =>
    by_cases ht : source.IsTransform
    swap
    · exact readUnchecked_native hc hs ht h
    rcases readUnchecked_cases hs h with ⟨hstart, rfl⟩ | ⟨error, -, rfl⟩ |
      ⟨-, found, t, htake, hafter⟩
    · rcases hapt.couples.started hs with hresolved | ⟨⟨error, hrejected⟩, -⟩
      · cases hstart.symm.trans hresolved
      · cases hstart.symm.trans hrejected
    · exact ⟨.inl (.refl s), nofun⟩
    -- what is there is taken first
    have hd := isDisturbed_disturb hs
    have hmarked := source?_disturb hs
    have hmarks := FlowRuns.runsTo_disturb hs ht
    have htakes := FlowRuns.runsTo_takeReady hmarked ht hd
    have htaken := hmarks.trans htakes hc
    have hlevel := (flowsTo_disturb hs ht).level.trans (flowsTo_takeReady hmarked ht).level
    have hd' := htakes.movesTo.disturbed hd
    have hfound := source?_takeReady hmarked
    have hready : (exec (takeReady id) (disturb id source s)).1 =
        source.controller.takeReady.1 := by
      rw [exec_takeReady hmarked]
    have hcalm : s.Calm (exec (takeReady id) (disturb id source s)).2 :=
      .of_sinks (sinks_takeReady id _)
    simp only [htake] at htaken hlevel hd' hfound hready hcalm
    have hapt' := hapt.flowsTo htaken hlevel
    have hu' := hu.flowsTo htaken.movesTo hlevel
    cases hafter with
    | settled found hsome _ =>
      refine ⟨.inl hcalm, fun hpending => ?_⟩
      -- a reader finds nothing only where there is nothing
      have hdry := ReadableController.isDry_of_takeReady (hready ▸ hpending)
      rw [ReadableController.takeReady_of_dry hdry] at hready
      exact absurd hready hsome
    | full data u hpull =>
      have hpulls := ih.pullIfNeeded hapt' hu' hfound ht (hidle source hs) hd' hpull
      have hmoves := (flowMoves fuel).pullIfNeeded hd' hpull
      exact ⟨hpulls.calm.imp_left fun hcalm' => hcalm.trans hcalm' hmoves, nofun⟩
    | empty u hpull =>
      have hpulls := ih.pullIfNeeded hapt' hu' hfound ht (hidle source hs) hd' hpull
      have hflows := (flowDeeds fuel).pullIfNeeded hapt'.composed hfound ht hpull
      have hpulled := (flowRuns mark fuel).pullIfNeeded hapt'.toWired hfound ht hd' hpull
      have hapt'' := hapt'.flowsTo hpulled hflows.level
      obtain ⟨source', hs', ht'⟩ := hflows.isTransform hapt'.composed hfound ht
      have hlate := FlowRuns.runsTo_takeReady hs' ht' (hpulled.movesTo.disturbed hd')
      have hlast : u.Calm (exec (takeReady id) u).2 := .of_sinks (sinks_takeReady id u)
      refine ⟨?_, fun hpending => ?_⟩
      · rcases hpulls.calm with hcalm' | hdoomed
        · exact .inl ((hcalm.trans hcalm' hpulled.movesTo).trans hlast hlate.movesTo)
        · exact .inr (hdoomed.runsTo hapt'' hlate (flowsTo_takeReady hs' ht').level.pipe)
      · rw [exec_takeReady hs'] at hpending
        have hdry := ReadableController.isDry_of_none hready.symm
        have hbefore : t.streams.IsDry id := by
          refine ⟨_, hfound, ?_⟩
          simpa [ReadableController.takeReady_of_dry hdry] using hdry
        obtain ⟨hcalm', hsafe⟩ := hpulls.dry hbefore
          ⟨source', hs', ReadableController.isDry_of_takeReady hpending⟩
        exact ⟨(hcalm.trans hcalm' hpulled.movesTo).trans hlast hlate.movesTo,
          fun hdoomed => hsafe (hdoomed.runsTo hapt htaken hlevel.pipe)⟩

theorem pullIfNeeded_succ {readerWaits : Bool} {r : Unit × Session H E} (hapt : s.Apt mark)
    (hu : Undrawn id s) (hs : s.streams.source? id = some source) (ht : source.IsTransform)
    (hp : source.pulling = false) (hd : s.streams.isDisturbed id = true)
    (h : EdgeStreams.drive (Session.pullIfNeeded (fuel + 1) id readerWaits) s = some r) :
    Pulls id s r.2 := by
  have hc := hapt.composed
  rcases (flowDeeds fuel).pullIfNeeded_cases hc hs ht h with
    ⟨hwants, rfl⟩ | ⟨hwants, ⟨hpulling, -⟩ | ⟨-, t, last, hpull, hnext⟩⟩
  · refine ⟨.inl (.refl s), fun ⟨found, hfound, hdry⟩ _ => ?_⟩
    cases hs.symm.trans hfound
    rw [hapt.wantsPull hs ht hdry] at hwants
    cases hwants
  · cases hp.symm.trans hpulling
  have hbegan := FlowRuns.runsTo_beginPull hs ht hd hwants hp
  have hapt' := hapt.beginPull hbegan hu
  have hruns := (flowRuns mark fuel).pull hapt'.toWired hpull.during ht hpull.pull
  have hpulled := hbegan.trans hruns hc
  have hends := FlowRuns.runsTo_endPull hpull.found hpull.isTransform (hpulled.movesTo.disturbed hd)
    hpull.pulling
  have hdone := hpulled.trans hends hc
  have hlevel : ∀ {s : Session H E} name, Option.Rel (fun pipe pipe' : Pipe =>
      pipe'.pumping = pipe.pumping) (s.streams.pipe? name) (s.streams.pipe? name) :=
    fun {s} => (Level.refl s).pipe
  have hwhole : Pulls id s (setSource id { last with pulling := false, pullAgain := false }
      (Session.note (.pullEnded id (.ok ())) t)) := by
    refine (ih.pull hapt' hpull.during ht hpull.pull).within (.of_sinks rfl)
      (.of_sinks rfl) hruns.movesTo hends.movesTo (fun hd => hd.runsTo hapt hbegan hlevel)
      (fun hd => hd.runsTo (hapt'.flowsTo hruns hpull.flowsTo.level) hends hlevel) ?_ ?_
    · rintro ⟨found, hfound, hdry⟩
      cases hs.symm.trans hfound
      exact ⟨_, hpull.during, hdry⟩
    · rintro ⟨found, hfound, hdry⟩
      cases hpull.ended.symm.trans hfound
      exact ⟨last, hpull.found, hdry⟩
  rcases hnext with rfl | hagain
  · exact hwhole
  · have hapt'' := hapt.flowsTo hdone hpull.whole.level
    have hu' := hu.flowsTo hdone.movesTo hpull.whole.level
    have hd' := hdone.movesTo.disturbed hd
    have hmore := (flowRuns mark fuel).pullIfNeeded hapt''.toWired hpull.ended
      hpull.isTransform hd' hagain
    have hmoreFlows := (flowDeeds fuel).pullIfNeeded hapt''.composed hpull.ended
      hpull.isTransform hagain
    exact hwhole.trans (ih.pullIfNeeded hapt'' hu' hpull.ended hpull.isTransform rfl hd' hagain)
      hmore.movesTo (fun hd => hd.runsTo hapt'' hmore hmoreFlows.level.pipe)
      (hapt''.isDry_before hmore ((flowWithholds id fuel).pullIfNeeded hu' hagain))

theorem pull_succ {r : Except StreamError Unit × Session H E} (hapt : s.Apt mark)
    (hs : s.streams.source? id = some source) (ht : source.IsTransform)
    (h : attempt (Session.pull (fuel + 1) id) s = some r) : Pulls id s r.2 := by
  obtain ⟨bridgeId, hback⟩ := ht
  obtain ⟨bridge, hb, -⟩ := hapt.composed.readable hs hback
  obtain ⟨held, spent, horderly⟩ := hapt.orderly
  have hasked := FlowRuns.runsTo_request hb
  have hcalm : s.Calm (setBridge bridgeId { bridge with pullRequested := true } s) := .of_sinks rfl
  have hapt' := hapt.flowsTo hasked (FlowDeeds.flowsTo_request hb).level
  rcases pull_cases hs hback hb h with ⟨hinto, rfl⟩ | ⟨name, steps, t, hinto, hpump, rfl⟩
  · refine ⟨.inl hcalm, fun hdry _ => ⟨hcalm, not_doomed_of_dry hapt hs hback hb hdry ?_⟩⟩
    intro name pipe hp hr _ hd _
    have hfound := Registry.pipeInto?_eq_some s.streams hp hr fun other found hother hr' hd' =>
      horderly.destination_inj hother hr' hp hr hd'
    rw [hd, hinto] at hfound
    cases hfound
  · obtain ⟨pipe, hp, hr, hd⟩ := s.streams.of_pipeInto?_eq_some hinto
    have honly : ∀ {other found}, s.streams.pipe? other = some found → found.isRunning →
        found.destination = bridge.writable → found = pipe := fun hother hr' hd' => by
      cases horderly.destination_inj hother hr' hp hr (hd'.trans hd.symm)
      exact Option.some.inj (hother.symm.trans hp)
    cases hparked : pipe.pumping with
    | true =>
      -- the pipe is being driven already
      have hidle : t = setBridge bridgeId { bridge with pullRequested := true } s := by
        cases fuel with
        | zero => cases hpump
        | succ fuel =>
          rcases pumpPipe_cases hpump with ⟨-, he⟩ | ⟨found, _, _, hfound, -, hidle, -, -⟩
          · exact congrArg Prod.snd he
          · cases hp.symm.trans hfound
            cases hparked.symm.trans hidle
      subst hidle
      refine ⟨.inl hcalm, fun hdry _ => ⟨hcalm, not_doomed_of_dry hapt hs hback hb hdry ?_⟩⟩
      intro other found hother hr' hparked' hd' _
      cases honly hother hr' hd'
      cases hparked.symm.trans hparked'
    | false =>
      have hrests := (ih.pumpPipe hapt' hp hr hparked hpump).1
      have hpumped := (flowRuns mark fuel).pumpPipe hapt'.toWired hpump
      have hlevel := ((flowDeeds fuel).pumpPipe hapt'.composed hpump).level
      have hruns := hasked.trans hpumped hapt.composed
      have hapt'' := hapt'.flowsTo hpumped hlevel
      obtain ⟨made, hcourse⟩ := hruns.course
      obtain ⟨source', hs', hstays⟩ := hcourse.stays hapt.composed hs
      obtain ⟨bridge', hb', hkeeps⟩ :=
        SlotMap.rel_some_left (hb ▸ hcourse.bridge hapt.composed bridgeId)
      have hback' := hstays.backing.trans hback
      cases hrests with
      | starved hcalm' hsafe =>
        have hall := hcalm.trans hcalm' hpumped.movesTo
        refine ⟨.inl hall, fun hdry _ => ⟨hall, not_doomed_of_dry hapt hs hback hb hdry ?_⟩⟩
        intro other found hother hr' _ hd' hdoomed
        cases honly hother hr' hd'
        exact hsafe (hdoomed.runsTo hapt hasked (Level.refl s).pipe)
      | ended hfinished =>
        obtain ⟨last, hlast, ht, hopen⟩ :=
          hapt.over_of_finished hruns hs hback hb hp hr hd hfinished
        exact ⟨.inr (.spent hlast ht hopen),
          fun _ hdry => absurd hdry (hapt''.not_isDry_of_not_open hlast ht hopen)⟩
      | stopped hready hcalm' =>
        have hunready : t.streams.sinkReady bridge'.writable = false := by
          rw [hkeeps.writable, ← hd]
          exact hready
        refine ⟨hcalm'.imp (fun hcalm' => hcalm.trans hcalm' hpumped.movesTo) fun hdoomed => ?_,
          fun _ ⟨found, hfound, hdry⟩ => ?_⟩
        · obtain ⟨state, pumping, hp'⟩ := hruns.movesTo.pipe hp
          by_cases hrunning : state = .running
          · obtain ⟨found, hfound, hsame⟩ := SlotMap.rel_some_left (hp ▸ hlevel.pipe name)
            cases hp'.symm.trans hfound
            exact .fed hs' hback' hb' hp' (Registry.isRunning_iff.mpr hrunning)
              (hsame.trans hparked) (hd.trans hkeeps.writable.symm) hdoomed
          · obtain ⟨last, hlast, ht, hopen⟩ := hapt.over_of_finished hruns hs hback hb hp hr hd
              fun pipe' hfound hr' => hrunning (by
                cases hp'.symm.trans hfound
                exact Registry.isRunning_iff.mp hr')
            exact .spent hlast ht hopen
        · cases hs'.symm.trans hfound
          exact absurd hdry (hapt''.couples.not_isDry_of_unready hapt''.composed
            hapt''.room hs' hback' hb' hunready)

theorem pumpPipe_succ {name : PipeId} {pipe : Pipe} {r : Nat × Session H E} (hapt : s.Apt mark)
    (hp : s.streams.pipe? name = some pipe) (hr : pipe.isRunning) (hparked : pipe.pumping = false)
    (h : EdgeStreams.drive (Session.pumpPipe (fuel + 1) name) s = some r) :
    Rests name pipe s r.2 ∧ (r.1 = 0 → s.Calm r.2 ∧ s.streams.Accepts pipe.destination) := by
  obtain ⟨steps, t, hsteps, rfl⟩ := pumpPipe_of_parked hp hr hparked h
  have hidle : ∀ source, s.streams.source? pipe.source = some source → source.pulling = false := by
    intro source hs
    by_contra hpulling
    have hdriven := hapt.driven hs (by simpa using hpulling) name pipe hp hr rfl
    cases hparked.symm.trans hdriven
  have hfound : (mapStreams (fun streams => streams.setPipe name { pipe with pumping := true })
      s).streams.pipe? name = some { pipe with state := .running, pumping := true } := by
    rw [← Registry.isRunning_iff.mp hr]
    simp [Registry.pipe?_setPipe, hp]
  have hcalm : s.Calm (mapStreams
      (fun streams => streams.setPipe name { pipe with pumping := true })
      s) := .of_sinks rfl
  obtain ⟨hrests, hzero⟩ := ih.pumpSteps pipe (hapt.drive hp) hfound hidle hsteps
  have hmoves := (flowMoves fuel).pumpSteps hsteps
  have hparks := runsTo_park name t
  have hlast : t.Calm (mapStreams (parked name) t) := .of_sinks (sinks_parked name t)
  have hall : ∀ {between : Session H E}, s.Calm between → between.Calm t → MovesTo between t →
      s.Calm (mapStreams (parked name) t) := fun hfirst hsecond hbetween =>
    (hfirst.trans hsecond hbetween).trans hlast hparks.movesTo
  refine ⟨?_, fun hnone => ⟨hall hcalm (hzero hnone).1 hmoves, (hzero hnone).2⟩⟩
  cases hrests with
  | starved hmiddle hsafe =>
    exact .starved (hall hcalm hmiddle hmoves) fun hd => (hd.drive hp true).elim hsafe hsafe
  | ended hfinished =>
    refine .ended fun pipe' hp' hr' => ?_
    obtain ⟨pumping, hbefore⟩ := hparks.movesTo.running_before hp' hr'
    exact hfinished _ hbefore hr'
  | stopped hready hmiddle =>
    refine .stopped ?_ (hmiddle.imp (fun hmiddle => hall hcalm hmiddle hmoves)
      fun hd => hd.park name)
    rw [sinkReady_parked]
    exact hready

/-- A pipe that has carried a chunk comes to rest as it does afterwards: its read has left the sinks
alone unless the source is over, and its write has left the other sinks alone. -/
theorem rests_of_carried {name : PipeId} {pipe : Pipe} {steps : Nat} {r : Nat × Session H E}
    {data : Bytes} {t u : Session H E} (hapt : s.Apt mark)
    (hp : s.streams.pipe? name = some { pipe with state := .running, pumping := true })
    (hidle : ∀ source, s.streams.source? pipe.source = some source → source.pulling = false)
    (hread : attempt (Session.readUnchecked fuel pipe.source) s = some (.ok (.chunk data), t))
    (hwrite : exec (write pipe.destination data (some pipe.writer)) t = (.ok (), u))
    (hrest : EdgeStreams.drive (Session.pumpSteps fuel name pipe steps) u = some r) :
    Rests name pipe s r.2 := by
  obtain ⟨held, spent, horderly⟩ := hapt.orderly
  have hmoved := (flowRuns mark fuel).readUnchecked hapt.toWired hread
  have hlevel := ((flowDeeds fuel).readUnchecked hapt.composed hread).level
  have hapt' := hapt.flowsTo hmoved hlevel
  have htouches := changesWithin_write t pipe.destination data (some pipe.writer)
  have hflows := flowsTo_write hapt'.composed pipe.destination data (some pipe.writer)
  have hcalm : (exec (write pipe.destination data (some pipe.writer)) t).2.streams.Accepts
      pipe.destination → t.Calm (exec (write pipe.destination data (some pipe.writer)) t).2 :=
    calm_write hapt'.composed
  simp only [hwrite] at htouches hflows hcalm
  have hwrote := RunsTo.of_changesWithin hflows htouches
  have hapt'' := hapt'.flowsTo hwrote hflows.level
  have hlater := (flowMoves fuel).pumpSteps hrest
  obtain ⟨state, pumping, hstill⟩ := hmoved.movesTo.pipe hp
  have hpipe := (Registry.pipe?_congr htouches.pipes_eq name).trans hstill
  by_cases hrunning : state = .running
  swap
  · exact .ended fun pipe' hp' hr' =>
      hrunning (Registry.isRunning_iff.mp (hlater.was_running hpipe hp' hr'))
  by_cases ha : u.streams.Accepts pipe.destination
  swap
  · exact .ended (finished_of_closed ha hrest)
  -- the pipe goes on from where the write has left it
  have hdriven : pumping = true := by
    obtain ⟨last, hlast, hsame⟩ := SlotMap.rel_some_left (hp ▸ hlevel.pipe name)
    cases hstill.symm.trans hlast
    exact hsame
  subst hrunning hdriven
  have hidle' : ∀ source, u.streams.source? pipe.source = some source → source.pulling = false := by
    intro source' hs'
    obtain ⟨source, hs, hsame⟩ :=
      SlotMap.rel_some_right (hs' ▸ (hlevel.trans hflows.level).source _)
    exact hsame.trans (hidle source hs)
  have hreads := ih.readUnchecked hapt (undrawn_of_driven horderly hp) hidle hread
  have hcalms : s.Calm t → u.Calm r.2 → s.Calm r.2 := fun hfirst hlast =>
    (hfirst.trans (hcalm ha) hwrote.movesTo).trans hlast hlater
  have hdooms : t.Doomed pipe.source → u.Doomed pipe.source := fun hd =>
    hd.runsTo hapt' hwrote hflows.level.pipe
  obtain ⟨hrests, -⟩ := ih.pumpSteps pipe hapt'' hpipe hidle' hrest
  cases hrests with
  | starved hcalm' hsafe =>
    have hfirst := hreads.calm.resolve_right fun hd => hsafe (hdooms hd)
    exact .starved (hcalms hfirst hcalm') fun hd =>
      hsafe (hdooms (hd.runsTo hapt hmoved hlevel.pipe))
  | ended hfinished => exact .ended hfinished
  | stopped hready hcalm' =>
    refine .stopped hready ?_
    rcases hcalm' with hcalm' | hd
    · have hnames : u.streams.NamesPipe name pipe := ⟨.running, true, hpipe⟩
      have hlast := (flowRuns mark fuel).pumpSteps hapt''.toWired hnames hrest
      have hlevels := ((flowDeeds fuel).pumpSteps hapt''.composed hrest).level
      exact hreads.calm.imp (fun hfirst => hcalms hfirst hcalm') fun hd =>
        (hdooms hd).runsTo hapt'' hlast hlevels.pipe
    · exact .inr hd

theorem pumpSteps_succ {name : PipeId} {steps : Nat} {r : Nat × Session H E} (pipe : Pipe)
    (hapt : s.Apt mark)
    (hp : s.streams.pipe? name = some { pipe with state := .running, pumping := true })
    (hidle : ∀ source, s.streams.source? pipe.source = some source → source.pulling = false)
    (h : EdgeStreams.drive (Session.pumpSteps (fuel + 1) name pipe steps) s = some r) :
    Rests name pipe s r.2 ∧ (r.1 = steps → s.Calm r.2 ∧ s.streams.Accepts pipe.destination) := by
  obtain ⟨held, spent, horderly⟩ := hapt.orderly
  obtain ⟨source, hs, hlock, -⟩ := (horderly.holds name _ hp rfl).source
  have hmore : steps + 1 ≤ r.1 → r.1 = steps → s.Calm r.2 ∧ s.streams.Accepts pipe.destination :=
    fun hlt he => absurd hlt (by omega)
  rcases pumpSteps_cases h with ⟨error, -, rfl⟩ |
    ⟨hfault, ⟨hready, rfl⟩ | ⟨-, found, t, hread, hfound⟩⟩
  · exact ⟨.ended (finished_failPipe name pipe error s), hmore (Nat.le_refl _)⟩
  · exact ⟨.stopped hready (.inl (.refl s)),
      fun _ => ⟨.refl s, Registry.destinationFault?_eq_none_iff.mp hfault⟩⟩
  rw [attempt_readByPipe fuel s pipe hs hlock] at hread
  cases hfound with
  | starved =>
    have hreads := ih.readUnchecked hapt (undrawn_of_driven horderly hp) hidle hread
    obtain ⟨hcalm, hsafe⟩ := hreads.pending rfl
    exact ⟨.starved hcalm hsafe, fun _ => ⟨hcalm, Registry.destinationFault?_eq_none_iff.mp hfault⟩⟩
  | failed error =>
    exact ⟨.ended (finished_pipeFinished name (by simp) _), hmore (Nat.le_refl _)⟩
  | drained =>
    exact ⟨.ended (finished_pipeFinished name (changesWithin_closeDestination pipe t).2 _),
      hmore (Nat.le_refl _)⟩
  | refused data error u hwrite =>
    exact ⟨.ended (finished_pipeFinished name (by simp) _), hmore (Nat.le_refl _)⟩
  | carried data u hwrite hrest =>
    exact ⟨ih.rests_of_carried hapt hp hidle hread hwrite hrest, hmore (le_pumpSteps hrest)⟩

end FlowWaits

/-- By induction on the fuel. -/
theorem flowWaits (mark : UInt64) (fuel : Nat) : FlowWaits H E mark fuel := by
  induction fuel with
  | zero => exact .zero
  | succ fuel ih =>
    exact ⟨ih.readUnchecked_succ, ih.pullIfNeeded_succ, ih.pull_succ, ih.pumpPipe_succ,
      ih.pumpSteps_succ⟩

end Flow

end Session

end EdgeStreams
