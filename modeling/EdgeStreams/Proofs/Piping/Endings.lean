import EdgeStreams.Proofs.Client.Exclusion
import EdgeStreams.Proofs.Piping.Halves
import EdgeStreams.Proofs.Queue.Passing

/-!
# How pipes end

A running pipe comes to an end only while it is driven, and only when its destination takes no more
writes: it finds so, or it has ended or failed the destination itself. Its source has then ended or
failed, unless it was to be left alone.

## Main definitions

- `Registry.Accepts`: a stream takes writes
- `Session.Wired`: what holds of the registry while pipes are driven
- `Session.RunsTo`: what has been done, with what has become of the pipes

## Main statements

- `Session.flowRuns`: the functions that make data flow
-/

namespace EdgeStreams

variable {H E : Type}

/-- The pipe ends its destination when its source ends, and aborts it when its source fails. -/
def Pipe.SpreadsEnds (pipe : Pipe) : Prop :=
  pipe.options.preventClose = false ∧ pipe.options.preventAbort = false

namespace Registry

/-- The pipe of the name is the given one, but for its state and whether it is being driven. -/
def NamesPipe (streams : Registry E) (id : PipeId) (pipe : Pipe) : Prop :=
  ∃ state pumping, streams.pipe? id = some { pipe with state, pumping }

/-- The pipe of the name is the given one, but for whether it is being driven, and it runs. -/
def RunsAs (streams : Registry E) (id : PipeId) (pipe : Pipe) : Prop :=
  ∃ pumping, streams.pipe? id = some { pipe with state := .running, pumping }

/-- The stream takes writes. -/
def Accepts (streams : Registry E) (id : WritableId) : Prop :=
  ∃ sink, streams.sink? id = some sink ∧ sink.controller.state = .writable

/-- The stream has been closed or aborted. -/
def IsClosed (streams : Registry E) (id : WritableId) : Prop :=
  ∃ sink, streams.sink? id = some sink ∧
    (sink.controller.state = .closed ∨ sink.controller.state = .errored .aborted)

/-- The stream has ended or failed. -/
def IsOver (streams : Registry E) (id : ReadableId) : Prop :=
  ∀ source, streams.source? id = some source → source.controller.state ≠ .readable

variable {streams : Registry E} {id : WritableId} {sink : Sink E}

theorem accepts_iff (hk : streams.sink? id = some sink) :
    streams.Accepts id ↔ sink.controller.state = .writable :=
  ⟨fun ⟨_, hfound, hw⟩ => Option.some.inj (hfound.symm.trans hk) ▸ hw, fun hw => ⟨sink, hk, hw⟩⟩

theorem destinationFault?_eq_none_iff :
    Session.destinationFault? streams id = none ↔ streams.Accepts id := by
  unfold Session.destinationFault? writableState? Accepts
  cases streams.sink? id with
  | none => simp
  | some sink => cases hs : sink.controller.state <;> simp [hs]

end Registry

/-- A reader comes to an error or to an end only in a stream that is over. -/
theorem ReadableController.state_takeReady {controller : ReadableController}
    (h : controller.takeReady.1 = .ok (some .done) ∨ ∃ error,
      controller.takeReady.1 = .error error) :
    controller.takeReady.2.state ≠ .readable := by
  cases hstate : controller.state with
  | closed | errored error => simp [takeReady, hstate]
  | readable =>
    simp only [takeReady, hstate] at h
    split at h <;> simp at h

/-- A write that has failed leaves a sink that takes no more. -/
theorem Sink.not_writable_of_verdict {sink : Sink E} {outcome : Except StreamError Unit}
    {error : StreamError} (h : sink.verdict outcome = .error error) :
    (sink.rested outcome).controller.state ≠ .writable := by
  cases outcome with
  | error failure =>
    intro hw
    have hterminal := sink.terminal_rested failure
    rw [hw] at hterminal
    cases hterminal
  | ok =>
    intro hw
    have hstate : sink.controller.state = .writable := hw
    simp [verdict, hstate] at h

namespace Session

variable [Host H] {s t u : Session H E} {mark : UInt64}

/-! ### What cannot be undone -/

/-- Deeds make no stream take writes. By induction on the deeds. -/
theorem Course.accepts {made : List (WritableId × Bytes)} (h : Course s made t)
    (hc : s.streams.Composed) {id : WritableId} (ha : t.streams.Accepts id) :
    s.streams.Accepts id := by
  induction h with
  | refl => exact ha
  | step hbefore hdeed ih =>
    have hcomposed := hbefore.composed hc
    obtain ⟨sink', hk', hw⟩ := ha
    obtain ⟨sink, calls, hk, hp⟩ := (hdeed.advancesTo hcomposed).sink_before hk'
    refine ih ⟨sink, hk, ?_⟩
    rcases hp.toStays.controller with hsame | ⟨hwritable, -⟩
    · exact hsame ▸ hw
    · exact hwritable

theorem Course.isOver {made : List (WritableId × Bytes)} (h : Course s made t)
    (hc : s.streams.Composed) {id : ReadableId} (ho : s.streams.IsOver id) :
    t.streams.IsOver id := by
  intro source' hs'
  obtain ⟨source, hs, hstays⟩ := h.stayed hc hs'
  rw [hstays.controller.state (ho source hs)]
  exact ho source hs

/-- A sink that takes no writes stays as it is. By induction on the deeds. -/
theorem Course.stuck {made : List (WritableId × Bytes)} (h : Course s made t)
    (hc : s.streams.Composed) {id : WritableId} {sink : Sink E}
    (hk : s.streams.sink? id = some sink) (hdead : sink.controller.state ≠ .writable) :
    ∃ sink', t.streams.sink? id = some sink' ∧ sink'.controller = sink.controller := by
  induction h with
  | refl => exact ⟨sink, hk, rfl⟩
  | step hbefore hdeed ih =>
    obtain ⟨between, hbetween, hsame⟩ := ih
    obtain ⟨sink', calls, hk', -, hp, -⟩ := (hdeed.advancesTo (hbefore.composed hc)).sink hbetween
    refine ⟨sink', hk', ?_⟩
    rcases hp.toStays.controller with hkept | ⟨hwritable, -⟩
    · exact hkept.trans hsame
    · exact absurd (hsame ▸ hwritable) hdead

theorem Course.isClosed {made : List (WritableId × Bytes)} (h : Course s made t)
    (hc : s.streams.Composed) {id : WritableId} (hclosed : s.streams.IsClosed id) :
    t.streams.IsClosed id := by
  obtain ⟨sink, hk, hstate⟩ := hclosed
  have hdead : sink.controller.state ≠ .writable := by
    rcases hstate with hstate | hstate <;> simp [hstate]
  obtain ⟨sink', hk', hsame⟩ := h.stuck hc hk hdead
  exact ⟨sink', hk', hsame ▸ hstate⟩

/-- A pipe that has come to an end stays as it is. By induction on the moves. -/
theorem MovesTo.finished (h : MovesTo s t) {id : PipeId} {pipe : Pipe}
    (hp : s.streams.pipe? id = some pipe) (hf : ¬ pipe.isRunning) :
    ∃ pumping, t.streams.pipe? id = some { pipe with pumping } := by
  induction h with
  | refl => exact ⟨_, hp⟩
  | touch _ ht ih => exact (Registry.pipe?_congr ht.pipes_eq id).symm ▸ ih
  | note _ _ ih => exact ih
  | @drive t other found pumping' _ hfound ih =>
    obtain ⟨pumping, hstill⟩ := ih
    simp only [streams_mapStreams, Registry.pipe?_setPipe]
    split
    · next he =>
      subst he
      cases hstill.symm.trans hfound
      exact ⟨pumping', by rw [hstill]; rfl⟩
    · exact ⟨pumping, hstill⟩
  | @finish t other state' _ _ ih =>
    obtain ⟨pumping, hstill⟩ := ih
    rw [pipeFinished, streams_mapStreams]
    by_cases hrun : ∃ found, t.streams.pipe? other = some found ∧ found.isRunning
    · obtain ⟨found, hfound, hr⟩ := hrun
      rw [Registry.pipe?_finishPipe state' hfound hr]
      split
      · next he =>
        subst he
        cases hstill.symm.trans hfound
        exact absurd hr hf
      · exact ⟨pumping, hstill⟩
    · rw [Registry.finishPipe_of_not_running _ fun found hfound hr => hrun ⟨found, hfound, hr⟩]
      exact ⟨pumping, hstill⟩

/-- A pipe that runs was running before. -/
theorem MovesTo.was_running (h : MovesTo s t) {id : PipeId} {pipe pipe' : Pipe}
    (hp : s.streams.pipe? id = some pipe) (hp' : t.streams.pipe? id = some pipe')
    (hr' : pipe'.isRunning) : pipe.isRunning := by
  by_contra hf
  obtain ⟨pumping, hstill⟩ := h.finished hp hf
  cases hstill.symm.trans hp'
  exact hf hr'

/-- Moves make no pipe. By induction on the moves. -/
theorem MovesTo.pipe_before (h : MovesTo s t) {id : PipeId} {pipe' : Pipe}
    (hp' : t.streams.pipe? id = some pipe') : ∃ pipe state pumping,
      s.streams.pipe? id = some pipe ∧ pipe' = { pipe with state, pumping } := by
  have hfound : ∃ pipe, s.streams.pipe? id = some pipe := by
    induction h generalizing pipe' with
    | refl => exact ⟨pipe', hp'⟩
    | touch _ ht ih => exact ih ((Registry.pipe?_congr ht.pipes_eq id).symm.trans hp')
    | note _ _ ih => exact ih hp'
    | drive pumping _ hfound ih =>
      simp only [streams_mapStreams, Registry.pipe?_setPipe] at hp'
      split at hp'
      · next he => exact ih (he ▸ hfound)
      · exact ih hp'
    | @finish t other state' _ _ ih =>
      rw [pipeFinished, streams_mapStreams] at hp'
      by_cases hrun : ∃ found, t.streams.pipe? other = some found ∧ found.isRunning
      · obtain ⟨found, hfound, hr⟩ := hrun
        rw [Registry.pipe?_finishPipe state' hfound hr] at hp'
        split at hp'
        · next he => exact ih (he ▸ hfound)
        · exact ih hp'
      · rw [Registry.finishPipe_of_not_running _ fun found hfound hr => hrun ⟨found,
          hfound, hr⟩] at hp'
        exact ih hp'
  obtain ⟨pipe, hp⟩ := hfound
  obtain ⟨state, pumping, hstill⟩ := h.pipe hp
  exact ⟨pipe, state, pumping, hp, Option.some.inj (hp'.symm.trans hstill)⟩

/-- A pipe that runs has always run. -/
theorem MovesTo.running_before (h : MovesTo s t) {id : PipeId} {pipe : Pipe}
    (hp : t.streams.pipe? id = some pipe) (hr : pipe.isRunning) :
    ∃ pumping, s.streams.pipe? id = some { pipe with pumping } := by
  obtain ⟨before, state, pumping, hbefore, rfl⟩ := h.pipe_before hp
  cases Registry.isRunning_iff.mp hr
  have hstate := Registry.isRunning_iff.mp (h.was_running hbefore hp hr)
  exact ⟨before.pumping, by rw [hbefore, ← hstate]⟩

/-! ### What has become of the pipes -/

/-- How a pipe has ended: its destination takes no writes, its source is over unless it was to be
left alone, and the pipe has failed if its destination took no writes to begin with. A pipe is done
only if its source is over and its destination has been closed. -/
structure HasEnded (s t : Session H E) (pipe : Pipe) (state : PipeState) : Prop where
  stopped : state ≠ .running
  destination : ¬ t.streams.Accepts pipe.destination
  source : pipe.options.preventCancel = false → t.streams.IsOver pipe.source
  failed : ¬ s.streams.Accepts pipe.destination → ∃ error, state = .failed error
  done : state = .done → t.streams.IsOver pipe.source ∧ t.streams.IsClosed pipe.destination

/-- What has ended stays as it is. -/
theorem HasEnded.course {pipe : Pipe} {state : PipeState} {made : List (WritableId × Bytes)}
    (h : HasEnded s t pipe state) (hcourse : Course t made u) (hc : t.streams.Composed) :
    HasEnded s u pipe state where
  stopped := h.stopped
  destination ha := h.destination (hcourse.accepts hc ha)
  source hcancel := hcourse.isOver hc (h.source hcancel)
  failed := h.failed
  done hdone :=
    ⟨hcourse.isOver hc (h.done hdone).1, hcourse.isClosed hc (h.done hdone).2⟩

/-- Deeds and moves, and the pipes that were running still run or have ended as pipes do. -/
structure RunsTo (s t : Session H E) : Prop where
  course : ∃ made, Course s made t
  movesTo : MovesTo s t
  ends : ∀ {id pipe}, s.streams.pipe? id = some pipe → pipe.isRunning → pipe.SpreadsEnds →
    ∃ state pumping, t.streams.pipe? id = some { pipe with state, pumping } ∧
      (state = .running ∨ HasEnded s t pipe state)

theorem MovesTo.names (h : MovesTo s t) {id : PipeId} {pipe : Pipe}
    (hn : s.streams.NamesPipe id pipe) :
    t.streams.NamesPipe id pipe := by
  obtain ⟨state, pumping, hp⟩ := hn
  obtain ⟨state, pumping, hp'⟩ := h.pipe hp
  exact ⟨state, pumping, hp'⟩

/-- Whatever has the name of a pipe and runs is that pipe. -/
theorem MovesTo.runsTo_as (h : MovesTo s t) {id : PipeId} {pipe pipe' : Pipe}
    (hn : s.streams.NamesPipe id pipe) (hp : t.streams.pipe? id = some pipe')
    (hr : pipe'.isRunning) :
    ∃ pumping, pipe' = { pipe with state := .running, pumping } := by
  obtain ⟨state, pumping, hstill⟩ := h.names hn
  cases hstill.symm.trans hp
  cases Registry.isRunning_iff.mp hr
  exact ⟨pumping, rfl⟩

namespace RunsTo

/-- The pipes are as they were. -/
theorem of_pipes (hcourse : ∃ made, Course s made t) (hmoves : MovesTo s t)
    (hp : t.streams.pipes = s.streams.pipes) : s.RunsTo t where
  course := hcourse
  movesTo := hmoves
  ends {id pipe} hpipe hr _ := ⟨pipe.state, pipe.pumping, (Registry.pipe?_congr hp id).trans hpipe,
    .inl (Registry.isRunning_iff.mp hr)⟩

theorem refl (s : Session H E) : s.RunsTo s := of_pipes ⟨_, .refl⟩ .refl rfl

theorem of_changesWithin {f : Footprint} (hf : s.FlowsTo t)
    (ht : ChangesWithin f s t) : s.RunsTo t :=
  of_pipes hf.course (.of_changesWithin ht) ht.pipes_eq

theorem composed (h : s.RunsTo t) (hc : s.streams.Composed) : t.streams.Composed := by
  obtain ⟨made, hcourse⟩ := h.course
  exact hcourse.composed hc

theorem accepts (h : s.RunsTo t) (hc : s.streams.Composed) {id : WritableId}
    (ha : t.streams.Accepts id) : s.streams.Accepts id := by
  obtain ⟨made, hcourse⟩ := h.course
  exact hcourse.accepts hc ha

theorem isOver (h : s.RunsTo t) (hc : s.streams.Composed) {id : ReadableId}
    (ho : s.streams.IsOver id) : t.streams.IsOver id := by
  obtain ⟨made, hcourse⟩ := h.course
  exact hcourse.isOver hc ho

theorem trans (h : s.RunsTo t) (h' : t.RunsTo u) (hc : s.streams.Composed) : s.RunsTo u where
  course := by
    obtain ⟨made, hcourse⟩ := h.course
    obtain ⟨more, hcourse'⟩ := h'.course
    exact ⟨_, hcourse.trans hcourse'⟩
  movesTo := h.movesTo.trans h'.movesTo
  ends {id pipe} hp hr hspreads := by
    obtain ⟨state, pumping, hbetween, rfl | hended⟩ := h.ends hp hr hspreads
    · obtain ⟨state, pumping, hlater, hrunning | hended⟩ := h'.ends hbetween rfl hspreads
      · exact ⟨state, pumping, hlater, .inl hrunning⟩
      · exact ⟨state, pumping, hlater, .inr { hended with
          failed := fun hclosed => hended.failed fun ha => hclosed (h.accepts hc ha) }⟩
    · obtain ⟨pumping, hlater⟩ := h'.movesTo.finished hbetween
        fun hr => hended.stopped (Registry.isRunning_iff.mp hr)
      obtain ⟨made, hcourse⟩ := h'.course
      exact ⟨state, pumping, hlater, .inr (hended.course hcourse (h.composed hc))⟩

/-- A pipe starts or stops being driven. -/
theorem drive {id : PipeId} {pipe : Pipe} (pumping : Bool) (hp : s.streams.pipe? id = some pipe) :
    s.RunsTo (mapStreams (fun streams => streams.setPipe id { pipe with pumping }) s) where
  course := ⟨_, .step .refl (.drive pumping hp)⟩
  movesTo := .drive pumping .refl hp
  ends {other found} hfound hr _ := by
    have hrunning := Registry.isRunning_iff.mp hr
    simp only [streams_mapStreams, Registry.pipe?_setPipe]
    by_cases he : other = id
    · subst he
      cases hp.symm.trans hfound
      exact ⟨pipe.state, pumping, by simp [hp], .inl hrunning⟩
    · exact ⟨found.state, found.pumping, by simpa [he] using hfound, .inl hrunning⟩

/-- A pipe comes to its end, if it still runs. -/
theorem finish (h : s.RunsTo t) (hc : s.streams.Composed) {id : PipeId} {state : PipeState}
    (hstopped : state ≠ .running)
    (hended : ∀ pipe, t.streams.pipe? id = some pipe → pipe.isRunning → pipe.SpreadsEnds →
      HasEnded s t pipe state) : s.RunsTo (pipeFinished id state t) := by
  have hmove : MovesTo t (pipeFinished id state t) := .finish id .refl hstopped
  have hdeed : Deed t [] (pipeFinished id state t) := .finish id state
  have hcomposed := h.composed hc
  have hlast := Course.step .refl hdeed
  obtain ⟨made, hcourse⟩ := h.course
  refine ⟨⟨_, hcourse.step hdeed⟩, h.movesTo.trans hmove, fun {other pipe} hp hr hspreads => ?_⟩
  obtain ⟨state', pumping, hbetween, rfl | hbefore⟩ := h.ends hp hr hspreads
  · by_cases he : other = id
    · subst he
      have hafter := Registry.pipe?_finishPipe state hbetween rfl other
      rw [if_pos rfl] at hafter
      obtain ⟨-, hdead, hover, hfailed, hdone⟩ := hended _ hbetween rfl hspreads
      have hnow : HasEnded s t pipe state := ⟨hstopped, hdead, hover, hfailed, hdone⟩
      exact ⟨state, pumping, hafter, .inr (hnow.course hlast hcomposed)⟩
    · refine ⟨.running, pumping, ?_, .inl rfl⟩
      rw [pipeFinished, streams_mapStreams]
      by_cases hrun : ∃ found, t.streams.pipe? id = some found ∧ found.isRunning
      · obtain ⟨found, hfound, hr'⟩ := hrun
        rw [Registry.pipe?_finishPipe state hfound hr', if_neg he, hbetween]
      · rw [Registry.finishPipe_of_not_running _ fun pipe hp hr => hrun ⟨pipe, hp, hr⟩, hbetween]
  · obtain ⟨pumping, hlater⟩ := hmove.finished hbetween
      fun hr => hbefore.stopped (Registry.isRunning_iff.mp hr)
    exact ⟨state', pumping, hlater, .inr (hbefore.course hlast hcomposed)⟩

/-- A pipe comes to its end after work on streams. -/
theorem finish_touched (h : s.RunsTo t) (hc : s.streams.Composed) {f : Footprint} (hf : t.FlowsTo u)
    (ht : ChangesWithin f t u) {id : PipeId} {state : PipeState} (hstopped : state ≠ .running)
    (hended : ∀ pipe, t.streams.pipe? id = some pipe → pipe.isRunning → pipe.SpreadsEnds →
      HasEnded s u pipe state) : s.RunsTo (pipeFinished id state u) :=
  (h.trans (.of_changesWithin hf ht) hc).finish hc hstopped fun pipe hp =>
    hended pipe ((Registry.pipe?_congr ht.pipes_eq id).symm.trans hp)

end RunsTo

/-! ### What holds while pipes are driven -/

/-- The halves of transform streams belong together, pipes hold their ends, and streams hand on
their chunks. -/
structure Wired (mark : UInt64) (s : Session H E) : Prop where
  composed : s.streams.Composed
  couples : s.streams.Couples mark
  orderly : ∃ held spent, s.streams.Orderly held spent
  passedInOrder : ∀ {id source}, s.streams.source? id = some source →
    ∃ first, PassedInOrder id first s

omit [Host H] in
/-- A stream that has been cancelled is over. -/
theorem Wired.state_of_canceled (hw : s.Wired mark) {id : ReadableId} {source : Source E}
    (hs : s.streams.source? id = some source) (hcanceled : source.canceled = true) :
    source.controller.state ≠ .readable := by
  obtain ⟨first, put, taken, -, -, hpassed⟩ := hw.passedInOrder hs
  rw [hs] at hpassed
  cases hpassed with
  | lives hq => exact hq.shut hcanceled

theorem RunsTo.wired (h : s.RunsTo t) (hw : s.Wired mark) : t.Wired mark := by
  obtain ⟨made, hcourse⟩ := h.course
  obtain ⟨held, spent, horderly⟩ := hw.orderly
  refine ⟨hcourse.composed hw.composed, hcourse.couples hw.composed hw.couples,
    ⟨held, spent, h.movesTo.orderly horderly⟩, fun hs' => ?_⟩
  obtain ⟨source, hs, -⟩ := hcourse.stayed hw.composed hs'
  obtain ⟨first, hinOrder⟩ := hw.passedInOrder hs
  exact ⟨first, hcourse.passedInOrder hw.composed hinOrder⟩

/-! ### What a pipe does to its ends -/

/-- A stream that is cancelled is over, unless it had been cancelled before and was not. -/
theorem isOver_cancelUnchecked (hc : s.streams.Composed) {id : ReadableId}
    (hshut : ∀ {source}, s.streams.source? id = some source → source.canceled = true →
      source.controller.state ≠ .readable) (reason : Option String) :
    (exec (cancelUnchecked id reason) s).2.streams.IsOver id := by
  intro source' hs'
  rcases cancelUnchecked_cases hc id reason with
    ⟨hnone, heq⟩ | ⟨source, hs, ⟨hcanceled, heq⟩ | ⟨-, -, outcome, hr, -⟩⟩
  · rw [heq, hnone] at hs'
    cases hs'
  · have hstate : source.controller.state ≠ .readable :=
      fun hreadable => hshut hs (hcanceled hreadable) hreadable
    rw [heq, streams_setSource, Registry.source?_setSource, if_pos rfl, hs] at hs'
    cases hs'
    exact hstate
  · have hduring : (setSource id (canceledSource source) s).streams.source? id =
        some (canceledSource source) := by simp [Registry.source?_setSource, hs]
    obtain ⟨last, hlast, hrip⟩ := SlotMap.rel_some_left (hduring ▸ hr.source id)
    cases hs'.symm.trans hlast
    have hstate : (canceledSource source).controller.state ≠ .readable :=
      state_canceledSource source
    rw [hrip.controller.state hstate]
    exact hstate

section Ends

variable (hw : s.Wired mark)
include hw

/-- A running pipe cancels its source. -/
theorem isOver_cancelSource {id : PipeId} {pipe : Pipe} (hp : s.streams.RunsAs id pipe)
    (hcancel : pipe.options.preventCancel = false) :
    (cancelSource pipe s).2.streams.IsOver pipe.source := by
  obtain ⟨pumping, hp⟩ := hp
  obtain ⟨held, spent, horderly⟩ := hw.orderly
  obtain ⟨source, hs, hlock, -⟩ := (horderly.holds id _ hp rfl).source
  rw [cancelSource_snd hcancel]
  have hpassed : exec (cancel pipe.source none (some pipe.reader)) s =
      exec (cancelUnchecked pipe.source none) s := by
    simp [cancel, exec_bind, hs, hlock, Except.bind]
  rw [hpassed]
  exact isOver_cancelUnchecked hw.composed hw.state_of_canceled none

/-- A running pipe whose write has failed finds its destination ended or failed. -/
theorem not_accepts_write {id : PipeId} {pipe : Pipe} (hp : s.streams.RunsAs id pipe)
    {chunk : Bytes} {error : StreamError}
    (hfailed : (exec (write pipe.destination chunk (some pipe.writer)) s).1 = .error error) :
    ¬ (exec (write pipe.destination chunk (some pipe.writer)) s).2.streams.Accepts
      pipe.destination := by
  obtain ⟨pumping, hp⟩ := hp
  obtain ⟨held, spent, horderly⟩ := hw.orderly
  obtain ⟨sink, hk, hlock⟩ := (horderly.holds id _ hp rfl).sink
  rw [← hlock, exec_write_of_lock hk] at hfailed ⊢
  by_cases hwritable : sink.controller.state = .writable
  · have hsilent :=
      asksNothing_writeAlgorithm pipe.destination chunk (setSink pipe.destination sink.working s)
    cases hwork : exec (writeAlgorithm pipe.destination chunk)
        (setSink pipe.destination sink.working s) with
    | mk outcome s' =>
      rw [hwork] at hsilent
      have hduring : (setSink pipe.destination sink.working s).streams.sink? pipe.destination =
          some sink.working := by simp [Registry.sink?_setSink, hk]
      obtain ⟨sink', hworked, hripples⟩ :=
        SlotMap.rel_some_left (hduring ▸ hsilent.sink pipe.destination)
      rw [exec_writeUnchecked_of_idle hk (hw.composed.idle hk) hwritable hwork hworked hripples]
        at hfailed ⊢
      have hlast : (setSink pipe.destination (sink'.rested outcome)
          (note (.written pipe.destination chunk outcome) s')).streams.sink? pipe.destination =
            some (sink'.rested outcome) := by simp [Registry.sink?_setSink, hworked]
      rw [Registry.accepts_iff hlast]
      exact Sink.not_writable_of_verdict hfailed
  · obtain ⟨refusal, hrefused⟩ : ∃ refusal,
        exec (writeUnchecked pipe.destination chunk) s = (.error refusal, s) :=
      exec_writeUnchecked_of_not_writable hk hwritable
    rw [hrefused, Registry.accepts_iff hk]
    exact hwritable

/-- A sink that has been ended takes no writes. -/
theorem not_accepts_closeDestination {id : PipeId} {pipe : Pipe} (hp : s.streams.RunsAs id pipe)
    (hclose : pipe.options.preventClose = false) :
    ¬ (closeDestination pipe s).2.streams.Accepts pipe.destination := by
  obtain ⟨pumping, hp⟩ := hp
  obtain ⟨held, spent, horderly⟩ := hw.orderly
  obtain ⟨sink, hk, hlock⟩ := (horderly.holds id _ hp rfl).sink
  have hpassed : exec (close pipe.destination (some pipe.writer)) s =
      exec (closeUnchecked pipe.destination) s := by
    simp [close, exec_bind, hk, hlock, Except.bind]
  rw [closeDestination_eq hclose, hpassed]
  cases hterminal : sink.controller.state.isTerminal with
  | true =>
    obtain ⟨result, hclosed, -⟩ := exec_closeUnchecked_of_terminal hk hterminal
    rw [hclosed, Registry.accepts_iff hk]
    intro hwritable
    simp [hwritable, WritableState.isTerminal] at hterminal
  | false =>
    obtain ⟨outcome, -, -, -, sink', hk', hended, -⟩ :=
      workedInto_closeUnchecked hw.composed hk ((hw.composed.idle hk).writable hterminal)
    rw [Registry.accepts_iff hk']
    intro hwritable
    simp [hwritable, WritableState.isTerminal] at hended

/-- A pipe is done only if its destination has been closed. -/
theorem isClosed_closeDestination {id : PipeId} {pipe : Pipe} (hp : s.streams.RunsAs id pipe)
    (hclose : pipe.options.preventClose = false) (hdone : (closeDestination pipe s).1 = .done) :
    (closeDestination pipe s).2.streams.IsClosed pipe.destination := by
  obtain ⟨pumping, hp⟩ := hp
  obtain ⟨held, spent, horderly⟩ := hw.orderly
  obtain ⟨sink, hk, hlock⟩ := (horderly.holds id _ hp rfl).sink
  have hpassed : exec (close pipe.destination (some pipe.writer)) s =
      exec (closeUnchecked pipe.destination) s := by
    simp [close, exec_bind, hk, hlock, Except.bind]
  rw [closeDestination_eq hclose, hpassed] at hdone ⊢
  dsimp only at hdone ⊢
  cases hresult : (exec (closeUnchecked pipe.destination) s).1 with
  | error error =>
    rw [hresult] at hdone
    cases hdone
  | ok =>
    cases hterminal : sink.controller.state.isTerminal with
    | true =>
      obtain ⟨result, hclosed, -⟩ := exec_closeUnchecked_of_terminal hk hterminal
      rw [hclosed]
      refine ⟨sink, hk, ?_⟩
      cases hstate : sink.controller.state with
      | writable | closing => simp [hstate, WritableState.isTerminal] at hterminal
      | closed => exact .inl rfl
      | errored error =>
        by_contra hne
        simp only [not_or, WritableState.errored.injEq] at hne
        simp [closeUnchecked, exec_bind, hk, hstate, hne.2] at hresult
    | false =>
      obtain ⟨outcome, -, -, houtcome, sink', hk', -, hclosed⟩ :=
        workedInto_closeUnchecked hw.composed hk ((hw.composed.idle hk).writable hterminal)
      exact ⟨sink', hk', .inl (hclosed (houtcome.symm.trans hresult))⟩

/-- A sink that has been aborted takes no writes. -/
theorem not_accepts_abortDestination {id : PipeId} {pipe : Pipe} (hp : s.streams.RunsAs id pipe)
    (habort : pipe.options.preventAbort = false) :
    ¬ (abortDestination pipe s).2.streams.Accepts pipe.destination := by
  obtain ⟨pumping, hp⟩ := hp
  obtain ⟨held, spent, horderly⟩ := hw.orderly
  obtain ⟨sink, hk, hlock⟩ := (horderly.holds id _ hp rfl).sink
  have hpassed : exec (abort pipe.destination none (some pipe.writer)) s =
      exec (abortUnchecked pipe.destination none) s := by
    simp [abort, exec_bind, hk, hlock, Except.bind]
  rw [abortDestination_snd habort, hpassed]
  cases hterminal : sink.controller.state.isTerminal with
  | true =>
    rw [exec_abortUnchecked_of_terminal hk hterminal, Registry.accepts_iff hk]
    intro hwritable
    simp [hwritable, WritableState.isTerminal] at hterminal
  | false =>
    obtain ⟨outcome, -, -, -, sink', hk', hended⟩ :=
      workedInto_abortUnchecked hw.composed hk ((hw.composed.idle hk).writable hterminal) none
    rw [Registry.accepts_iff hk']
    intro hwritable
    simp [hwritable, WritableState.isTerminal] at hended

end Ends

/-! ### What a reader comes to -/

omit [Host H] in
/-- A reader comes to an error or to an end only in a stream that is over. -/
theorem isOver_takeReady {id : ReadableId}
    (h : (exec (takeReady id) s).1.map orPending = .ok .done ∨
    ∃ error, (exec (takeReady id) s).1.map orPending = .error error) :
    (exec (takeReady id) s).2.streams.IsOver id := by
  intro source' hs'
  cases hs : s.streams.source? id with
  | none =>
    have hsame : (exec (takeReady id) s).2 = s := by simp [takeReady, exec_bind, hs]
    rw [hsame, hs] at hs'
    cases hs'
  | some source =>
    rw [source?_takeReady hs] at hs'
    cases hs'
    rw [exec_takeReady hs] at h
    refine ReadableController.state_takeReady ?_
    rcases h with hdone | ⟨error, hfailed⟩
    · exact .inl (ready_of_orPending hdone (by simp))
    · exact .inr ⟨error, error_of_orPending hfailed⟩

theorem isOver_readUnchecked {fuel : Nat} {id : ReadableId}
    {r : Except StreamError ReadOutcome × Session H E} (hw : s.Wired mark)
    (h : attempt (readUnchecked fuel id) s = some r)
    (hend : r.1 = .ok .done ∨ ∃ error, r.1 = .error error) : r.2.streams.IsOver id := by
  cases fuel with
  | zero => cases h
  | succ fuel =>
    cases hs : s.streams.source? id with
    | none =>
      intro source' hs'
      rw [readUnchecked_of_gone hs h, hs] at hs'
      cases hs'
    | some source =>
      rcases readUnchecked_cases hs h with ⟨-, rfl⟩ | ⟨error, hstart, rfl⟩ |
        ⟨-, found, t, htake, hfound⟩
      · simp at hend
      · intro source' hs'
        cases hs.symm.trans hs'
        rcases hw.couples.started hs with hresolved | ⟨-, hstate⟩
        · cases hstart.symm.trans hresolved
        · exact hstate
      cases hfound with
      | settled =>
        have hover := isOver_takeReady (s := disturb id source s) (by rw [htake]; exact hend)
        rwa [htake] at hover
      | full data u hpull => simp at hend
      | empty u hpull => exact isOver_takeReady hend

/-! ### The functions that call each other -/

/-- With some fuel, whatever there is an outcome of ends pipes as pipes end. -/
structure FlowRuns (H E : Type) [Host H] (mark : UInt64) (fuel : Nat) : Prop where
  readUnchecked {s : Session H E} {id : ReadableId}
    {r : Except StreamError ReadOutcome × Session H E} : s.Wired mark →
    attempt (Session.readUnchecked fuel id) s = some r → s.RunsTo r.2
  pullIfNeeded {s : Session H E} {id : ReadableId} {source : Source E} {readerWaits : Bool}
    {r : Unit × Session H E} : s.Wired mark → s.streams.source? id = some source →
      source.IsTransform → s.streams.isDisturbed id = true →
        EdgeStreams.drive (Session.pullIfNeeded fuel id readerWaits) s = some r → s.RunsTo r.2
  pull {s : Session H E} {id : ReadableId} {source : Source E}
    {r : Except StreamError Unit × Session H E} : s.Wired mark →
      s.streams.source? id = some source → source.IsTransform →
        attempt (Session.pull fuel id) s = some r → s.RunsTo r.2
  pumpPipe {s : Session H E} {id : PipeId} {r : Nat × Session H E} : s.Wired mark →
    EdgeStreams.drive (Session.pumpPipe fuel id) s = some r → s.RunsTo r.2
  pumpSteps {s : Session H E} {id : PipeId} {pipe : Pipe} {steps : Nat} {r : Nat × Session H E} :
    s.Wired mark → s.streams.NamesPipe id pipe →
      EdgeStreams.drive (Session.pumpSteps fuel id pipe steps) s = some r → s.RunsTo r.2

namespace FlowRuns

theorem zero : FlowRuns H E mark 0 where
  readUnchecked _ h := by cases h
  pullIfNeeded _ _ _ _ h := by cases h
  pull _ _ _ h := by cases h
  pumpPipe _ h := by cases h
  pumpSteps _ _ h := by cases h

variable {fuel : Nat} (ih : FlowRuns H E mark fuel)

/-- A read of a host body or of a guest leaves the pipes alone. -/
theorem readUnchecked_native {id : ReadableId} {source : Source E}
    {r : Except StreamError ReadOutcome × Session H E} (hc : s.streams.Composed)
    (hs : s.streams.source? id = some source) (hn : ¬ source.IsTransform)
    (h : attempt (Session.readUnchecked fuel id) s = some r) : s.RunsTo r.2 := by
  have hp := hc.native hs hn
  refine .of_pipes ((flowDeeds fuel).readUnchecked hc h).course ((flowMoves fuel).readUnchecked h)
    ?_
  rcases revised_readUnchecked hs hn hp (hc.notAsked hs hp) h with
    ⟨source', -, new, -, he⟩ | ⟨outcome, source', host, env, -, ⟨new, -, he⟩, -⟩ <;> rw [he] <;> rfl

theorem runsTo_disturb {id : ReadableId} {source : Source E}
    (hs : s.streams.source? id = some source) (ht : source.IsTransform) :
    s.RunsTo (disturb id source s) :=
  .of_pipes (flowsTo_disturb hs ht).course (MovesTo.refl.disturb hs) rfl

theorem runsTo_takeReady {id : ReadableId} {source : Source E}
    (hs : s.streams.source? id = some source) (ht : source.IsTransform)
    (hd : s.streams.isDisturbed id = true) : s.RunsTo (exec (takeReady id) s).2 := by
  refine .of_pipes (flowsTo_takeReady hs ht).course (movesTo_takeReady hd) ?_
  rw [exec_takeReady hs]
  simp

theorem runsTo_beginPull {id : ReadableId} {source : Source E} {waits : Bool}
    (hs : s.streams.source? id = some source) (ht : source.IsTransform)
    (hd : s.streams.isDisturbed id = true) (hwants : source.wantsPull waits = true)
    (hp : source.pulling = false) :
    s.RunsTo (note (.pullBegan id) (setSource id { source with pulling := true } s)) := by
  have hbegins : Deed s [] _ := .beginPull hs ht hwants hp
  have hmoves : MovesTo s (setSource id { source with pulling := true } s) :=
    MovesTo.refl.setSource hd hs ⟨rfl, rfl, rfl, rfl, rfl, rfl, fun h => h, fun h => h⟩
  exact .of_pipes ⟨_, .step .refl hbegins⟩ (hmoves.note _) rfl

theorem runsTo_endPull {id : ReadableId} {source : Source E}
    (hs : s.streams.source? id = some source) (ht : source.IsTransform)
    (hd : s.streams.isDisturbed id = true) (hp : source.pulling = true) :
    s.RunsTo (setSource id { source with pulling := false, pullAgain := false }
      (note (.pullEnded id (.ok ())) s)) := by
  have hends : Deed s [] _ := .endPull hs ht hp
  have hmoves : MovesTo s (setSource id { source with pulling := false, pullAgain := false }
      (note (.pullEnded id (.ok ())) s)) :=
    (MovesTo.refl.note _).setSource hd hs ⟨rfl, rfl, rfl, rfl, rfl, rfl, fun h => h, fun h => h⟩
  exact .of_pipes ⟨_, .step .refl hends⟩ hmoves rfl

include ih

theorem readUnchecked_succ {id : ReadableId} {r : Except StreamError ReadOutcome × Session H E}
    (hw : s.Wired mark) (h : attempt (Session.readUnchecked (fuel + 1) id) s = some r) :
    s.RunsTo r.2 := by
  have hc := hw.composed
  by_cases hnative : ∀ source, s.streams.source? id = some source → ¬ source.IsTransform
  · cases hs : s.streams.source? id with
    | none => exact readUnchecked_of_gone hs h ▸ .refl s
    | some source => exact readUnchecked_native hc hs (hnative source hs) h
  · simp only [not_forall, not_not] at hnative
    obtain ⟨source, hs, ht⟩ := hnative
    have hmarks := runsTo_disturb hs ht
    have hd := isDisturbed_disturb hs
    have hwired := hmarks.wired hw
    obtain ⟨marked, hs', ht'⟩ := (flowsTo_disturb hs ht).isTransform hc hs ht
    have htake : ∀ t, (Session.disturb id source s).RunsTo t →
        (Session.disturb id source s).RunsTo (exec (takeReady id) t).2 := fun t hruns => by
      obtain ⟨made, hcourse⟩ := hruns.course
      obtain ⟨last, hlast, htransform⟩ := hcourse.isTransform hwired.composed hs' ht'
      exact hruns.trans (runsTo_takeReady hlast htransform (hruns.movesTo.disturbed hd))
        hwired.composed
    refine (readUnchecked_keeps (Session.disturb id source s).RunsTo hs h (.refl _) htake
      fun waits t _ hpull => ?_).elim (fun heq => heq ▸ .refl s) fun hread => hmarks.trans hread hc
    have htaken := htake _ (.refl _)
    obtain ⟨made, hcourse⟩ := htaken.course
    obtain ⟨last, hlast, htransform⟩ := hcourse.isTransform hwired.composed hs' ht'
    exact htaken.trans (ih.pullIfNeeded (htaken.wired hwired) hlast htransform
      (htaken.movesTo.disturbed hd) hpull) hwired.composed

theorem pullIfNeeded_succ {id : ReadableId} {source : Source E} {readerWaits : Bool}
    {r : Unit × Session H E} (hw : s.Wired mark) (hs : s.streams.source? id = some source)
    (ht : source.IsTransform) (hd : s.streams.isDisturbed id = true)
    (h : EdgeStreams.drive (Session.pullIfNeeded (fuel + 1) id readerWaits) s = some r) :
    s.RunsTo r.2 := by
  have hc := hw.composed
  rcases (flowDeeds fuel).pullIfNeeded_cases hc hs ht h with
    ⟨-, rfl⟩ | ⟨hwants, ⟨hp, rfl⟩ | ⟨hp, t, last, hpull, hnext⟩⟩
  · exact .refl s
  · have hasks : Deed s [] (setSource id { source with pullAgain := true } s) := .ask hs ht hp
    refine .of_pipes ⟨_, .step .refl hasks⟩ (MovesTo.refl.setSource hd hs ?_) rfl
    exact ⟨rfl, rfl, rfl, rfl, rfl, rfl, fun h => h, fun h => h⟩
  · have hbegan := runsTo_beginPull hs ht hd hwants hp
    have hpulled := hbegan.trans (ih.pull (hbegan.wired hw) hpull.during ht hpull.pull) hc
    have hdone := hpulled.trans (runsTo_endPull hpull.found hpull.isTransform
      (hpulled.movesTo.disturbed hd) hpull.pulling) hc
    rcases hnext with rfl | hagain
    · exact hdone
    · exact hdone.trans (ih.pullIfNeeded (hdone.wired hw) hpull.ended hpull.isTransform
        (hdone.movesTo.disturbed hd) hagain) hc

omit ih in
theorem runsTo_request {id : BridgeId} {bridge : Bridge E}
    (hb : s.streams.bridge? id = some bridge) :
    s.RunsTo (setBridge id { bridge with pullRequested := true } s) :=
  .of_changesWithin (FlowDeeds.flowsTo_request hb)
    (ChangesWithin.refl.setBridge (f := { bridges := {id} }) rfl hb ⟨rfl, rfl, rfl, fun h => h⟩)

theorem pull_succ {id : ReadableId} {source : Source E} {r : Except StreamError Unit × Session H E}
    (hw : s.Wired mark) (hs : s.streams.source? id = some source) (ht : source.IsTransform)
    (h : attempt (Session.pull (fuel + 1) id) s = some r) : s.RunsTo r.2 := by
  obtain ⟨name, hback⟩ := ht
  obtain ⟨bridge, hb, -⟩ := hw.composed.readable hs hback
  have hasked := runsTo_request hb
  rcases pull_cases hs hback hb h with ⟨-, rfl⟩ | ⟨pipe, steps, t, -, hpump, rfl⟩
  · exact hasked
  · exact hasked.trans (ih.pumpPipe (hasked.wired hw) hpump) hw.composed

theorem pumpPipe_succ {id : PipeId} {r : Nat × Session H E} (hw : s.Wired mark)
    (h : EdgeStreams.drive (Session.pumpPipe (fuel + 1) id) s = some r) : s.RunsTo r.2 := by
  rcases pumpPipe_cases h with ⟨-, rfl⟩ | ⟨pipe, steps, t, hp, -, -, hsteps, rfl⟩
  · exact .refl s
  · have hdrives := RunsTo.drive true hp
    have hnames : (mapStreams (fun streams => streams.setPipe id { pipe with pumping := true })
        s).streams.NamesPipe id pipe := ⟨pipe.state, true, by simp [Registry.pipe?_setPipe, hp]⟩
    have hpumped := hdrives.trans (ih.pumpSteps (hdrives.wired hw) hnames hsteps) hw.composed
    simp only [mapStreams, parked]
    cases ht : t.streams.pipe? id with
    | none => exact hpumped
    | some pipe' => exact hpumped.trans (.drive false ht) hw.composed

omit ih in
theorem runsTo_failPipe {id : PipeId} {pipe : Pipe} (hw : s.Wired mark)
    (hnames : s.streams.NamesPipe id pipe) (hclosed : ¬ s.streams.Accepts pipe.destination)
    (error : StreamError) : s.RunsTo (failPipe id pipe error s).2 := by
  have hc := hw.composed
  obtain ⟨state, pumping, hp⟩ := hnames
  cases hfound : s.streams.containsWritable pipe.destination with
  | true =>
    rw [failPipe_snd hfound]
    have htouches := changesWithin_cancelSource pipe s
    have hflows := flowsTo_cancelSource hc pipe
    refine (RunsTo.refl s).finish_touched hc hflows htouches (by simp) fun found hp' hr _ => ?_
    cases hp.symm.trans hp'
    cases Registry.isRunning_iff.mp hr
    exact ⟨by simp, fun ha => hclosed ((RunsTo.of_changesWithin hflows htouches).accepts hc ha),
      isOver_cancelSource hw ⟨pumping, hp⟩, fun _ => ⟨error, rfl⟩, fun h => by cases h⟩
  | false =>
    rw [failPipe_snd_of_gone hfound]
    refine (RunsTo.refl s).finish hc (by simp) fun found hp' hr _ => ?_
    -- a running pipe finds its destination
    cases hp.symm.trans hp'
    obtain ⟨held, spent, horderly⟩ := hw.orderly
    obtain ⟨sink, hk, -⟩ := (horderly.holds id _ hp hr).sink
    rw [Registry.containsWritable, Option.isSome_eq_false_iff, Option.isNone_iff_eq_none] at hfound
    cases hk.symm.trans hfound

section Ends

omit ih

variable {id : PipeId} {pipe : Pipe} (hmoved : s.RunsTo t) (hw : s.Wired mark)
variable (hnames : s.streams.NamesPipe id pipe) (haccepts : s.streams.Accepts pipe.destination)
include hmoved hw hnames haccepts

/-- A pipe fails where its source has failed. -/
theorem runsTo_failed (error : StreamError)
    (hover : t.streams.RunsAs id pipe → t.streams.IsOver pipe.source) :
    s.RunsTo (pipeFinished id (.failed error) (abortDestination pipe t).2) := by
  have hwired := hmoved.wired hw
  have htouches := changesWithin_abortDestination pipe t
  have hflows := flowsTo_abortDestination hwired.composed pipe
  refine hmoved.finish_touched hw.composed hflows htouches (by simp)
    fun pipe' hp' hr' hspreads => ?_
  obtain ⟨pumping, rfl⟩ := hmoved.movesTo.runsTo_as hnames hp' hr'
  have hruns : t.streams.RunsAs id pipe := ⟨pumping, hp'⟩
  have haborts := RunsTo.of_changesWithin hflows htouches
  exact ⟨by simp, not_accepts_abortDestination hwired hruns hspreads.2,
    fun _ => haborts.isOver hwired.composed (hover hruns),
    fun hclosed => absurd haccepts hclosed, fun h => by cases h⟩

/-- A pipe is done where its source has ended, or fails to close its destination. -/
theorem runsTo_drained (hover : t.streams.RunsAs id pipe → t.streams.IsOver pipe.source) :
    s.RunsTo (pipeFinished id (closeDestination pipe t).1 (closeDestination pipe t).2) := by
  have hwired := hmoved.wired hw
  obtain ⟨htouches, hstopped⟩ := changesWithin_closeDestination pipe t
  have hflows := flowsTo_closeDestination hwired.composed pipe
  refine hmoved.finish_touched hw.composed hflows htouches hstopped fun pipe' hp' hr' hspreads => ?_
  obtain ⟨pumping, rfl⟩ := hmoved.movesTo.runsTo_as hnames hp' hr'
  have hruns : t.streams.RunsAs id pipe := ⟨pumping, hp'⟩
  have hended := (RunsTo.of_changesWithin hflows htouches).isOver hwired.composed (hover hruns)
  exact ⟨hstopped, not_accepts_closeDestination hwired hruns hspreads.1, fun _ => hended,
    fun hclosed => absurd haccepts hclosed,
    fun hdone => ⟨hended, isClosed_closeDestination hwired hruns hspreads.1 hdone⟩⟩

/-- A pipe fails where its destination has refused a chunk. -/
theorem runsTo_refused {data : Bytes} {error : StreamError}
    (hwrite : exec (write pipe.destination data (some pipe.writer)) t = (.error error, u)) :
    s.RunsTo (pipeFinished id (.failed error) (cancelSource pipe u).2) := by
  have hwired := hmoved.wired hw
  have htouches := changesWithin_write t pipe.destination data (some pipe.writer)
  have hflows := flowsTo_write hwired.composed pipe.destination data (some pipe.writer)
  have hrefused : t.streams.RunsAs id pipe → _ := fun hruns =>
    not_accepts_write hwired hruns (congrArg Prod.fst hwrite)
  simp only [hwrite] at htouches hflows hrefused
  have hwritten := hmoved.trans (.of_changesWithin hflows htouches) hw.composed
  have hwiredAfter := hwritten.wired hw
  have hcanceled := changesWithin_cancelSource pipe u
  have hflows' := flowsTo_cancelSource hwiredAfter.composed pipe
  refine hwritten.finish_touched hw.composed hflows' hcanceled (by simp) fun pipe' hp' hr' _ => ?_
  obtain ⟨pumping, rfl⟩ := hwritten.movesTo.runsTo_as hnames hp' hr'
  have hbefore := (Registry.pipe?_congr htouches.pipes_eq id).symm.trans hp'
  have hcancels := RunsTo.of_changesWithin hflows' hcanceled
  exact ⟨by simp, fun ha => hrefused ⟨pumping, hbefore⟩ (hcancels.accepts hwiredAfter.composed ha),
    isOver_cancelSource hwiredAfter ⟨pumping, hp'⟩, fun hclosed => absurd haccepts hclosed,
    fun h => by cases h⟩

end Ends

/-- A pipe ends because its destination takes no more writes, or because its source is over and it
ends or fails its destination itself. -/
theorem pumpSteps_succ {id : PipeId} {pipe : Pipe} {steps : Nat} {r : Nat × Session H E}
    (hw : s.Wired mark) (hnames : s.streams.NamesPipe id pipe)
    (h : EdgeStreams.drive (Session.pumpSteps (fuel + 1) id pipe steps) s = some r) :
    s.RunsTo r.2 := by
  rcases pumpSteps_cases h with ⟨error, hfault, rfl⟩ |
    ⟨hfault, ⟨-, rfl⟩ | ⟨-, found, t, hread, hfound⟩⟩
  · have hclosed : ¬ s.streams.Accepts pipe.destination := fun ha => by
      rw [Registry.destinationFault?_eq_none_iff.mpr ha] at hfault
      cases hfault
    exact runsTo_failPipe hw hnames hclosed error
  · exact .refl s
  have haccepts := Registry.destinationFault?_eq_none_iff.mp hfault
  have hmoved : s.RunsTo t := by
    rcases readByPipe_cases hread with hread | ⟨rfl, -⟩
    · exact ih.readUnchecked hw hread
    · exact .refl _
  -- a pipe that still runs has held the lock, so it has read its source
  have hover : t.streams.RunsAs id pipe → (found = .ok .done ∨ ∃ error, found = .error error) →
      t.streams.IsOver pipe.source := by
    rintro ⟨pumping, hp'⟩ hend
    obtain ⟨state, pumping, hp⟩ := hnames
    obtain ⟨held, spent, horderly⟩ := hw.orderly
    obtain ⟨source, hs, hlock, -⟩ :=
      (horderly.holds id _ hp (hmoved.movesTo.was_running hp hp' rfl)).source
    rw [attempt_readByPipe fuel s pipe hs hlock] at hread
    exact isOver_readUnchecked hw hread hend
  cases hfound with
  | starved => exact hmoved
  | failed error =>
    exact runsTo_failed hmoved hw hnames haccepts error fun hruns => hover hruns (.inr ⟨error, rfl⟩)
  | drained => exact runsTo_drained hmoved hw hnames haccepts fun hruns => hover hruns (.inl rfl)
  | refused data error u hwrite => exact runsTo_refused hmoved hw hnames haccepts hwrite
  | carried data u hwrite hrest =>
    have hwired := hmoved.wired hw
    have htouches := changesWithin_write t pipe.destination data (some pipe.writer)
    have hflows := flowsTo_write hwired.composed pipe.destination data (some pipe.writer)
    simp only [hwrite] at htouches hflows
    have hwritten := hmoved.trans (.of_changesWithin hflows htouches) hw.composed
    exact hwritten.trans (ih.pumpSteps (hwritten.wired hw) (hwritten.movesTo.names hnames) hrest)
      hw.composed

end FlowRuns

/-- By induction on the fuel. -/
theorem flowRuns (mark : UInt64) (fuel : Nat) : FlowRuns H E mark fuel := by
  induction fuel with
  | zero => exact .zero
  | succ fuel ih =>
    exact ⟨ih.readUnchecked_succ, ih.pullIfNeeded_succ, ih.pull_succ, ih.pumpPipe_succ,
      ih.pumpSteps_succ⟩

end Session

end EdgeStreams
