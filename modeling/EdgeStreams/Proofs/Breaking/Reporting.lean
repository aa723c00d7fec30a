import EdgeStreams.Proofs.Breaking.Carrying
import EdgeStreams.Proofs.Breaking.Faring

/-!
# A pipe out of a transform stream that passes every chunk on

The pipe writes to a host body. If what comes into the transform stream fails, the pipe fails with
the abort that the readable half has failed with, unless a write to the host body has failed before.

## Main definitions

- `Conduit`: a transform stream that passes every chunk on, with a pipe in and a pipe out
- `Conduit.Reports`: the pipe out runs and the pipe in carries, or the pipe out has failed with an
  abort, or a write has failed, or what is piped in has ended

## Main statements

- `Conduit.reports_acts`: kept by one act after another
-/

namespace EdgeStreams

variable {H E : Type}

/-- What is piped with default options through a transform stream that passes every chunk on. -/
structure Conduit extends Passthrough where
  outlet : PipeId
  drain : Pipe
  out : drain.source = stage.readable
  plainly : drain.options = {}

/-- The stream over a host body takes writes. -/
def Registry.TakesHost (streams : Registry E) (id : WritableId) : Prop :=
  ∃ sink handle, streams.sink? id = some sink ∧ sink.backing = .body handle ∧
    sink.controller.state = .writable

namespace Session

variable {s t : Session H E} {id : WritableId} {mark : UInt64}

/-- A write to the stream has failed. -/
def HasRefused (id : WritableId) (s : Session H E) : Prop :=
  ∃ chunk error, StreamEvent.written id chunk (.error error) ∈ s.journal

theorem takesHost_pipeFinished (h : s.streams.TakesHost id) (name : PipeId) (state : PipeState) :
    (pipeFinished name state s).streams.TakesHost id := by
  obtain ⟨sink, handle, hk, hback, hwritable⟩ := h
  obtain ⟨sink', hk', hsame⟩ := SlotMap.rel_some_left (hk ▸ sameSink_pipeFinished name state s id)
  exact ⟨sink', handle, hk', hsame.backing.trans hback, hsame.controller ▸ hwritable⟩

theorem writableState?_pipeFinished (name : PipeId) (state : PipeState) (s : Session H E)
    (id : WritableId) :
    (pipeFinished name state s).streams.writableState? id = s.streams.writableState? id := by
  have hsame := sameSink_pipeFinished name state s id
  unfold Registry.writableState?
  generalize s.streams.sink? id = before, (pipeFinished name state s).streams.sink?
    id = after at hsame
  cases hsame with
  | none => rfl
  | some hsame => rw [Option.map_some, Option.map_some, hsame.controller]

theorem pipeState?_pipeFinished {name : PipeId} {pipe : Pipe} (hr : s.streams.RunsAs name pipe)
    (state : PipeState) : (pipeFinished name state s).streams.pipeState? name = some state := by
  obtain ⟨pumping, hp⟩ := hr
  simp [Registry.pipeState?, pipeFinished, Registry.pipe?_finishPipe _ hp rfl]

/-- Work on sources does not reach the stream over a host body. -/
theorem Wired.outside_source (hw : s.Wired mark) {sink : Sink E} {handle : BodyHandle}
    (hk : s.streams.sink? id = some sink) (hbody : sink.backing = .body handle)
    (other : ReadableId) :
    id ∉ (s.streams.sourceReach other).writables := by
  intro hm
  obtain ⟨source, name, bridge, hs, hback, hb, rfl⟩ := Registry.mem_sourceReach hm
  have htransform := (hw.couples.paired hs hback hb hk).1
  rw [hbody] at htransform
  cases htransform

variable [Host H]

theorem ChangesWithin.takesHost {f : Footprint} (ht : ChangesWithin f s t)
    (h : s.streams.TakesHost id) (hid : id ∉ f.writables) : t.streams.TakesHost id := by
  obtain ⟨sink, handle, hk, hback, hwritable⟩ := h
  exact ⟨sink, handle, (ht.sink?_outside hid).trans hk, hback, hwritable⟩

theorem ChangesWithin.runsAs {f : Footprint} (ht : ChangesWithin f s t)
    {name : PipeId} {pipe : Pipe} (h : s.streams.RunsAs name pipe) :
    t.streams.RunsAs name pipe := by
  obtain ⟨pumping, hp⟩ := h
  exact ⟨pumping, (Registry.pipe?_congr ht.pipes_eq _).trans hp⟩

theorem HasRefused.movesTo (h : HasRefused id s) (hm : MovesTo s t) : HasRefused id t := by
  obtain ⟨chunk, error, hmem⟩ := h
  obtain ⟨new, hjournal⟩ := hm.journal
  exact ⟨chunk, error, hjournal ▸ List.mem_append_right new hmem⟩

/-- A write to the stream over a host body leaves it taking writes, or is noted to have failed and
fails the stream. -/
theorem write_takesHost (hw : s.Wired mark) (h : s.streams.TakesHost id) {writer : WriterToken}
    (hlock : ∀ sink, s.streams.sink? id = some sink → sink.writerLock = some writer)
    (chunk : Bytes) :
    ((exec (write id chunk (some writer)) s).1 = .ok () →
      (exec (write id chunk (some writer)) s).2.streams.TakesHost id) ∧
    ∀ error, (exec (write id chunk (some writer)) s).1 = .error error →
      HasRefused id (exec (write id chunk (some writer)) s).2 ∧ ∃ sink handle failure,
        (exec (write id chunk (some writer)) s).2.streams.sink? id = some sink ∧
          sink.backing = .body handle ∧ sink.controller.state = .errored failure := by
  obtain ⟨sink, handle, hk, hback, hwritable⟩ := h
  obtain ⟨answer, host, hcall⟩ : ∃ answer host, exec (Host.bodyWrite handle chunk) s.host =
      (answer, host) :=
    ⟨_, _, rfl⟩
  rw [← hlock sink hk, exec_write_of_lock hk,
    exec_writeUnchecked_body hk hback (hw.composed.idle hk) hwritable chunk hcall]
  cases answer with
  | ok =>
    refine ⟨fun _ => ⟨sink.rested (.ok ()), handle, ?_, hback, hwritable⟩, nofun⟩
    simp [Registry.sink?_setSink, hk, Except.mapError]
  | error failure =>
    refine ⟨nofun, fun _ _ => ⟨⟨chunk, .host .bodyWrite failure, List.mem_cons_self ..⟩, ?_⟩⟩
    refine ⟨sink.rested (.error (.host .bodyWrite failure)), handle, _, ?_, hback,
      Sink.state_rested_error hwritable _⟩
    simp [Registry.sink?_setSink, hk, Except.mapError]

/-- What a pipe does leaves the stream over a host body taking writes, if it does not reach it. -/
theorem ActOf.takesHost {name : PipeId} {pipe : Pipe} (hact : ActOf name pipe s t)
    (hw : s.Wired mark) (h : s.streams.TakesHost id)
    (hout : id ∉ (s.streams.sinkReach pipe.destination).writables) :
    t.streams.TakesHost id := by
  obtain ⟨during, last, hflows, htouches, hlast, hend⟩ := hact.parts hw.composed
  have hduring := htouches.takesHost h hout
  have hleft : last.streams.TakesHost id := by
    rcases hlast with rfl | ⟨-, -, hcancels⟩
    · exact hduring
    · obtain ⟨made, hcourse⟩ := hflows.course
      have hwired := hw.course hcourse (.of_changesWithin htouches)
      obtain ⟨sink, handle, hk, hback, hwritable⟩ := hduring
      exact hcancels.takesHost ⟨sink, handle, hk, hback, hwritable⟩
        (hwired.outside_source hk hback _)
  rcases hend with rfl | ⟨state, -, rfl⟩
  · exact hleft
  · exact takesHost_pipeFinished hleft name state

/-- The pipe runs into a stream over a host body that takes writes. -/
structure PipesIntoHost (name : PipeId) (pipe : Pipe) (s : Session H E) : Prop where
  runsTo : s.streams.RunsAs name pipe
  takes : s.streams.TakesHost pipe.destination

namespace PipesIntoHost

variable {name name' : PipeId} {pipe pipe' : Pipe} (h : s.PipesIntoHost name pipe)
  (hw : s.Wired mark)
include h hw

omit [Host H] in
/-- The pipe holds the stream over the host body. -/
theorem lock (sink : Sink E) (hk : s.streams.sink? pipe.destination = some sink) :
    sink.writerLock = some pipe.writer := by
  obtain ⟨pumping, hp⟩ := h.runsTo
  obtain ⟨held, spent, horderly⟩ := hw.orderly
  obtain ⟨found, hfound, hlock⟩ := (horderly.holds _ _ hp rfl).sink
  cases hk.symm.trans hfound
  exact hlock

omit [Host H] in
/-- Another pipe writes elsewhere. -/
theorem outside (hr : s.streams.RunsAs name' pipe') (hne : name' ≠ name) :
    pipe.destination ∉ (s.streams.sinkReach pipe'.destination).writables := by
  intro hm
  obtain ⟨held, spent, horderly⟩ := hw.orderly
  obtain ⟨pumping, hp⟩ := hr
  obtain ⟨pumping', hp'⟩ := h.runsTo
  exact hne (horderly.destination_inj hp rfl hp' rfl (hw.composed.mem_sinkReach hm).symm)

/-- What another pipe does leaves the pipe and its destination alone. -/
theorem other (hr : s.streams.RunsAs name' pipe') (hne : name' ≠ name)
    (hact : ActOf name' pipe' s t) : t.PipesIntoHost name pipe := by
  refine ⟨?_, hact.takesHost hw h.takes (h.outside hw hr hne)⟩
  obtain ⟨pumping, hp⟩ := h.runsTo
  obtain ⟨during, last, -, htouches, hlast, hend⟩ := hact.parts hw.composed
  have hduring : during.streams.pipe? name = _ :=
    (Registry.pipe?_congr htouches.pipes_eq _).trans hp
  have hleft : last.streams.pipe? name = some { pipe with state := .running, pumping } := by
    rcases hlast with rfl | ⟨-, -, hcancels⟩
    · exact hduring
    · exact (Registry.pipe?_congr hcancels.pipes_eq _).trans hduring
  rcases hend with rfl | ⟨state, -, rfl⟩
  · exact ⟨pumping, hleft⟩
  · exact ⟨pumping, (Registry.pipe?_finishPipe_of_ne hne.symm).trans hleft⟩

omit hw in
/-- Streams that are read or pulled leave the pipe and its destination alone. -/
theorem quiet (hquiet : Quiet s t) : t.PipesIntoHost name pipe := by
  obtain ⟨pumping, hp⟩ := h.runsTo
  obtain ⟨pumping', hp'⟩ := hquiet.pipe hp
  obtain ⟨sink, handle, hk, hback, hwritable⟩ := h.takes
  exact ⟨⟨pumping', hp'⟩, sink, handle, (hquiet.sink _).trans hk, hback, hwritable⟩

/-- A chunk has been handed on. -/
theorem wrote (hr : s.streams.RunsAs name pipe') {chunk : Bytes}
    (hok : (exec (write pipe'.destination chunk (some pipe'.writer)) s).1 = .ok ()) :
    (exec (write pipe'.destination chunk (some pipe'.writer)) s).2.PipesIntoHost name pipe := by
  obtain ⟨-, hdestination, hwriter, -⟩ := h.runsTo.same hr
  rw [hdestination, hwriter] at hok ⊢
  exact ⟨(changesWithin_write s pipe.destination chunk (some pipe.writer)).runsAs h.runsTo,
    (write_takesHost hw h.takes (h.lock hw) chunk).1 hok⟩

/-- The pipe gives up only over a write that fails. -/
theorem refused (hr : s.streams.RunsAs name pipe') (hgives : GivesUp name pipe' s t) :
    t.HasRefused pipe.destination := by
  obtain ⟨-, hdestination, hwriter, -⟩ := h.runsTo.same hr
  cases hgives with
  | @refused chunk error hrefused =>
    rw [hdestination, hwriter] at hrefused ⊢
    obtain ⟨hnoted, -⟩ := (write_takesHost hw h.takes (h.lock hw) chunk).2 error hrefused
    exact hnoted.movesTo ((movesTo_cancelSource pipe' _).finish _ (by simp))
  | faulted hdead =>
    obtain ⟨sink, handle, hk, -, hwritable⟩ := h.takes
    rw [hdestination] at hdead
    exact absurd ⟨sink, hk, hwritable⟩ hdead

end PipesIntoHost

end Session

namespace Conduit

variable (c : Conduit)

/-- The pipe out runs into a stream over a host body that takes writes, and the pipe in carries. -/
structure Draining (s : Session H E) : Prop extends s.PipesIntoHost c.outlet c.drain where
  carries : c.Carries s

/-- The pipe out runs and the pipe in carries, or the pipe out has failed with an abort, or a write
has failed, or what is piped in has ended. -/
def Reports (s : Session H E) : Prop :=
  c.Draining s ∨ s.streams.pipeState? c.outlet = some (.failed .aborted) ∨
    s.HasRefused c.drain.destination ∨ s.streams.readableState? c.mouth = some .closed

variable {c} {s t : Session H E} {mark : UInt64} {name : PipeId} {pipe : Pipe}

namespace Draining

/-- No other pipe runs out of the transform stream. -/
theorem sole (h : c.Draining s) (hw : s.Wired mark) (hr : s.streams.RunsAs name pipe)
    (hsource : pipe.source = c.stage.readable) : name = c.outlet := by
  obtain ⟨held, spent, horderly⟩ := hw.orderly
  obtain ⟨pumping, hp⟩ := hr
  obtain ⟨pumping', hp'⟩ := h.runsTo
  exact horderly.source_inj hp rfl hp' rfl (hsource.trans c.out.symm)

variable [Host H] (h : c.Draining s) (hw : s.Wired mark)
include h hw

/-- The pipe out ends or fails as the transform stream does, unless a write fails. -/
theorem own (hl : c.Laid s.streams) (hr : s.streams.RunsAs c.outlet pipe)
    (hact : Session.ActOf c.outlet pipe s t) :
    t.PipesIntoHost c.outlet c.drain ∨
      t.streams.pipeState? c.outlet = some (.failed .aborted) ∨
        t.HasRefused c.drain.destination ∨ s.streams.readableState? c.mouth = some .closed := by
  obtain ⟨hsource, -⟩ := h.runsTo.same hr
  -- what has become of the readable half, if it takes no more chunks
  have hfate : ∀ {source : Source E}, s.streams.source? pipe.source = some source →
      ¬ source.controller.IsOpen → source.controller.state = .errored .aborted ∨
        s.streams.readableState? c.mouth = some .closed := fun {source} hs hshut => by
    rw [hsource, c.out] at hs
    rcases h.carries with hflows | hbroken | hended
    · obtain ⟨found, hfound, hopen⟩ := hflows.isOpen
      cases hs.symm.trans hfound
      exact absurd hopen hshut
    · rw [Registry.readableState?_eq hs, Option.some.injEq] at hbroken
      exact .inl hbroken
    · exact .inr hended
  cases hact with
  | @ended source hs hstate =>
    have hshut : ¬ source.controller.IsOpen := fun hopen => by simp [hopen.state] at hstate
    rcases hfate hs hshut with hbroken | hended
    · rw [hstate] at hbroken
      cases hbroken
    · exact .inr (.inr (.inr hended))
  | @failed source error hs hfails =>
    obtain ⟨found, hfound, -, hstart⟩ := hl.readable
    rw [hsource, c.out] at hs
    cases hs.symm.trans hfound
    have hstate : source.controller.state = .errored error :=
      hfails.resolve_right fun hrejected => by rw [hstart] at hrejected; cases hrejected
    have hshut : ¬ source.controller.IsOpen := fun hopen => by simp [hopen.state] at hstate
    rcases hfate (by rw [hsource, c.out, hs]) hshut with hbroken | hended
    · cases hstate.symm.trans hbroken
      have hruns := (Session.changesWithin_abortDestination pipe s).runsAs h.runsTo
      exact .inr (.inl (Session.pipeState?_pipeFinished hruns _))
    · exact .inr (.inr (.inr hended))
  | wrote hok => exact .inl (h.wrote hw hr hok)
  | gaveUp hgives => exact .inr (.inr (.inl (h.refused hw hr hgives)))

end Draining

variable [Host H]

theorem Reports.act (h : c.Reports s) (hw : s.Wired mark) (hl : c.Laid s.streams)
    (ha : Session.Act s t) : c.Reports t := by
  have hmoves := ha.movesTo hw.composed
  obtain ⟨made, hcourse⟩ := ha.course hw.composed
  have hended : s.streams.readableState? c.mouth = some .closed → c.Reports t := fun hstate =>
    .inr (.inr (.inr (hcourse.readableState? hw.composed hstate (by simp))))
  rcases h with hdrains | hfailed | hrefused | hstate
  · rcases hdrains.carries.act hw hl ha with hcarries | ⟨name, pipe, hr, hsource, hgives⟩
    · cases ha with
      | quiet hquiet => exact .inl ⟨hdrains.quiet hquiet, hcarries⟩
      | @pipe name pipe _ hr hact =>
        by_cases hne : name = c.outlet
        · subst hne
          rcases hdrains.own hw hl hr hact with hpours | hfailed | hrefused | hstate
          · exact .inl ⟨hpours, hcarries⟩
          · exact .inr (.inl hfailed)
          · exact .inr (.inr (.inl hrefused))
          · exact hended hstate
        · exact .inl ⟨hdrains.other hw hr hne hact, hcarries⟩
    · cases hdrains.sole hw hr hsource
      exact .inr (.inr (.inl (hdrains.refused hw hr hgives)))
  · exact .inr (.inl (hmoves.pipeState? hfailed (by simp)))
  · exact .inr (.inr (.inl (hrefused.movesTo hmoves)))
  · exact hended hstate

theorem reports_acts {but : Set PipeId} (h : c.Reports s) (hw : s.Wired mark)
    (hl : c.Laid s.streams) (ha : Session.Acts but s t) : c.Reports t := by
  suffices hkept : c.Reports t ∧ c.Laid t.streams from hkept.1
  refine ha.keeps (P := fun t => c.Reports t ∧ c.Laid t.streams) hw ?_ ⟨h, hl⟩
  rintro u v hwired hact ⟨hreports, hlaid⟩
  obtain ⟨made, hcourse⟩ := hact.course hwired.composed
  exact ⟨hreports.act hwired hlaid hact, hlaid.course hcourse hwired.composed⟩

end Conduit

end EdgeStreams
