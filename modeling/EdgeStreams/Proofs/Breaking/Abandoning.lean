import EdgeStreams.Proofs.Breaking.Faring
import EdgeStreams.Proofs.Breaking.Sending

/-!
# What becomes of the body of a response

A response is piped into a new stream over a new host body. The pipe and the stream come to the same
end: the stream is closed where the pipe is done, and has failed where the pipe has failed or is
torn down. A body that nothing goes wrong with is closed, and the worker answers with it. Otherwise
the body is abandoned, unless what goes wrong is a call to the host about that body: then the stream
has failed before anything could abandon the body, and the body is left open.

## Main definitions

- `Session.Alike`: a pipe and the stream that it writes to go on, or have both ended, or have both
  failed
- `Session.LeavesBody`: everything is as it was, but for locks, owners and marks
- `Session.ExpectsWrites`: a stream over a host body that nobody else uses waits to be written
- `Session.DesertsBody`: a host body is abandoned, or is left open over a call that has failed
- `Worker.AccountsForBody`: an answer, and what has become of the body that was made for it

## Main statements

- `Session.Acts.alike`: kept while pipes are driven
- `Worker.send_accounts`: a response that is sent is in a closed body, and the body of one that is
  not is deserted
- `Session.DesertsBody.abandoned`: a body is abandoned if no fault is set for what is asked of it
-/

namespace EdgeStreams

variable {H E : Type}

/-! ### A pipe into a stream over a host body -/

namespace Session

/-- The pipe has ended, and the stream that it writes to is closed, or both have failed. -/
def EndsAlike (name : PipeId) (w : WritableId) (s : Session H E) : Prop :=
  s.streams.pipeState? name = some .done ∧ s.streams.writableState? w = some .closed ∨
    ∃ reason error, s.streams.pipeState? name = some (.failed reason) ∧
      s.streams.writableState? w = some (.errored error)

/-- The pipe runs into a stream over a host body that takes writes, or both have ended, or both have
failed. -/
def Alike (name : PipeId) (pipe : Pipe) (s : Session H E) : Prop :=
  s.PipesIntoHost name pipe ∨ s.EndsAlike name pipe.destination

variable [Host H] {s t : Session H E} {name : PipeId} {pipe pipe' : Pipe} {w : WritableId}
variable {mark : UInt64}

theorem EndsAlike.act (h : s.EndsAlike name w) (hc : s.streams.Composed) (ha : Act s t) :
    t.EndsAlike name w := by
  obtain ⟨made, hcourse⟩ := ha.course hc
  have hmoves := ha.movesTo hc
  rcases h with ⟨hdone, hclosed⟩ | ⟨reason, error, hfailed, herrored⟩
  · exact .inl ⟨hmoves.pipeState? hdone (by simp), hcourse.writableState? hc hclosed (by simp)⟩
  · exact .inr ⟨reason, error, hmoves.pipeState? hfailed (by simp),
      hcourse.writableState? hc herrored (by simp)⟩

namespace PipesIntoHost

variable (h : s.PipesIntoHost name pipe) (hw : s.Wired mark)
include h hw

/-- The end of the pipe closes the stream, or fails with it. -/
theorem endsAlike_closeDestination (hr : s.streams.RunsAs name pipe') (hplain : pipe.options = {}) :
    (pipeFinished name (closeDestination pipe' s).1 (closeDestination pipe' s).2).EndsAlike name
      pipe.destination := by
  obtain ⟨-, hdestination, hwriter, hoptions⟩ := h.runsTo.same hr
  obtain ⟨sink, handle, hk, hback, hwritable⟩ := h.takes
  have hcloses : pipe'.options.preventClose = false := by rw [hoptions, hplain]
  have hruns := (changesWithin_closeDestination pipe' s).1.runsAs h.runsTo
  rw [EndsAlike, pipeState?_pipeFinished hruns, writableState?_pipeFinished,
    closeDestination_eq hcloses, hdestination, hwriter, ← h.lock hw sink hk, exec_close_of_lock hk]
  obtain ⟨answer, host, hcall⟩ :
      ∃ answer host, exec (Host.bodyClose handle) s.host = (answer, host) :=
    ⟨_, _, rfl⟩
  rw [exec_closeUnchecked_body hk hback (hw.composed.idle hk) hwritable hcall]
  cases answer with
  | ok =>
    refine .inl ⟨rfl, ?_⟩
    simp [Registry.writableState?, Registry.sink?_setSink, hk, Except.mapError,
      Sink.closedBy, Sink.inState]
  | error error =>
    refine .inr ⟨_, .host .bodyClose error, rfl, ?_⟩
    simp [Registry.writableState?, Registry.sink?_setSink, hk, Except.mapError,
      Sink.state_closedBy_error]

/-- The failure of the pipe's source fails the stream. -/
theorem endsAlike_abortDestination (hr : s.streams.RunsAs name pipe') (hplain : pipe.options = {})
    (error : StreamError) :
    (pipeFinished name (.failed error) (abortDestination pipe' s).2).EndsAlike name
      pipe.destination := by
  obtain ⟨-, hdestination, hwriter, hoptions⟩ := h.runsTo.same hr
  obtain ⟨sink, handle, hk, hback, hwritable⟩ := h.takes
  have haborts : pipe'.options.preventAbort = false := by rw [hoptions, hplain]
  have hruns := (changesWithin_abortDestination pipe' s).runsAs h.runsTo
  obtain ⟨sink', found, hk', hfailed, -⟩ :=
    errored_abortUnchecked hw.composed hk (by rw [hwritable]; simp) none
  refine .inr ⟨error, found, pipeState?_pipeFinished hruns _, ?_⟩
  rw [writableState?_pipeFinished, abortDestination_snd haborts, hdestination, hwriter,
    ← h.lock hw sink hk, exec_abort_of_lock hk, Registry.writableState?_eq hk', hfailed]

/-- The pipe gives up only where the stream has failed. -/
theorem endsAlike_of_givesUp (hr : s.streams.RunsAs name pipe') (hgives : GivesUp name pipe' s t) :
    t.EndsAlike name pipe.destination := by
  obtain ⟨-, hdestination, hwriter, -⟩ := h.runsTo.same hr
  cases hgives with
  | faulted hdead =>
    obtain ⟨sink, handle, hk, -, hwritable⟩ := h.takes
    rw [hdestination] at hdead
    exact absurd ⟨sink, hk, hwritable⟩ hdead
  | @refused chunk error hrefused =>
    obtain ⟨made, hcourse⟩ :=
      (flowsTo_write hw.composed pipe'.destination chunk (some pipe'.writer)).course
    have hwrites := changesWithin_write s pipe'.destination chunk (some pipe'.writer)
    have hwired := hw.course hcourse (.of_changesWithin hwrites)
    have hruns := hwrites.runsAs h.runsTo
    rw [hdestination, hwriter] at hrefused hwired hruns ⊢
    obtain ⟨-, failed, handle, failure, hfound, hbody, hstate⟩ :=
      (write_takesHost hw h.takes (h.lock hw) chunk).2 error hrefused
    -- the cancellation of the source does not reach the stream
    have hcancels := changesWithin_cancelSource pipe'
      (exec (write pipe.destination chunk (some pipe.writer)) s).2
    have hleft := (hcancels.sink?_outside (hwired.outside_source hfound hbody _)).trans hfound
    refine .inr ⟨error, failure, pipeState?_pipeFinished (hcancels.runsAs hruns) _, ?_⟩
    rw [writableState?_pipeFinished, Registry.writableState?_eq hleft, hstate]

theorem act (hplain : pipe.options = {}) (ha : Act s t) : t.Alike name pipe := by
  cases ha with
  | quiet hquiet => exact .inl (h.quiet hquiet)
  | @pipe name' pipe' _ hr hact =>
    by_cases hne : name' = name
    · subst hne
      cases hact with
      | ended => exact .inr (h.endsAlike_closeDestination hw hr hplain)
      | @failed _ error => exact .inr (h.endsAlike_abortDestination hw hr hplain error)
      | wrote hok => exact .inl (h.wrote hw hr hok)
      | gaveUp hgives => exact .inr (h.endsAlike_of_givesUp hw hr hgives)
    · exact .inl (h.other hw hr hne hact)

/-- The stream fails when the pipe is torn down. -/
theorem errored_abortCorrelated (reason : Option String) :
    (exec (abortCorrelated pipe.source reason) s).2.streams.writableState? pipe.destination =
      some (.errored .aborted) := by
  obtain ⟨pumping, hp⟩ := h.runsTo
  obtain ⟨sink, handle, hk, hback, hwritable⟩ := h.takes
  obtain ⟨held, spent, horderly⟩ := hw.orderly
  obtain ⟨between, last, hbetween, hlast, hrun⟩ := abortCorrelated_parts horderly hp rfl reason
  have hwired : between.Wired mark := by
    obtain ⟨made, hcourse⟩ := (flowsTo_abortUnchecked hw.composed pipe.destination reason).course
    have haborts : ChangesWithin _ s between :=
      hbetween ▸ changesWithin_abortUnchecked .refl reason s .refl
    exact hw.course (hbetween ▸ hcourse) (.of_changesWithin haborts)
  -- the stream fails first, and then the source is canceled
  have hfailed : between.streams.sink? pipe.destination = some (sink.failing .aborted) := by
    have habort := exec_abortUnchecked_body hk hback (hw.composed.idle hk) hwritable reason
      (Prod.eta (exec (Host.bodyAbandon handle) s.host)).symm
    rw [hbetween, show exec (abortUnchecked pipe.destination reason) s = _ from habort]
    simp [Registry.sink?_setSink, hk]
  have hcancels : ChangesWithin (between.streams.sourceReach pipe.source) between last :=
    hlast ▸ changesWithin_cancelUnchecked .refl reason between .refl
  have hleft := (hcancels.sink?_outside (hwired.outside_source hfailed hback _)).trans hfailed
  rw [show exec (abortCorrelated pipe.source reason) s = _ from hrun, writableState?_pipeFinished,
    Registry.writableState?_eq hleft, Sink.failing_of_writable hwritable]

end PipesIntoHost

theorem Acts.alike {but : Set PipeId} (ha : Acts but s t) (hw : s.Wired mark)
    (hplain : pipe.options = {}) (h : s.Alike name pipe) : t.Alike name pipe :=
  ha.keeps hw (fun hwired hact halike => halike.elim (fun hpours => hpours.act hwired hplain hact)
    fun hends => .inr (hends.act hwired.composed hact)) h

end Session

/-- What is made of the pipe is what has become of the stream over the host body. A pipe that still
runs is torn down, which fails the stream. -/
theorem Worker.finish_alike [Host H] {s t : Session H E} {name : PipeId}
    {pipe : Pipe} {mark : UInt64} (hw : s.Wired mark) (h : s.Alike name pipe)
    {result : Except WorkerError Unit} (hrun : exec (finish name pipe.source) s = (result, t)) :
    s.FlowsTo t ∧ (result = .ok () ∧ t.streams.writableState? pipe.destination = some .closed ∨
      ∃ failure error, result = .error failure ∧
        t.streams.writableState? pipe.destination = some (.errored error)) := by
  simp only [finish, exec_bind, exec_get] at hrun
  rcases h with hpours | ⟨hdone, hclosed⟩ | ⟨reason, error, hfailed, herrored⟩
  · have hstate : s.streams.pipeState? name = some .running := by
      obtain ⟨pumping, hp⟩ := hpours.runsTo
      rw [Registry.pipeState?, hp, Option.map_some]
    rw [hstate] at hrun
    cases hrun
    exact ⟨Session.flowsTo_abortCorrelated hw.composed _ _,
      .inr ⟨_, .aborted, rfl, hpours.errored_abortCorrelated hw (some "response stalled")⟩⟩
  · rw [hdone] at hrun
    cases hrun
    exact ⟨.refl s, .inl ⟨rfl, hclosed⟩⟩
  · rw [hfailed] at hrun
    cases hrun
    exact ⟨.refl s, .inr ⟨_, error, rfl, herrored⟩⟩

/-! ### Between the operations -/

namespace Session

/-- Nothing has been asked of any stream or of the host, and no stream has been made over the host
body. Everything is as it was, but for locks, owners and marks. -/
structure LeavesBody (handle : BodyHandle) (s t : Session H E) : Prop where
  persists : s.streams.Persists t.streams
  host : t.host = s.host
  calls : t.calls = s.calls
  reserves : ∀ {readable writable}, s.streams.ReservesBody handle readable writable →
    t.streams.ReservesBody handle readable writable

namespace LeavesBody

variable {s t u : Session H E} {handle : BodyHandle}

theorem refl (s : Session H E) : LeavesBody handle s s := ⟨.refl _, rfl, rfl, id⟩

theorem trans (h : LeavesBody handle s t) (h' : LeavesBody handle t u) : LeavesBody handle s u where
  persists := h.persists.trans h'.persists
  host := h'.host.trans h.host
  calls := h'.calls.trans h.calls
  reserves hr := h'.reserves (h.reserves hr)

/-- No stream has been made. -/
theorem of_makesNone (hp : s.streams.Persists t.streams) (hs : s.streams.Turnover t.streams)
    (hnone : s.streams.MakesNone t.streams) (hhost : t.host = s.host) (hcalls : t.calls = s.calls) :
    LeavesBody handle s t where
  persists := hp
  host := hhost
  calls := hcalls
  reserves hr := by
    refine ⟨fun {id source' size} hs' hback => ?_, fun {id sink'} hk' hback => ?_⟩
    · obtain ⟨source, hfound, hsame⟩ := hs.source_before hnone hs'
      exact hr.source hfound (hsame.backing.symm.trans hback)
    · obtain ⟨sink, hfound, hsame⟩ := hs.sink_before hnone hk'
      exact hr.sink hfound (hsame.backing.symm.trans hback)

theorem releaseReadable (s : Session H E) (id : ReadableId) :
    LeavesBody handle s (s.mapStreams fun streams => streams.releaseReadable id) :=
  of_makesNone (.releaseReadable _ id) (.releaseReadable id)
    (Registry.makesNone_modifySource id _) rfl rfl

theorem releaseWritable (s : Session H E) (id : WritableId) :
    LeavesBody handle s (s.mapStreams fun streams => streams.releaseWritable id) :=
  of_makesNone (.releaseWritable _ id) (.releaseWritable id)
    (Registry.makesNone_modifySink id _) rfl rfl

theorem openPipe (wf : s.streams.WellFormed) (r : ReadableId) (w : WritableId)
    (options : PipeOptions) :
    LeavesBody handle s { s with streams := (exec (Registry.openPipe r w options) s.streams).2 } :=
  of_makesNone (.openPipe wf r w options) (.openPipe wf r w options)
    (Registry.makesNone_openPipe _ r w options) rfl rfl

theorem setReadableOwner (s : Session H E) (id : ReadableId) (owner : OwnerKey) :
    LeavesBody handle s (exec (onStreams (Registry.setReadableOwner id owner)) s).2 := by
  refine of_makesNone (.setReadableOwner _ id owner) ?_ ?_ rfl rfl
  all_goals
    rw [exec_onStreams]
    dsimp only
    rw [Registry.exec_setReadableOwner_snd]
  · exact .modifySource id fun _ => ⟨rfl, rfl, rfl, rfl, rfl, rfl⟩
  · exact Registry.makesNone_modifySource id _

/-- A stream over another host body has been made. -/
theorem bodySource (wf : s.streams.WellFormed) {other : BodyHandle} (hne : other ≠ handle) :
    LeavesBody handle s (s.mapStreams fun streams => (streams.bodySource other).2) where
  persists := .addSource wf _
  host := rfl
  calls := rfl
  reserves hr := by
    refine ⟨fun {id source size} hs hback => ?_, hr.sink⟩
    rw [streams_mapStreams, Registry.source?_bodySource wf] at hs
    split at hs
    · cases hs
      exact absurd (SourceBacking.body.inj hback).1 hne
    · exact hr.source hs hback

/-- A transform stream has been made. -/
theorem createIdentity (wf : s.streams.WellFormed) :
    LeavesBody handle s ((Session.createIdentity : Step H E TransformStream) s).2 := by
  have hgains : Gains ((Session.createIdentity : Step H E TransformStream) s).1 s
    ((Session.createIdentity : Step H E TransformStream) s).2 := gains_createIdentity wf
  refine ⟨hgains.persists, hgains.host, (turnover_createTransform wf .identity).calls, fun hr => ?_⟩
  refine ⟨fun {id source size} hs hback => ?_, fun {id sink} hk hback => ?_⟩
  · rw [hgains.source] at hs
    split at hs
    · cases hs
      cases hback
    · exact hr.source hs hback
  · rw [hgains.sink] at hk
    split at hk
    · cases hk
      cases hback
    · exact hr.sink hk hback

end LeavesBody

section ExpectsWrites

variable {s t : Session MemoryHost E} {w : WritableId} {handle : BodyHandle} {plan : FaultPlan}

theorem FareTogether.leavesBody (h : s.FareTogether w handle plan) (ht : LeavesBody handle s t) :
    t.FareTogether w handle plan where
  alone := ht.reserves h.alone
  faults hsets := h.faults (ht.host ▸ hsets)
  fate := by
    obtain ⟨sink, state, hk, hback, hbody, hfate⟩ := h.fate
    obtain ⟨sink', hk', hsame⟩ := ht.persists.sink hk
    refine ⟨sink', state, hk', hsame.backing.trans hback, ht.host ▸ hbody, ?_⟩
    rwa [hsame.controller, sinkCalls_eq, ht.calls, ← sinkCalls_eq]

/-- A stream over a host body that nobody else uses takes writes, and nobody holds it. -/
structure ExpectsWrites (w : WritableId) (handle : BodyHandle) (plan : FaultPlan)
    (s : Session MemoryHost E) : Prop where
  inOrder : s.InOrder
  vacant : s.streams.Vacant w
  fareTogether : s.FareTogether w handle plan

namespace ExpectsWrites

variable {fuel : Nat} {id : ReadableId} {other : WritableId}

theorem inOrderAgain (h : s.ExpectsWrites w handle plan) (ht : s.InOrderAgain t)
    (hleaves : LeavesBody handle s t) :
    t.ExpectsWrites w handle plan :=
      ⟨ht.inOrder, ht.vacant h.vacant, h.fareTogether.leavesBody hleaves⟩

theorem setReadableOwner (h : s.ExpectsWrites w handle plan) (id : ReadableId) (owner : OwnerKey) :
    (exec (onStreams (Registry.setReadableOwner id owner)) s).2.ExpectsWrites w handle plan :=
  h.inOrderAgain (.setReadableOwner h.inOrder id owner) (.setReadableOwner s id owner)

theorem releases (h : s.ExpectsWrites w handle plan) (r : ReadableId) (v : WritableId) :
    (s.mapStreams fun streams => (streams.releaseReadable r).releaseWritable v).ExpectsWrites
      w handle plan :=
  have hreleases := h.inOrderAgain (.releaseReadable h.inOrder r) (.releaseReadable s r)
  hreleases.inOrderAgain (.releaseWritable hreleases.inOrder v) (.releaseWritable _ v)

/-- A pipe is opened between other streams, or that is refused. -/
theorem vacant_openPipe (h : s.ExpectsWrites w handle plan) (hne : w ≠ other) (id : ReadableId)
    (options : PipeOptions) :
    (exec (Registry.openPipe id other options) s.streams).2.Vacant w := by
  have hpersists := Registry.Persists.openPipe h.inOrder.resting.wellFormed id other options
  refine ⟨hpersists.takesHost h.vacant.takes, ?_⟩
  rcases Registry.exec_openPipe_cases s.streams id other options with
    ⟨source, sink, hs, -, hk, -, hopen⟩ | ⟨error, streams', hopen, hgives⟩
  · rw [hopen]
    exact Registry.free_withPipe hs hk (by simp) (by simpa using hne) h.vacant.free
  · rw [hopen]
    exact hgives.sameLocks.free h.vacant.free

/-- Pipes between other streams are driven. -/
theorem pipeTo (h : s.ExpectsWrites w handle plan) (hne : w ≠ other) {options : PipeOptions}
    {opening : Except StreamError PipeId}
    (hrun : attempt (Session.pipeTo fuel id other options) s = some (opening, t)) :
    t.ExpectsWrites w handle plan := by
  have hlast : t.InOrder := h.inOrder.operate (.pipeTo id other options) fuel
    (by simp only [StreamOp.after, hrun, Option.map_some]) trivial
  have hwired := h.inOrder.wired_openPipe id other options
  have hvacant := h.vacant_openPipe hne id options
  have htogether := h.fareTogether.leavesBody
    (.openPipe h.inOrder.resting.wellFormed id other options)
  rw [Session.attempt_pipeTo] at hrun
  generalize exec (Registry.openPipe id other options) s.streams =
    opened at hrun hwired hvacant htogether
  obtain ⟨_ | name, streams⟩ := opened
  · cases hrun
    exact ⟨hlast, hvacant, htogether⟩
  · obtain ⟨⟨steps, u⟩, hpump, he⟩ := Option.map_eq_some_iff.mp hrun
    cases he
    have hacts := (flowActs _ fuel).pumpPipe hwired hpump
    exact ⟨hlast, hacts.vacant hwired hvacant, hacts.fareTogether hwired htogether⟩

end ExpectsWrites

end ExpectsWrites

end Session

/-! ### Sending a response -/

namespace Body

variable {handle : BodyHandle} {body : Body}

/-- Asking a body for its stream makes none over the body of another handle. -/
theorem leavesBody_stream [Host H] {s : Session H E} (wf : s.streams.WellFormed)
    (hother : body.handle ≠ some handle) :
    Session.LeavesBody handle s (exec (body.stream : Action H E BodyError _) s).2 := by
  obtain ⟨owner, own, readable, released, used⟩ := body
  cases released with
  | true => exact .refl s
  | false =>
    cases readable with
    | some id =>
      simp only [Body.stream, exec_bind, exec_get, Bool.false_eq_true, if_false]
      split <;> exact .refl s
    | none =>
      cases own with
      | none => exact .refl s
      | some own =>
        have hne : own ≠ handle := fun he => hother (congrArg some he)
        have hopened := (Session.LeavesBody.bodySource wf hne).trans
          (Session.LeavesBody.setReadableOwner _ (s.streams.bodySource own).1 owner)
        simp only [Body.stream, exec_bind, exec_get, Bool.false_eq_true, if_false, exec_modifyGet,
          Session.exec_adapt]
        rw [show (Session.changeStreams (fun streams => streams.bodySource own) s).2 =
            s.mapStreams fun streams => (streams.bodySource own).2 from rfl,
          show (Session.changeStreams (fun streams => streams.bodySource own) s).1 =
            (s.streams.bodySource own).1 from rfl]
        generalize exec (Session.onStreams
          (Registry.setReadableOwner (s.streams.bodySource own).1 owner))
          (s.mapStreams fun streams => (streams.bodySource own).2) = owned at hopened ⊢
        obtain ⟨_ | _, t⟩ := owned <;> exact hopened

variable {s : Session MemoryHost E} {w : WritableId} {plan : FaultPlan} {fuel : Nat}

theorem expectsWrites_stream (h : s.ExpectsWrites w handle plan)
    (hother : body.handle ≠ some handle) :
    (exec (body.stream : Action MemoryHost E BodyError _) s).2.ExpectsWrites w handle plan := by
  have hleaves := leavesBody_stream h.inOrder.resting.wellFormed hother
  cases hid : body.streamId? s.streams with
  | none =>
    obtain ⟨owner, _ | own, _ | id, _ | _, used⟩ := body
    all_goals first | exact h | cases hid
  | some id =>
    rcases opens_stream h.inOrder hid with ⟨error, hopen⟩ | ⟨t, hopen, hrestored, -⟩
    · rw [hopen]
      exact h
    · rw [hopen] at hleaves ⊢
      exact h.inOrderAgain hrestored hleaves

/-- The stream of a body is piped through a transform stream, and the stream over the host body
still waits to be written. -/
theorem expectsWrites_pipeThroughIdentity
    {r : (Except BodyError ReadableId × Body) × Session MemoryHost E}
    (h : s.ExpectsWrites w handle plan) (hother : body.handle ≠ some handle)
    (hrun : drive (body.pipeThroughIdentity fuel) s = some r) :
    r.2.ExpectsWrites w handle plan := by
  simp only [pipeThroughIdentity, drive_bind, drive_modifyGet, Session.outcome_apply,
    Option.bind_some] at hrun
  have hopened := expectsWrites_stream h hother
  generalize exec (body.stream : Action MemoryHost E BodyError _) s = opened at hrun hopened
  obtain ⟨_ | ⟨source, streamed⟩, opened⟩ := opened
  · cases hrun
    exact hopened
  · simp only [drive_bind, drive_modifyGet, Option.bind_some] at hrun
    obtain ⟨⟨stage, made⟩, hmade⟩ :
      ∃ r, (Session.createIdentity : Step MemoryHost E TransformStream) opened = r := ⟨_, rfl⟩
    have hleaves : Session.LeavesBody handle opened
        ((Session.createIdentity : Step MemoryHost E TransformStream) opened).2 :=
      .createIdentity hopened.inOrder.resting.wellFormed
    obtain ⟨hrestored, hgains⟩ := Session.InOrderAgain.createIdentity hopened.inOrder hmade
    rw [hmade] at hleaves
    have hmakes := hopened.inOrderAgain hrestored hleaves
    -- the writable half of the transform stream is new, and the stream over the host body is not
    have hne : w ≠ stage.writable := by
      rintro rfl
      obtain ⟨sink, found, hk, -⟩ := hopened.vacant.takes
      cases hgains.new_writable.symm.trans hk
    rw [hmade] at hrun
    obtain ⟨⟨outcome, piped⟩, hpipe, hrun⟩ := Option.bind_eq_some_iff.mp hrun
    rw [drive_run, Session.attempt_pipeThrough] at hpipe
    obtain ⟨⟨opening, through⟩, hopening, he⟩ := Option.map_eq_some_iff.mp hpipe
    cases he
    have hpiped := hmakes.pipeTo hne hopening
    cases opening with
    | error error =>
      cases hrun
      exact hpiped.releases stage.readable stage.writable
    | ok pipe =>
      have howned := hpiped.setReadableOwner stage.readable streamed.owner
      simp only [Except.map, drive_bind, drive_modifyGet, Session.outcome_apply,
        Option.bind_some] at hrun
      generalize exec (Session.onStreams (Registry.setReadableOwner stage.readable streamed.owner))
        through = owned at hrun howned
      obtain ⟨_ | _, owned⟩ := owned
      · cases hrun
        exact howned
      · cases hrun
        exact howned.releases source stage.writable

end Body

/-! ### What becomes of the new body -/

namespace Session

variable {s t : Session MemoryHost E} {w : WritableId} {handle : BodyHandle} {plan : FaultPlan}
variable {mark : UInt64}

/-- What is piped into the stream comes to the same end as the stream, unless no pipe is opened. -/
theorem ExpectsWrites.pipeInto {fuel : Nat} {id : ReadableId} (h : s.ExpectsWrites w handle plan)
    {opening : Except StreamError PipeId}
    (hrun : attempt (Session.pipeTo fuel id w {}) s = some (opening, t)) :
    t.FareTogether w handle plan ∧ t.InOrder ∧
      ((∃ error, opening = .error error ∧ t.streams.Vacant w) ∨
        ∃ name pipe, opening = .ok name ∧ pipe.source = id ∧ pipe.destination = w ∧
        pipe.options = {} ∧ t.Alike name pipe) := by
  have hlast : t.InOrder := h.inOrder.operate (.pipeTo id w {}) fuel
    (by simp only [StreamOp.after, hrun, Option.map_some]) trivial
  have hwf := h.inOrder.resting.wellFormed
  have hpersists := Registry.Persists.openPipe hwf id w {}
  have hwired := h.inOrder.wired_openPipe id w {}
  have htogether := h.fareTogether.leavesBody (.openPipe hwf id w {})
  rw [Session.attempt_pipeTo] at hrun
  rcases Registry.exec_openPipe_cases s.streams id w {} with
    ⟨source, sink, hs, -, hk, -, hopen⟩ | ⟨error, streams, hopen, hgives⟩
  · rw [hopen] at hrun hpersists hwired htogether
    obtain ⟨⟨steps, u⟩, hpump, he⟩ := Option.map_eq_some_iff.mp hrun
    cases he
    have hacts := (flowActs _ fuel).pumpPipe hwired hpump
    -- the pipe takes the lock and runs before it is driven for the first time
    have hpours : PipesIntoHost ⟨s.streams.pipes.nextKey⟩ (s.streams.nextPipe id w {})
        { s with streams := s.streams.withPipe id w source sink {} } :=
      ⟨⟨false, (Registry.pipe?_withPipe hwf id w source sink {} _).trans (if_pos rfl)⟩,
        hpersists.takesHost h.vacant.takes⟩
    exact ⟨hacts.fareTogether hwired htogether, hlast,
      .inr ⟨_, s.streams.nextPipe id w {}, rfl, rfl, rfl, rfl,
      hacts.alike hwired rfl (.inl hpours)⟩⟩
  · rw [hopen] at hrun hpersists htogether
    cases hrun
    exact ⟨htogether, hlast, .inl ⟨error, rfl, hpersists.takesHost h.vacant.takes,
      hgives.sameLocks.free h.vacant.free⟩⟩

/-- Nobody holds the stream over the host body, or it has failed. -/
def Abortable (w : WritableId) (s : Session H E) : Prop :=
  s.streams.Vacant w ∨ ∃ error, s.streams.writableState? w = some (.errored error)

/-- The stream has failed once it is aborted. -/
theorem FareTogether.abort (h : s.FareTogether w handle plan) (hw : s.Wired mark)
    (habort : s.Abortable w) (reason : Option String) :
    (exec (Session.abort w reason) s).2.FareTogether w handle plan ∧
      ∃ error, (exec (Session.abort w reason) s).2.streams.writableState? w = some
      (.errored error) := by
  obtain ⟨made, hcourse⟩ := (flowsTo_abort hw.composed w reason none).course
  refine ⟨hcourse.fareTogether hw.composed hw.couples h, ?_⟩
  -- whoever holds a stream that has failed, it stays as it is
  rcases habort with ⟨⟨sink, found, hk, -, hwritable⟩, hfree⟩ | ⟨error, hfailed⟩
  · have hlock : sink.writerLock = none := by simpa [Registry.holder?, hk] using hfree
    obtain ⟨sink', error, hk', hfailed, -⟩ :=
      errored_abortUnchecked hw.composed hk (by simp [hwritable]) reason
    refine ⟨error, ?_⟩
    rw [← hlock, exec_abort_of_lock hk, Registry.writableState?_eq hk', hfailed]
  · exact ⟨error, hcourse.writableState? hw.composed hfailed (by simp)⟩

/-- The body has been abandoned, or is still open because the last call on the stream over it has
failed, for which there is a fault in the plan. -/
def DesertsBody (w : WritableId) (handle : BodyHandle) (plan : FaultPlan)
    (s : Session MemoryHost E) : Prop :=
  s.host.bodyState? handle = some .abandoned ∨
    s.host.bodyState? handle = some .opened ∧ ∃ call, (s.sinkCalls w).head? = some call ∧
      call.outcome ≠ .ok () ∧ plan.Sets call.operation

theorem FareTogether.bodyState?_of_closed (h : s.FareTogether w handle plan)
    (hclosed : s.streams.writableState? w = some .closed) :
    s.host.bodyState? handle = some .closed := by
  obtain ⟨sink, state, hk, -, hbody, hfate⟩ := h.fate
  have hstate : sink.controller.state = .closed :=
    Option.some.inj ((Registry.writableState?_eq hk).symm.trans hclosed)
  rw [hstate] at hfate
  cases hfate
  exact hbody

theorem FareTogether.desertsBody (h : s.FareTogether w handle plan) {error : StreamError}
    (hfailed : s.streams.writableState? w = some (.errored error)) :
    s.DesertsBody w handle plan := by
  obtain ⟨sink, state, hk, -, hbody, hfate⟩ := h.fate
  have hstate : sink.controller.state = .errored error :=
    Option.some.inj ((Registry.writableState?_eq hk).symm.trans hfailed)
  rw [hstate] at hfate
  cases hfate with
  | abandoned => exact .inl hbody
  | kept call hcall houtcome hset => exact .inr ⟨hbody, call, hcall, houtcome, hset⟩

theorem DesertsBody.congr (h : s.DesertsBody w handle plan) (hhost : t.host = s.host)
    (hjournal : t.journal = s.journal) : t.DesertsBody w handle plan := by
  rwa [DesertsBody, sinkCalls, hhost, hjournal]

/-- Without a fault for what is asked of the body, it has been abandoned. -/
theorem DesertsBody.abandoned (h : s.DesertsBody w handle plan) (hwrite : ¬ plan.Sets .bodyWrite)
    (hclose : ¬ plan.Sets .bodyClose) (habandon : ¬ plan.Sets .bodyAbandon) :
    s.host.bodyState? handle = some .abandoned := by
  refine h.resolve_right ?_
  rintro ⟨-, call, -, -, hset⟩
  cases call with
  | write => exact hwrite hset
  | close => exact hclose hset
  | abort => exact habandon hset

end Session

namespace Worker

variable {s : Session MemoryHost E} {w : WritableId} {handle : BodyHandle} {plan : FaultPlan}
variable {fuel : Nat} {response : Body}

/-- Once a response has been piped on its way the stream over the host body is closed. If that goes
wrong, it waits to be aborted, or has failed. -/
theorem pipeResponse_fareTogether (h : s.ExpectsWrites w handle plan)
    (hother : response.handle ≠ some handle)
    {r : (Except WorkerError Unit × Body) × Session MemoryHost E}
    (hrun : drive (pipeResponse fuel response w) s = some r) :
    r.2.FareTogether w handle plan ∧ (∃ mark, r.2.Wired mark) ∧
      (r.1.1 = .ok () ∧ r.2.streams.writableState? w = some .closed ∨
        ∃ failure, r.1.1 = .error failure ∧ r.2.Abortable w) := by
  simp only [pipeResponse, drive_bind] at hrun
  obtain ⟨⟨⟨piped, streamed⟩, through⟩, hthrough, hrun⟩ := Option.bind_eq_some_iff.mp hrun
  have hready := Body.expectsWrites_pipeThroughIdentity h hother hthrough
  cases piped with
  | error error =>
    cases hrun
    exact ⟨hready.fareTogether, ⟨_, hready.inOrder.wired⟩, .inr ⟨_, rfl, .inl hready.vacant⟩⟩
  | ok readable =>
    simp only [drive_bind, drive_run] at hrun
    obtain ⟨⟨opening, onward⟩, hpipe, honward⟩ := Option.bind_eq_some_iff.mp hrun
    obtain ⟨htogether, horder, ⟨error, rfl, hvacant⟩ |
        ⟨name, pipe, rfl, rfl, rfl, hplain, halike⟩⟩ :=
      hready.pipeInto hpipe
    · cases honward
      exact ⟨htogether, ⟨_, horder.wired⟩, .inr ⟨_, rfl, .inl hvacant⟩⟩
    · simp only [drive_bind] at honward
      obtain ⟨⟨steps, pumped⟩, hpump, hfinish⟩ := Option.bind_eq_some_iff.mp honward
      cases hfinish
      have hacts := Session.acts_pump horder.wired hpump
      have hwired := hacts.wired horder.wired
      obtain ⟨hflows, hends⟩ := finish_alike hwired (hacts.alike horder.wired hplain halike) rfl
      obtain ⟨made, hcourse⟩ := hflows.course
      refine ⟨hcourse.fareTogether hwired.composed hwired.couples
        (hacts.fareTogether horder.wired htogether),
          ⟨_, hwired.course hcourse (movesTo_finish name pipe.source pumped)⟩, ?_⟩
      refine hends.imp_right ?_
      rintro ⟨failure, error, hresult, hfailed⟩
      exact ⟨failure, hresult, .inr ⟨error, hfailed⟩⟩

/-- A new body has a stream over it that waits to be written. -/
theorem expectsWrites_bodySink (h : s.InOrder) {host : MemoryHost}
    (hnew : exec (Host.bodyNew : HostCall MemoryHost BodyHandle) s.host = (.ok handle, host))
    (hfree : s.streams.ReservesBody handle (fun _ => False) (fun _ => False)) :
    (({ s with host } : Session MemoryHost E).mapStreams fun streams =>
      (streams.bodySink handle).2).ExpectsWrites
      ⟨s.streams.sinks.nextKey⟩ handle s.host.faults := by
  have hcalled : ({ s with host } : Session MemoryHost E).InOrder :=
    h.elsewhere host s.env s.nextOwner
  have hwf := h.resting.wellFormed
  have hkey : (s.streams.bodySink handle).1 = ⟨s.streams.sinks.nextKey⟩ :=
    congrArg EntryId.mk (SlotMap.insert_fst ..)
  obtain ⟨hopen, hfaults⟩ := MemoryHost.bodyNew_opened hnew
  have hvacant := vacant_bodySink hwf handle
  have halone := hfree.addSink hwf
    { backing := .body handle, controller := { highWaterMark := s.streams.config.bodyChunkSize } }
  have hmade := (Registry.sink?_addSink hwf
    { backing := .body handle
      controller := { highWaterMark := s.streams.config.bodyChunkSize } }
    (s.streams.bodySink handle).1).trans (if_pos rfl)
  rw [← hkey]
  refine ⟨(Session.InOrderAgain.bodySink hcalled handle).inOrder, hvacant, halone, hfaults,
    ⟨_, .opened, hmade, rfl, hopen, .going⟩⟩

/-- The answer is the body that was made for it, which is closed, or there is no answer, and the
body has been deserted. -/
def AccountsForBody (w : WritableId) (handle : BodyHandle) (plan : FaultPlan)
    (answer : Except WorkerError BodyHandle) (s : Session MemoryHost E) : Prop :=
  answer = .ok handle ∧ s.host.bodyState? handle = some .closed ∨
    ∃ failure, answer = .error failure ∧ s.DesertsBody w handle plan

theorem AccountsForBody.congr {t : Session MemoryHost E} {answer : Except WorkerError BodyHandle}
    (h : AccountsForBody w handle plan answer s) (hhost : t.host = s.host)
    (hjournal : t.journal = s.journal) :
    AccountsForBody w handle plan answer t :=
  h.imp (fun ⟨hok, hclosed⟩ => ⟨hok, hhost ▸ hclosed⟩)
    fun ⟨failure, herror, hdeserts⟩ => ⟨failure, herror, hdeserts.congr hhost hjournal⟩

variable (h : s.InOrder) (hunused : response.used = false) {host : MemoryHost}
variable (hnew : exec (Host.bodyNew : HostCall MemoryHost BodyHandle) s.host = (.ok handle, host))
variable (hfree : s.streams.ReservesBody handle (fun _ => False) (fun _ => False))
variable (hother : response.handle ≠ some handle)
include h hunused hnew hfree hother

/-- A response that is sent is in a closed body. The body of a response that is not is deserted. -/
theorem send_accounts {r : (Except WorkerError BodyHandle × Body) × Session MemoryHost E}
    (hrun : drive (send fuel response) s = some r) :
    AccountsForBody ⟨s.streams.sinks.nextKey⟩ handle s.host.faults r.1.1 r.2 := by
  have hexpects := expectsWrites_bodySink h hnew hfree
  have hkey : (s.streams.bodySink handle).1 = ⟨s.streams.sinks.nextKey⟩ :=
    congrArg EntryId.mk (SlotMap.insert_fst ..)
  simp only [send, hunused, Bool.false_eq_true, if_false, drive_bind, drive_modifyGet,
    Session.outcome_apply, Option.bind_some, Session.exec_onHost, hnew] at hrun
  obtain ⟨⟨⟨outcome, streamed⟩, piped⟩, hpiped, hrun⟩ := Option.bind_eq_some_iff.mp hrun
  rw [← hkey] at hexpects ⊢
  obtain ⟨htogether, ⟨mark, hwired⟩, ⟨hok, hclosed⟩ | ⟨failure, herror, habort⟩⟩ :=
    pipeResponse_fareTogether hexpects hother hpiped
  · cases hok
    cases hrun
    exact .inl ⟨rfl, htogether.bodyState?_of_closed hclosed⟩
  · cases herror
    cases hrun
    obtain ⟨haborted, error, hfailed⟩ := htogether.abort hwired habort (some "response failed")
    exact .inr ⟨failure, rfl, (haborted.desertsBody hfailed).congr rfl rfl⟩

theorem respond_accounts {answer : Except WorkerError BodyHandle} {sent : Session MemoryHost E}
    (hrun : respond fuel (.ok response) s = some (answer, sent)) :
    AccountsForBody ⟨s.streams.sinks.nextKey⟩ handle s.host.faults answer sent := by
  have hdrive : drive (respond fuel (.ok response)) s = some (answer, sent) := hrun
  simp only [respond, drive_bind, drive_modifyGet, Option.bind_some, drive_pure] at hdrive
  obtain ⟨⟨⟨outcome, streamed⟩, piped⟩, hsend, hdrive⟩ := Option.bind_eq_some_iff.mp hdrive
  cases hdrive
  have haccounts := send_accounts h hunused hnew hfree hother hsend
  refine haccounts.congr ?_ ?_
  all_goals
    obtain ⟨owner, own, _ | found, _ | _, used⟩ := streamed
    all_goals rfl

end Worker

end EdgeStreams
