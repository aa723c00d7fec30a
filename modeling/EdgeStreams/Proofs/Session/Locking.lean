import EdgeStreams.Proofs.Registry.Locking
import EdgeStreams.Proofs.Session.Moves

/-!
# Operations on streams keep the locks in order

## Main statements

- `Session.MovesTo.orderly`: whatever a run does, every lock stays with a client or a running pipe
- `Session.orderly_createTransform`, `Session.orderly_scriptSource`, `Session.orderly_scriptSink`,
  `Session.orderly_pipeTo`: operations that make new entries
-/

namespace EdgeStreams

variable {H E : Type}

theorem Source.Keeps.sameHold {source source' : Source E} (h : source.Keeps source') :
    source.SameHold source' := ⟨h.readerLock, h.pipedTo, h.disturbed⟩

namespace Session

variable [Host H] {s t : Session H E} {held spent : Set Nat} {f : Footprint}

/-- Work on streams leaves the locks alone. -/
theorem ChangesWithin.sameLocks (h : ChangesWithin f s t) : s.streams.SameLocks t.streams := by
  refine .of_pipes (fun wf => ⟨wf.sources.of_outline h.outline_sources,
    wf.sinks.of_outline h.outline_sinks, wf.bridges.of_outline h.outline_bridges,
    h.pipes_eq ▸ wf.pipes⟩) h.nextToken_eq.ge h.pipes_eq (fun id => ?_) fun id => ?_
  · exact .of_rel (SlotMap.rel_imp (fun _ _ hk => hk.sameHold) (h.source? id))
  · exact .of_rel (SlotMap.rel_imp (fun _ _ hk => hk.writerLock) (h.sink? id))

/-- By induction on the moves. -/
theorem MovesTo.orderly (h : MovesTo s t) (ho : s.streams.Orderly held spent) :
    t.streams.Orderly held spent := by
  induction h with
  | refl => exact ho
  | touch _ ht ih => exact ih.of_sameLocks ht.sameLocks
  | note _ _ ih => exact ih
  | drive pumping _ hp ih => exact ih.of_sameLocks (.setPipe hp pumping)
  | finish id _ hs ih => exact ih.finishPipe id hs

/-! ### Operations that make new entries -/

section Making

omit [Host H]

/-- The controller of a guest's source once the guest has been started. -/
def startedController (guest : UnderlyingSource E) (highWaterMark : UInt64) (env : E) :
    ReadableController :=
  match (guest.start env).run SourceDesk.perform { controller := { highWaterMark } } with
  | ((.error error, _), desk) => desk.controller.error error
  | ((.ok (), _), desk) => desk.controller

theorem streams_scriptSource (guest : UnderlyingSource E) (highWaterMark : UInt64) :
    ((scriptSource guest highWaterMark : Step H E ReadableId) s).2.streams =
      (s.streams.addSource
        { backing := .script guest
          controller := startedController guest highWaterMark s.env }).2 := by
  change (StateT.run (scriptSource guest highWaterMark : Step H E ReadableId) s).2.streams = _
  simp only [scriptSource, StateT.run_bind, StateT.run_get, pure_bind, startedController]
  obtain ⟨⟨result, env⟩, desk⟩ :=
    (guest.start s.env).run SourceDesk.perform { controller := { highWaterMark } }
  cases result <;> rfl

/-- The controller of a guest's sink once the guest has been started. -/
def startedWriter (guest : UnderlyingSink E) (highWaterMark : UInt64) (env : E) :
    WritableController :=
  match (guest.start env).1 with
  | .error error => WritableController.error { highWaterMark } error
  | .ok () => { highWaterMark }

theorem streams_scriptSink (guest : UnderlyingSink E) :
    ((scriptSink guest : Step H E WritableId) s).2.streams =
      (s.streams.addSink
        { backing := .script guest
          controller := startedWriter guest s.streams.config.bodyChunkSize s.env }).2 := rfl

/-- A new transform stream once its transformer has been started. -/
def settleTransform (stream : TransformStream) (result : Except StreamError Unit) :
    Registry E → Registry E :=
  match result with
  | .ok () => settleStart stream StartState.resolve
  | .error error => fun streams =>
    (settleStart stream (fun start => start.reject error) streams).modifySink stream.writable
      fun sink => { sink with controller := sink.controller.error error }

theorem orderly_scriptSource (ho : s.streams.Orderly held spent) (guest : UnderlyingSource E)
    (highWaterMark : UInt64) :
    ((scriptSource guest highWaterMark : Step H E ReadableId) s).2.streams.Orderly held spent := by
  rw [streams_scriptSource]
  exact ho.of_sameLocks (.addSource ho.wellFormed ⟨rfl, rfl⟩)

theorem orderly_scriptSink (ho : s.streams.Orderly held spent) (guest : UnderlyingSink E) :
    ((scriptSink guest : Step H E WritableId) s).2.streams.Orderly held spent := by
  rw [streams_scriptSink]
  exact ho.of_sameLocks (.addSink ho.wellFormed rfl)

theorem orderly_settleTransform {streams : Registry E} (ho : streams.Orderly held spent)
    (stream : TransformStream) (result : Except StreamError Unit) :
    (settleTransform stream result streams).Orderly held spent := by
  have hstart : ∀ settle, (settleStart stream settle streams).Orderly held spent := by
    intro settle
    have hreadable := ho.of_sameLocks (.modifySource stream.readable
      (f := fun source => { source with start := settle source.start }) fun _ => ⟨rfl, rfl, id⟩)
    exact hreadable.of_sameLocks (.modifySink stream.writable fun _ => rfl)
  cases result with
  | ok => exact hstart _
  | error error => exact (hstart _).of_sameLocks (.modifySink _ fun _ => rfl)

end Making

/-- A new transform stream is entered, its transformer is started, and the start is settled. -/
theorem createTransform_run (transformer : Transformer E) (s : Session H E) :
    ∃ f result started,
      ChangesWithin f { s with streams := (enterTransform transformer s.streams).2 } started ∧
      (createTransform transformer : Step H E TransformStream) s =
        ((enterTransform transformer s.streams).1,
          mapStreams (settleTransform (enterTransform transformer s.streams).1 result)
            (note (.sinkStarted (enterTransform transformer s.streams).1.writable result)
              started)) := by
  have hstarted : ChangesWithin _ _
      (exec (withTransformer (enterTransform transformer s.streams).1.bridge TransformWork.start)
        { s with streams := (enterTransform transformer s.streams).2 }).2 :=
    changesWithin_withTransformer .refl TransformWork.start _ .refl
  change ∃ f result started, _ ∧ StateT.run (createTransform transformer : Step H E _) s = _
  have hrun : ∀ (action : Action H E StreamError Unit) (s : Session H E),
      StateT.run (outcome action) s = pure (exec action s) := fun _ _ => rfl
  simp only [createTransform, changeStreams, StateT.run_bind, StateT.run_modifyGet, pure_bind,
    hrun]
  generalize exec (withTransformer _ TransformWork.start)
    { s with streams := (enterTransform transformer s.streams).2 } = started at hstarted
  obtain ⟨result, t⟩ := started
  refine ⟨_, result, t, hstarted, ?_⟩
  cases result <;> rfl

theorem orderly_createTransform (ho : s.streams.Orderly held spent) (transformer : Transformer E) :
    ((createTransform transformer : Step H E TransformStream) s).2.streams.Orderly held spent := by
  obtain ⟨f, result, started, hstarted, hrun⟩ := createTransform_run transformer s
  rw [hrun]
  have hentered := ho.of_sameLocks (.enterTransform ho.wellFormed transformer)
  exact orderly_settleTransform (hentered.of_sameLocks hstarted.sameLocks) _ _

theorem orderly_pipeTo {fuel : Nat} {source : ReadableId} {destination : WritableId}
    {options : PipeOptions} {r : Except StreamError PipeId × Session H E}
    (ho : s.streams.Orderly held spent)
    (h : attempt (pipeTo fuel source destination options) s = some r) :
    r.2.streams.Orderly held spent :=
  (movesTo_pipeTo h).orderly (ho.openPipe source destination options)

end Session

end EdgeStreams
