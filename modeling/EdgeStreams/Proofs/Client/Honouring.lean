import EdgeStreams.Proofs.Client.Public
import EdgeStreams.Proofs.Registry.Honouring

/-!
# Operations honour the locks

Whatever an operation does, the locks that were there before are given back only by pipes that come
to an end, unless the registry is cleared. Work under a new lock gives that lock back at the end.

## Main definitions

- `Session.RespectsLocks`: locks are kept in order and honoured

## Main statements

- `StreamOp.respectsLocks`: an operation on streams respects the locks
- `Session.RespectsLocks.underLock`: so does work under a new lock
-/

namespace EdgeStreams

variable {H E : Type}

namespace Session

/-- The locks stay with those who hold them, and are honoured. -/
structure RespectsLocks (s t : Session H E) : Prop where
  kept : ∀ {held spent : Set Nat}, s.streams.Orderly held spent → s.streams.Single →
    t.streams.Orderly held spent ∧ s.streams.HonoursLocks t.streams

namespace RespectsLocks

variable {s t u : Session H E}

theorem refl (s : Session H E) : s.RespectsLocks s := ⟨fun ho _ => ⟨ho, .refl⟩⟩

theorem trans (h : s.RespectsLocks t) (h' : t.RespectsLocks u) : s.RespectsLocks u := by
  refine ⟨fun ho hs => ?_⟩
  obtain ⟨hbetween, hfirst⟩ := h.kept ho hs
  obtain ⟨hlater, hsecond⟩ := h'.kept hbetween (hfirst.relocksTo.single hs)
  exact ⟨hlater, hfirst.trans hsecond⟩

/-- A change that leaves the locks alone. -/
theorem of_sameLocks (h : s.streams.WellFormed → s.streams.SameLocks t.streams) :
    s.RespectsLocks t :=
  ⟨fun ho _ => ⟨ho.of_sameLocks (h ho.wellFormed), .of_sameLocks (h ho.wellFormed)⟩⟩

/-- Work under a new lock, which is given back at the end. -/
theorem underLock {id : ReadableId} {token : ReaderToken} {streams : Registry E}
    (hget : exec (Registry.getReader id) s.streams = (.ok token, streams))
    (h : RespectsLocks { s with streams } t) :
    s.RespectsLocks (t.mapStreams (Registry.quietly (Registry.releaseReader id token))) := by
  refine ⟨fun {held spent} ho hs => ?_⟩
  have hlocks := Registry.locks_getReader hget
  obtain ⟨rfl, source, hfound, hlock⟩ := Registry.of_exec_getReader hget
  have hpipes : streams.pipes = s.streams.pipes := by
    rw [Registry.exec_getReader s.streams hfound hlock] at hget
    rw [← (Prod.mk.inj hget).2]
    rfl
  have htaken := ho.getReader hfound hlock
  rw [hget] at htaken
  obtain ⟨hworked, hhonours⟩ := h.kept htaken (hs.locks hlocks)
  let token : ReaderToken := ⟨s.streams.nextToken⟩
  have hmem : token.number ∈ insert s.streams.nextToken held := .inl rfl
  have hreleased := hworked.releaseReader id hmem
  refine ⟨hreleased.forget (Registry.idle_of_filter (Registry.holder?_releaseReader id _)
    fun name hheld => ?_), hhonours.underLock hlocks hpipes (.mono (.releaseReader id _) And.right)
      (Registry.pipes_releaseReader _ _ _)⟩
  -- the work has not taken the token to another stream
  have hold : s.streams.nextToken < streams.nextToken := by
    rw [hlocks.nextToken]
    exact Nat.lt_succ_self _
  have hlocked := (hlocks.holder (.readable id)).trans (if_pos rfl)
  exact (hs.locks hlocks).single (hhonours.relocksTo.back hold hheld) hlocked

end RespectsLocks

variable [Host H] {s t : Session H E}

/-- By induction on the moves. -/
theorem MovesTo.respectsLocks (h : MovesTo s t) : s.RespectsLocks t := by
  induction h with
  | refl => exact .refl s
  | touch _ ht ih => exact ih.trans (.of_sameLocks fun _ => ht.sameLocks)
  | note event _ ih => exact ih.trans (.of_sameLocks fun _ => .refl)
  | drive pumping _ hp ih => exact ih.trans (.of_sameLocks fun _ => .setPipe hp pumping)
  | finish id _ hstate ih =>
    exact ih.trans ⟨fun ho _ => ⟨ho.finishPipe id hstate, .finishPipe ho id hstate⟩⟩

theorem respectsLocks_pipeTo {fuel : Nat} {source : ReadableId} {destination : WritableId}
    {options : PipeOptions} {r : Except StreamError PipeId × Session H E}
    (h : attempt (pipeTo fuel source destination options) s = some r) : s.RespectsLocks r.2 :=
  RespectsLocks.trans ⟨fun ho _ => ⟨ho.openPipe source destination options,
    .openPipe ho.wellFormed source destination options⟩⟩ (movesTo_pipeTo h).respectsLocks

omit [Host H] in
/-- The start of a new transform stream is settled. -/
theorem respectsLocks_settleTransform (s : Session H E) (stream : TransformStream)
    (result : Except StreamError Unit) :
    s.RespectsLocks (s.mapStreams (settleTransform stream result)) := by
  have hreadable : ∀ settle : StartState → StartState, s.RespectsLocks (s.mapStreams fun streams =>
      streams.modifySource stream.readable fun source =>
        { source with start := settle source.start }) := fun settle =>
    .of_sameLocks fun _ => .modifySource _ fun _ => ⟨rfl, rfl, id⟩
  have hwritable : ∀ (t : Session H E) (f : Sink E → Sink E),
      (∀ sink, (f sink).writerLock = sink.writerLock) →
        t.RespectsLocks (t.mapStreams fun streams => streams.modifySink stream.writable f) :=
    fun t f hf => .of_sameLocks fun _ => .modifySink _ hf
  have hstart := fun settle : StartState → StartState =>
    (hreadable settle).trans (hwritable _ (fun sink => { sink with start := settle sink.start })
      fun _ => rfl)
  cases result with
  | ok => exact hstart StartState.resolve
  | error error =>
    exact (hstart fun start => start.reject error).trans (hwritable _
      (fun sink => { sink with controller := sink.controller.error error }) fun _ => rfl)

theorem respectsLocks_createTransform (transformer : Transformer E) (s : Session H E) :
    s.RespectsLocks ((createTransform transformer : Step H E TransformStream) s).2 := by
  obtain ⟨f, result, started, hstarted, hrun⟩ := createTransform_run transformer s
  rw [hrun]
  have hentered : s.RespectsLocks { s with streams := (enterTransform transformer s.streams).2 } :=
    .of_sameLocks fun wf => .enterTransform wf transformer
  have hworked := hentered.trans (.of_sameLocks fun _ => hstarted.sameLocks)
  refine .trans ?_ (respectsLocks_settleTransform _ _ result)
  exact hworked.trans (.of_sameLocks fun _ => .refl)

end Session

/-- An operation respects the locks, unless it clears the registry. -/
theorem StreamOp.respectsLocks [Host H] {s t : Session H E} {op : StreamOp E} {fuel : Nat}
    (h : op.after fuel s = some t) (hop : op ≠ .clear) : s.RespectsLocks t := by
  cases effect_of_after h with
  | bodySource handle => exact .of_sameLocks fun wf => .addSource wf ⟨rfl, rfl⟩
  | bodySink handle => exact .of_sameLocks fun wf => .addSink wf rfl
  | scriptSource guest highWaterMark =>
    refine .of_sameLocks fun wf => ?_
    rw [Session.streams_scriptSource]
    exact .addSource wf ⟨rfl, rfl⟩
  | scriptSink guest =>
    refine .of_sameLocks fun wf => ?_
    rw [Session.streams_scriptSink]
    exact .addSink wf rfl
  | createTransform transformer => exact Session.respectsLocks_createTransform transformer s
  | setReadableOwner id owner =>
    exact .of_sameLocks fun _ => .modifySource id fun _ => ⟨rfl, rfl, fun h => h⟩
  | setWritableOwner id owner => exact .of_sameLocks fun _ => .modifySink id fun _ => rfl
  | releaseReadable id => exact .of_sameLocks fun _ => .releaseReadable id
  | releaseWritable id => exact .of_sameLocks fun _ => .releaseWritable id
  | releaseTransform stream =>
    have hreadable : s.RespectsLocks
        (s.mapStreams fun streams => streams.releaseReadable stream.readable) :=
      .of_sameLocks fun _ => .releaseReadable stream.readable
    exact hreadable.trans (.of_sameLocks fun _ => .releaseWritable stream.writable)
  | movesTo hmoves => exact hmoves.respectsLocks
  | pipeTo hpipe => exact Session.respectsLocks_pipeTo hpipe
  | sweep => exact .of_sameLocks fun _ => .sweep
  -- all locks go when the registry is cleared
  | clear => exact absurd rfl hop

instance [Host H] : Operative (Session.RespectsLocks (H := H) (E := E)) where
  refl := .refl
  trans := .trans
  operate op _ _ _ h hr := StreamOp.respectsLocks h fun he => by rwa [he] at hr
  sweep _ := .of_sameLocks fun _ => .sweep
  elsewhere _ _ _ _ := .of_sameLocks fun _ => .refl
  underLock := .underLock

end EdgeStreams
