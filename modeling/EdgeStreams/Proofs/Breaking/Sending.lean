import EdgeStreams.Proofs.Breaking.Between
import EdgeStreams.Proofs.Response.Leftovers

/-!
# A response whose stream breaks

A response's stream is piped into a new transform stream, and that into a new stream over a host
body. A failure of the stream comes through the first pipe as an abort, so an abort is all that the
second pipe, which the worker asks, can fail with.

## Main definitions

- `Registry.Vacant`: a stream over a host body takes writes, and nobody holds it
- `Session.InOrderAgain`: a session is in order again, with everything as it was and no lock taken
- `Body.streamId?`: the stream that a body is read through
- `Passthrough.Ready`: what is piped in is carried, and there is a stream over a host body to pipe
  into

## Main statements

- `Worker.respond_breaks`: the failure of a response that is being sent is reported as an abort,
  unless a write into the new host body has failed

## Design notes

The stream is looked at before and after: it has not failed before, and it has failed in the end.
Nothing is asked of how it came to fail, nor of what the failure is.
-/

namespace EdgeStreams

variable {H E : Type}

/-! ### Streams that nobody holds -/

namespace Registry

variable {streams streams' : Registry E} {id : ReadableId} {w : WritableId}

/-- The stream over a host body takes writes, and nobody holds it. -/
structure Vacant (streams : Registry E) (w : WritableId) : Prop where
  takes : streams.TakesHost w
  free : streams.holder? (.writable w) = none

theorem holder?_finishPipe_of_free {name : StreamName} (h : streams.holder? name = none)
    (pipe : PipeId) (state : PipeState) : (streams.finishPipe pipe state).holder? name = none := by
  by_cases hrun : ∃ found, streams.pipe? pipe = some found ∧ found.isRunning
  · obtain ⟨found, hp, hr⟩ := hrun
    refine Option.eq_none_iff_forall_ne_some.mpr fun number hheld => ?_
    cases h.symm.trans ((unlocksTo_finishPipe hp hr state).back hheld)
  · rwa [finishPipe_of_not_running state fun found hp hr => hrun ⟨found, hp, hr⟩]

theorem SameLocks.free (h : streams.SameLocks streams') {name : StreamName}
    (hfree : streams.holder? name = none) : streams'.holder? name = none := by
  refine Option.eq_none_iff_forall_ne_some.mpr fun number hheld => ?_
  cases hfree.symm.trans ((h.unlocksTo fun _ _ => True).back hheld)

/-- A change of what is not the controller. -/
theorem hasFailed_modifySource (streams : Registry E) (id other : ReadableId)
    {f : Source E → Source E} (hf : ∀ source : Source E, (f source).controller =
      source.controller) :
    (streams.modifySource id f).HasFailed other ↔ streams.HasFailed other := by
  rw [HasFailed, HasFailed, readableState?, readableState?, source?_modifySource]
  split
  · next he =>
    subst he
    simp only [Option.map_map, Function.comp_def, hf]
  · rfl

/-- The end of a pipe fails no stream. -/
theorem hasFailed_finishPipe (streams : Registry E) (pipe : PipeId) (state : PipeState)
    (id : ReadableId) : (streams.finishPipe pipe state).HasFailed id ↔ streams.HasFailed id := by
  by_cases hrun : ∃ found, streams.pipe? pipe = some found ∧ found.isRunning
  · obtain ⟨found, hp, hr⟩ := hrun
    have hsame : ∀ source : Source E,
        (unlockReader found.reader source).controller = source.controller := fun source => by
      unfold unlockReader
      split <;> rfl
    rw [HasFailed, HasFailed, readableState?, readableState?, source?_finishPipe state hp hr]
    split
    · next he =>
      subst he
      simp only [Option.map_map, Function.comp_def, hsame]
    · rfl
  · rw [finishPipe_of_not_running state fun found hp hr => hrun ⟨found, hp, hr⟩]

/-- Work on the stream over a host body reaches no readable stream. -/
theorem not_mem_readables_sinkReach
    (h : ∀ sink, streams.sink? w = some sink → ∃ handle, sink.backing = .body handle)
    (id : ReadableId) :
    id ∉ (streams.sinkReach w).readables := by
  rintro (hm | hm)
  · exact hm
  · cases hk : streams.sink? w with
    | none => simp [hk] at hm
    | some sink =>
      obtain ⟨handle, hback⟩ := h sink hk
      simp [hk, hback, drainReach] at hm

theorem TakesHost.backing (h : streams.TakesHost w) {sink : Sink E}
    (hk : streams.sink? w = some sink) :
    ∃ handle, sink.backing = .body handle := by
  obtain ⟨found, handle, hfound, hback, -⟩ := h
  cases hk.symm.trans hfound
  exact ⟨handle, hback⟩

/-- Work on a readable stream reaches no other one. -/
theorem Composed.eq_of_mem_readables (hc : streams.Composed) {other : ReadableId}
    (hm : other ∈ (streams.sourceReach id).readables) : other = id := by
  rcases hm with hm | hm
  · exact hm
  · cases hs : streams.source? id with
    | none => simp [hs] at hm
    | some source =>
      rw [hs] at hm
      cases hback : source.backing with
      | body handle size | script guest => simp [hback, backingReach] at hm
      | transform name =>
        obtain ⟨bridge, hb, hid⟩ := hc.readable hs hback
        simp only [hback, backingReach, bridgeReach, hb] at hm
        exact hm.trans hid

end Registry

namespace Session

variable [Host H] {s t : Session H E} {mark : UInt64} {w : WritableId}

/-- Nobody takes a lock while data flows. By induction on the moves. -/
theorem MovesTo.free (h : MovesTo s t) {name : StreamName} (hfree : s.streams.holder? name = none) :
    t.streams.holder? name = none := by
  induction h with
  | refl => exact hfree
  | touch _ ht ih => exact ht.sameLocks.free ih
  | note _ _ ih => exact ih
  | drive pumping _ hp ih => exact (Registry.SameLocks.setPipe hp pumping).free ih
  | finish id _ _ ih => exact Registry.holder?_finishPipe_of_free ih id _

theorem Act.vacant (ha : Act s t) (hw : s.Wired mark) (h : s.streams.Vacant w) :
    t.streams.Vacant w := by
  refine ⟨?_, (ha.movesTo hw.composed).free h.free⟩
  cases ha with
  | quiet hquiet =>
    obtain ⟨sink, handle, hk, hback, hwritable⟩ := h.takes
    exact ⟨sink, handle, (hquiet.sink _).trans hk, hback, hwritable⟩
  | @pipe name pipe _ hr hact =>
    refine hact.takesHost hw h.takes fun hm => ?_
    -- the pipe holds its destination
    obtain ⟨held, spent, horderly⟩ := hw.orderly
    obtain ⟨pumping, hp⟩ := hr
    obtain ⟨sink, hk, hlock⟩ := (horderly.holds _ _ hp rfl).sink
    have hheld : s.streams.holder? (.writable pipe.destination) = some pipe.writer.number :=
      Registry.holder?_writable.mpr ⟨sink, hk, hlock⟩
    rw [← hw.composed.mem_sinkReach hm, h.free] at hheld
    cases hheld

/-- What nobody holds is left alone. -/
theorem Acts.vacant {but : Set PipeId} (ha : Acts but s t) (hw : s.Wired mark)
    (h : s.streams.Vacant w) : t.streams.Vacant w :=
  ha.keeps hw (fun hwired hact hvacant => hact.vacant hwired hvacant) h

end Session

/-! ### Between the steps -/

namespace Session

variable {s t u : Session H E}

/-- The session is in order again. Everything is there as it was, and no lock has been taken. -/
structure InOrderAgain (s t : Session H E) : Prop where
  inOrder : t.InOrder
  persists : s.streams.Persists t.streams
  free : ∀ {name}, s.streams.holder? name = none → t.streams.holder? name = none

namespace InOrderAgain

theorem refl (h : s.InOrder) : s.InOrderAgain s := ⟨h, .refl _, id⟩

theorem trans (h : s.InOrderAgain t) (h' : t.InOrderAgain u) : s.InOrderAgain u :=
  ⟨h'.inOrder, h.persists.trans h'.persists, fun hfree => h'.free (h.free hfree)⟩

theorem vacant (h : s.InOrderAgain t) {w : WritableId} (hv : s.streams.Vacant w) :
    t.streams.Vacant w :=
  ⟨h.persists.takesHost hv.takes, h.free hv.free⟩

variable [Host H] (h : s.InOrder)
include h

theorem bodySource (handle : BodyHandle) :
    s.InOrderAgain (s.mapStreams fun streams => (streams.bodySource handle).2) where
  inOrder := h.operate (.bodySource handle) 0 rfl trivial
  persists := .addSource h.resting.wellFormed _
  free := (Registry.SameLocks.addSource h.resting.wellFormed ⟨rfl, rfl⟩).free

theorem bodySink (handle : BodyHandle) :
    s.InOrderAgain (s.mapStreams fun streams => (streams.bodySink handle).2) where
  inOrder := h.operate (.bodySink handle) 0 rfl trivial
  persists := .addSink h.resting.wellFormed _
  free := (Registry.SameLocks.addSink h.resting.wellFormed rfl).free

theorem releaseReadable (id : ReadableId) :
    s.InOrderAgain (s.mapStreams fun streams => streams.releaseReadable id) where
  inOrder := h.operate (.releaseReadable id) 0 rfl trivial
  persists := .releaseReadable _ id
  free := by
    have hsame : s.streams.SameLocks (s.streams.releaseReadable id) :=
      .modifySource id fun _ => ⟨rfl, rfl, fun h => h⟩
    exact fun {_} hfree => hsame.free hfree

theorem releaseWritable (id : WritableId) :
    s.InOrderAgain (s.mapStreams fun streams => streams.releaseWritable id) where
  inOrder := h.operate (.releaseWritable id) 0 rfl trivial
  persists := .releaseWritable _ id
  free := by
    have hsame : s.streams.SameLocks (s.streams.releaseWritable id) := .modifySink id fun _ => rfl
    exact fun {_} hfree => hsame.free hfree

/-- A stream gets its new owner, if it is there. -/
theorem setReadableOwner (id : ReadableId) (owner : OwnerKey) :
    s.InOrderAgain (exec (onStreams (Registry.setReadableOwner id owner)) s).2 where
  inOrder := h.operate (.setReadableOwner id owner) 0 rfl trivial
  persists := .setReadableOwner _ id owner
  free := by
    have hsame : s.streams.SameLocks (exec (Registry.setReadableOwner id owner) s.streams).2 := by
      rw [Registry.exec_setReadableOwner_snd]
      exact .modifySource id fun _ => ⟨rfl, rfl, fun h => h⟩
    exact fun {_} hfree => hsame.free hfree

/-- A stream that is there gets its new owner. -/
theorem exec_setReadableOwner {id : ReadableId} (hlive : s.streams.containsReadable id = true)
    (owner : OwnerKey) :
    ∃ t, exec (onStreams (Registry.setReadableOwner id owner)) s = (.ok (), t) ∧
    s.InOrderAgain t := by
  obtain ⟨source, hs⟩ := Option.isSome_iff_exists.mp hlive
  have hok : (exec (Registry.setReadableOwner id owner) s.streams).1 = .ok () := by
    rw [Registry.exec_setReadableOwner hs]
  exact ⟨_, Prod.ext hok rfl, .setReadableOwner h id owner⟩

/-- A transform stream is made that passes every chunk on. -/
theorem createIdentity {stage : TransformStream}
    (hmade : (Session.createIdentity : Step H E TransformStream) s = (stage, t)) :
    s.InOrderAgain t ∧ Gains stage s t := by
  have hgains : Gains ((Session.createIdentity : Step H E TransformStream) s).1 s
    ((Session.createIdentity : Step H E TransformStream) s).2 :=
      gains_createIdentity h.resting.wellFormed
  have hop : (StreamOp.createTransform .identity).after 0 s = some t :=
    congrArg (some ∘ Prod.snd) hmade
  rw [hmade] at hgains
  refine ⟨⟨h.operate _ 0 hop trivial, hgains.persists, fun {name} hfree => ?_⟩, hgains⟩
  cases name with
  | readable id =>
    simp only [Registry.holder?, hgains.source] at hfree ⊢
    split
    · rfl
    · exact hfree
  | writable id =>
    simp only [Registry.holder?, hgains.sink] at hfree ⊢
    split
    · rfl
    · exact hfree

end InOrderAgain

end Session

/-! ### The stream of a response -/

namespace Body

variable [Host H] {s t : Session H E} {body : Body} {id : ReadableId}

/-- The stream that a body is read through: its own, or the one that is to be made over its host
body. -/
def streamId? (body : Body) (streams : Registry E) : Option ReadableId :=
  body.readable <|> body.handle.map fun _ => ⟨streams.sources.nextKey⟩

/-- What asking a body for its stream comes to: nothing changes, or there is a new stream. -/
theorem opens_stream (h : s.InOrder) (hid : body.streamId? s.streams = some id) :
    (∃ error, exec (body.stream : Action H E BodyError _) s = (.error error, s)) ∨
      ∃ t, exec (body.stream : Action H E BodyError _) s =
      (.ok (id, { body with readable := some id }), t) ∧
        s.InOrderAgain t ∧ t.streams.containsReadable id = true ∧
          (t.streams.HasFailed id → s.streams.HasFailed id) := by
  obtain ⟨owner, handle, readable, _ | _, used⟩ := body
  case true => exact .inl ⟨_, rfl⟩
  rcases readable with _ | found
  · rcases handle with _ | handle
    · cases hid
    · cases hid
      let made : Session H E := s.mapStreams fun streams => (streams.bodySource handle).2
      have hadded : s.InOrderAgain made := .bodySource h handle
      have hkey : (s.streams.bodySource handle).1 = ⟨s.streams.sources.nextKey⟩ :=
        congrArg EntryId.mk (SlotMap.insert_fst ..)
      have hfound : made.streams.source? ⟨s.streams.sources.nextKey⟩ = some
          { backing := .body handle s.streams.config.bodyChunkSize
            controller := { highWaterMark := s.streams.config.bodyHighWaterMark } } :=
        (Registry.source?_addSource h.resting.wellFormed _ _).trans
          (if_pos hkey.symm)
      have hlive : made.streams.containsReadable ⟨s.streams.sources.nextKey⟩ = true :=
        Option.isSome_iff_exists.mpr ⟨_, hfound⟩
      obtain ⟨t, howned, hrestored⟩ :=
        Session.InOrderAgain.exec_setReadableOwner hadded.inOrder hlive owner
      refine .inr ⟨t, ?_, hadded.trans hrestored, hrestored.persists.containsReadable hlive,
        fun hfailed => ?_⟩
      · simp only [Body.stream, exec_bind, exec_get, Bool.false_eq_true, if_false, exec_modifyGet,
          Session.exec_adapt]
        rw [show (Session.changeStreams (fun streams => streams.bodySource handle) s).2 =
          made from rfl,
          show (Session.changeStreams (fun streams => streams.bodySource handle) s).1 =
            ⟨s.streams.sources.nextKey⟩ from hkey, howned]
        rfl
      · obtain ⟨error, hstate⟩ := (hrestored.persists.hasFailed_iff hlive).mp hfailed
        rw [Registry.readableState?_eq hfound] at hstate
        cases hstate
  · cases hid
    simp only [Body.stream, exec_bind, exec_get, Bool.false_eq_true, if_false]
    split
    · next hlive => exact .inr ⟨s, rfl, .refl h, hlive, fun hfailed => hfailed⟩
    · exact .inl ⟨_, rfl⟩

end Body

/-! ### The pipe in -/

/-- A new pipe takes the locks of its ends only. -/
theorem Registry.free_withPipe {streams : Registry E} {r : ReadableId} {w : WritableId}
    {source : Source E} {sink : Sink E} {options : PipeOptions}
    (hs : streams.source? r = some source) (hk : streams.sink? w = some sink) {name : StreamName}
    (hr : name ≠ .readable r) (hw : name ≠ .writable w) (hfree : streams.holder? name = none) :
    (streams.withPipe r w source sink options).holder? name = none := by
  cases name with
  | readable other =>
    have hne : other ≠ r := fun he => hr (congrArg _ he)
    simpa only [holder?, source?_withPipe w sink options hs, if_neg hne] using hfree
  | writable other =>
    have hne : other ≠ w := fun he => hw (congrArg _ he)
    simpa only [holder?, sink?_withPipe r source options hk, if_neg hne] using hfree

namespace Passthrough

variable {p : Passthrough} {s t : Session H E} {w : WritableId}

/-- What is piped in is carried, nothing is piped out, and there is a stream over a host body to
pipe into. -/
structure Ready (p : Passthrough) (w : WritableId) (s : Session H E) : Prop where
  inOrder : s.InOrder
  laid : p.Laid s.streams
  carries : p.Carries s
  free : s.streams.holder? (.readable p.stage.readable) = none
  vacant : s.streams.Vacant w
  apart : p.mouth ≠ p.stage.readable

theorem Ready.inOrderAgain (h : p.Ready w s) (ht : s.InOrderAgain t) : p.Ready w t where
  inOrder := ht.inOrder
  laid := h.laid.persists ht.persists ht.inOrder.references.mutual
  carries := h.carries.persists ht.persists
  free := ht.free h.free
  vacant := ht.vacant h.vacant
  apart := h.apart

/-- A transform stream has been made, and a stream that was there before is piped into it. -/
theorem ready_pipeTo [Host H] {stage : TransformStream} {made : Session H E} {id : ReadableId}
    {fuel : Nat} {opening : Except StreamError PipeId} (hrestored : s.InOrderAgain made)
    (hgains : Session.Gains stage s made) (hlive : s.streams.containsReadable id = true)
    (hv : made.streams.Vacant w)
    (hpipe : attempt (Session.pipeTo fuel id stage.writable {}) made = some (opening, t)) :
    (∃ error, opening = .error error ∧ made.streams.Persists t.streams) ∨
      ∃ p : Passthrough, p.mouth = id ∧ p.stage = stage ∧ opening = .ok p.inlet ∧ p.Ready w t := by
  have horder := hrestored.inOrder
  have hlast : t.InOrder := horder.operate (.pipeTo id stage.writable {}) fuel
    (by simp only [StreamOp.after, hpipe, Option.map_some]) trivial
  have hpersists := Registry.Persists.openPipe horder.resting.wellFormed id stage.writable {}
  have hwired := horder.wired_openPipe id stage.writable {}
  have hmutual := horder.mutual_openPipe id stage.writable {}
  rw [Session.attempt_pipeTo] at hpipe
  rcases Registry.exec_openPipe_cases made.streams id stage.writable {} with
    ⟨source, sink, hs, -, hk, -, hopen⟩ | ⟨error, streams', hopen, -⟩
  · rw [hopen] at hpipe hpersists hwired hmutual
    obtain ⟨⟨steps, u⟩, hpump, he⟩ := Option.map_eq_some_iff.mp hpipe
    cases he
    let opened : Session H E :=
      { made with streams := made.streams.withPipe id stage.writable source sink {} }
    let p : Passthrough :=
      { stage
        inlet := ⟨made.streams.pipes.nextKey⟩
        link := made.streams.nextPipe id stage.writable {}
        into := rfl
        plain := rfl }
    have hpersists : made.streams.Persists opened.streams := hpersists
    have hhalf := (hgains.source stage.readable).trans (if_pos rfl)
    have hapart : id ≠ stage.readable := by
      rintro rfl
      simp [Registry.containsReadable, hgains.new_readable] at hlive
    have hmade : p.Laid made.streams :=
      ⟨⟨_, hhalf, rfl, rfl⟩, ⟨_, (hgains.bridge stage.bridge).trans (if_pos rfl), rfl, rfl, rfl⟩,
        horder.references.mutual⟩
    have hlaid : p.Laid opened.streams := hmade.persists hpersists hmutual
    have hflows : p.Flowing opened := by
      obtain ⟨half, hfound, hsame⟩ := hpersists.source hhalf
      refine ⟨⟨false, ?_⟩, half, hfound, hsame.controller ▸ ⟨rfl, rfl⟩⟩
      exact (Registry.pipe?_withPipe horder.resting.wellFormed id stage.writable source
        sink {} _).trans (if_pos rfl)
    have hfree : opened.streams.holder? (.readable stage.readable) = none := by
      refine Registry.free_withPipe hs hk (by simpa using hapart.symm) (by simp) ?_
      simp [Registry.holder?, hhalf, Registry.newReadable]
    have hvacant : opened.streams.Vacant w := by
      refine ⟨hpersists.takesHost hv.takes, Registry.free_withPipe hs hk (by simp) ?_ hv.free⟩
      -- the stream over the host body is not the writable half
      obtain ⟨found, handle, hw, hback, -⟩ := hv.takes
      rintro he
      cases he
      rw [(hgains.sink stage.writable).trans (if_pos rfl), Option.some.injEq] at hw
      cases hw ▸ hback
    have hacts := (Session.flowActs _ fuel).pumpPipe hwired hpump
    have hruns := (Session.flowRuns _ fuel).pumpPipe hwired hpump
    refine .inr ⟨p, rfl, rfl, rfl, hlast, hlaid.runsTo hruns hwired.composed, ?_,
      hruns.movesTo.free hfree, hacts.vacant hwired hvacant, hapart⟩
    refine Carries.acts (.inl hflows) hwired hlaid (fun {name pipe} hr he => ?_) hacts
    -- a pipe out would hold the readable half
    obtain ⟨held, spent, horderly⟩ := hwired.orderly
    obtain ⟨pumping, hp⟩ := hr
    obtain ⟨half, hfound, hlock, -⟩ := (horderly.holds _ _ hp rfl).source
    have hheld : opened.streams.holder? (.readable pipe.source) = some pipe.reader.number :=
      Registry.holder?_readable.mpr ⟨half, hfound, hlock⟩
    rw [show pipe.source = stage.readable from he, hfree] at hheld
    cases hheld
  · rw [hopen] at hpipe hpersists
    cases hpipe
    exact .inl ⟨error, rfl, hpersists⟩

end Passthrough

/-- A body's stream is piped into a new transform stream, or else has not failed. -/
theorem Body.ready_pipeThroughIdentity [Host H] {s : Session H E} {body : Body} {id : ReadableId}
    {w : WritableId} {fuel : Nat} {r : (Except BodyError ReadableId × Body) × Session H E}
    (h : s.InOrder) (hv : s.streams.Vacant w) (hid : body.streamId? s.streams = some id)
    (hfine : ¬ s.streams.HasFailed id) (hrun : drive (body.pipeThroughIdentity fuel) s = some r) :
    (∃ error, r.1.1 = .error error ∧ ¬ r.2.streams.HasFailed id) ∨
      ∃ p : Passthrough, p.mouth = id ∧ r.1.1 = .ok p.stage.readable ∧ p.Ready w r.2 := by
  simp only [pipeThroughIdentity, drive_bind, drive_modifyGet, Session.outcome_apply,
    Option.bind_some] at hrun
  rcases opens_stream h hid with ⟨error, hopen⟩ | ⟨opened, hopen, hrestored, hlive, hback⟩
  · rw [hopen] at hrun
    cases hrun
    exact .inl ⟨error, rfl, hfine⟩
  · rw [hopen] at hrun
    simp only [drive_bind, drive_modifyGet, Option.bind_some] at hrun
    obtain ⟨⟨stage, made⟩, hmade⟩ :
        ∃ r, (Session.createIdentity : Step H E TransformStream) opened = r :=
      ⟨_, rfl⟩
    obtain ⟨hmakes, hgains⟩ := Session.InOrderAgain.createIdentity hrestored.inOrder hmade
    rw [hmade] at hrun
    obtain ⟨⟨outcome, piped⟩, hpipe, hrun⟩ := Option.bind_eq_some_iff.mp hrun
    rw [drive_run, Session.attempt_pipeThrough] at hpipe
    obtain ⟨⟨opening, through⟩, hopening, he⟩ := Option.map_eq_some_iff.mp hpipe
    obtain ⟨rfl, rfl⟩ := Prod.mk.inj he
    rcases Passthrough.ready_pipeTo hmakes hgains hlive ((hrestored.trans hmakes).vacant hv)
      hopening with
      ⟨error, rfl, hpersists⟩ | ⟨p, hmouth, rfl, rfl, hready⟩
    · cases hrun
      refine .inl ⟨.stream error, rfl, fun hfailed => hfine (hback ?_)⟩
      have hreleases := (Registry.Persists.releaseReadable through.streams stage.readable).trans
        (.releaseWritable _ stage.writable)
      exact ((hmakes.persists.trans (hpersists.trans hreleases)).hasFailed_iff hlive).mp hfailed
    · obtain ⟨half, hhalf, -⟩ := hready.laid.readable
      obtain ⟨owned, howner, howns⟩ := Session.InOrderAgain.exec_setReadableOwner hready.inOrder
        (Option.isSome_iff_exists.mpr ⟨half, hhalf⟩) body.owner
      simp only [Except.map, drive_bind, drive_modifyGet, Session.outcome_apply, howner,
        Option.bind_some, drive_modify, drive_pure, Option.some.injEq] at hrun
      subst hrun
      have hreleases := howns.trans (.releaseReadable howns.inOrder id)
      exact .inr ⟨p, hmouth, rfl, hready.inOrderAgain
        (hreleases.trans (.releaseWritable hreleases.inOrder p.stage.writable))⟩

/-! ### The pipe out -/

section Out

variable [Host H] {s t : Session H E} {w : WritableId} {fuel : Nat}

/-- What has been piped into a transform stream is piped on. -/
theorem Passthrough.Ready.pipeTo {p : Passthrough} {opening : Except StreamError PipeId}
    (h : p.Ready w s)
    (hpipe : attempt (Session.pipeTo fuel p.stage.readable w {}) s = some (opening, t)) :
    ∃ c : Conduit, c.toPassthrough = p ∧ c.drain.destination = w ∧ opening = .ok c.outlet ∧
      t.InOrder ∧ c.Laid t.streams ∧ c.Reports t := by
  have horder := h.inOrder
  have hlast : t.InOrder := horder.operate (.pipeTo p.stage.readable w {}) fuel
    (by simp only [StreamOp.after, hpipe, Option.map_some]) trivial
  have hpersists := Registry.Persists.openPipe horder.resting.wellFormed p.stage.readable w {}
  have hwired := horder.wired_openPipe p.stage.readable w {}
  have hmutual := horder.mutual_openPipe p.stage.readable w {}
  obtain ⟨half, hs, -⟩ := h.laid.readable
  obtain ⟨sink, handle, hk, -⟩ := h.vacant.takes
  have hl : half.readerLock = none := by simpa [Registry.holder?, hs] using h.free
  have hkl : sink.writerLock = none := by simpa [Registry.holder?, hk] using h.vacant.free
  have hopen := Registry.exec_openPipe_eq {} hs hl hk hkl
  rw [Session.attempt_pipeTo, hopen] at hpipe
  rw [hopen] at hpersists hwired hmutual
  obtain ⟨⟨steps, u⟩, hpump, he⟩ := Option.map_eq_some_iff.mp hpipe
  cases he
  let opened : Session H E :=
    { s with streams := s.streams.withPipe p.stage.readable w half sink {} }
  let c : Conduit :=
    { p with
      outlet := ⟨s.streams.pipes.nextKey⟩
      drain := s.streams.nextPipe p.stage.readable w {}
      out := rfl
      plainly := rfl }
  have hpersists : s.streams.Persists opened.streams := hpersists
  have hlaid : p.Laid opened.streams := h.laid.persists hpersists hmutual
  have hdrains : c.Draining opened := by
    refine ⟨⟨⟨false, ?_⟩, hpersists.takesHost h.vacant.takes⟩, h.carries.persists hpersists⟩
    exact (Registry.pipe?_withPipe horder.resting.wellFormed _ w half sink {} _).trans (if_pos rfl)
  have hacts := (Session.flowActs _ fuel).pumpPipe hwired hpump
  have hruns := (Session.flowRuns _ fuel).pumpPipe hwired hpump
  exact ⟨c, rfl, rfl, rfl, hlast, hlaid.runsTo hruns hwired.composed,
    Conduit.reports_acts (.inl hdrains) hwired hlaid hacts⟩

namespace Conduit

variable {c : Conduit} {mark : UInt64}

/-- A pipe that has stalled is torn down, which does not touch what is piped in. -/
theorem Draining.hasFailed_abortCorrelated (h : c.Draining s) (hw : s.Wired mark)
    (hapart : c.mouth ≠ c.stage.readable) (reason : Option String) :
    (exec (Session.abortCorrelated c.stage.readable reason) s).2.streams.HasFailed c.mouth ↔
      s.streams.HasFailed c.mouth := by
  obtain ⟨pumping, hp⟩ := h.runsTo
  obtain ⟨held, spent, horderly⟩ := hw.orderly
  obtain ⟨between, last, hbetween, hlast, hrun⟩ :=
    Session.abortCorrelated_parts horderly hp rfl reason
  have haborts : Session.ChangesWithin (s.streams.sinkReach c.drain.destination) s between :=
    hbetween ▸ Session.changesWithin_abortUnchecked .refl reason s .refl
  have hcomposed : between.streams.Composed :=
    hbetween ▸ (Session.flowsTo_abortUnchecked hw.composed _ reason).composed hw.composed
  have hcancels : Session.ChangesWithin (between.streams.sourceReach c.drain.source) between last :=
    hlast ▸ Session.changesWithin_cancelUnchecked .refl reason between .refl
  have hout : c.mouth ∉ (between.streams.sourceReach c.drain.source).readables := fun hm =>
    hapart ((hcomposed.eq_of_mem_readables hm).trans c.out)
  have hleft : last.streams.source? c.mouth = s.streams.source? c.mouth :=
    (hcancels.source?_outside hout).trans
      (haborts.source?_outside
        (Registry.not_mem_readables_sinkReach (fun _ => h.takes.backing) _))
  rw [c.out] at hrun
  rw [hrun]
  exact (Registry.hasFailed_finishPipe _ _ _ _).trans (Registry.hasFailed_congr hleft)

/-- Once all pipes have been driven, a response whose stream has failed has failed with an abort. -/
theorem exec_finish (hw : s.Wired mark) (hapart : c.mouth ≠ c.stage.readable)
    (hreports : c.Reports s) (hdriven : s.streams.HasFailed c.mouth →
      s.streams.pipeState? c.outlet = some (.failed .aborted) ∨ s.HasRefused c.drain.destination)
    {result : Except WorkerError Unit}
    (hrun : exec (Worker.finish c.outlet c.stage.readable) s = (result, t))
    (hfailed : t.streams.HasFailed c.mouth) (hfine : ¬ t.HasRefused c.drain.destination) :
    result = .error (.stream .aborted) := by
  have hmoves : Session.MovesTo s t := by
    have hfinish := Worker.movesTo_finish c.outlet c.stage.readable s
    rwa [hrun] at hfinish
  have hdriven : s.streams.HasFailed c.mouth → s.streams.pipeState? c.outlet = some
      (.failed .aborted) :=
    fun hbroken => (hdriven hbroken).resolve_right fun hrefused => hfine (hrefused.movesTo hmoves)
  -- a pipe that has stalled has not been reached by any failure
  have hstalled : t = (exec (Session.abortCorrelated c.stage.readable (some "response stalled"))
    s).2 → s.streams.pipeState? c.outlet = some (.failed .aborted) := by
    rintro rfl
    rcases hreports with hdrains | hbroken | hrefused | hended
    · exact hdriven ((hdrains.hasFailed_abortCorrelated hw hapart _).mp hfailed)
    · exact hbroken
    · exact absurd (hrefused.movesTo hmoves) hfine
    · obtain ⟨made, hcourse⟩ := (Session.flowsTo_abortCorrelated hw.composed _ _).course
      obtain ⟨error, hstate⟩ := hfailed
      cases (hcourse.readableState? hw.composed hended (by simp)).symm.trans hstate
  simp only [Worker.finish, exec_bind, exec_get] at hrun
  cases hstate : s.streams.pipeState? c.outlet with
  | none =>
    rw [hstate] at hrun
    cases hrun
    cases hstate.symm.trans (hstalled rfl)
  | some state =>
    rw [hstate] at hrun
    cases state with
    | running =>
      cases hrun
      cases hstate.symm.trans (hstalled rfl)
    | done =>
      cases hrun
      cases hstate.symm.trans (hdriven hfailed)
    | failed error =>
      cases hrun
      cases hstate.symm.trans (hdriven hfailed)
      rfl

end Conduit

end Out

/-! ### Responses -/

namespace Worker

variable [Host H] {s : Session H E} {response : Body} {id : ReadableId}
  {w : WritableId} {fuel : Nat}

/-- The failure of a response that is piped on its way is reported as an abort. -/
theorem pipeResponse_breaks {r : (Except WorkerError Unit × Body) × Session H E} (h : s.InOrder)
    (hv : s.streams.Vacant w) (hid : response.streamId? s.streams = some id)
    (hunfailed : ¬ s.streams.HasFailed id) (hrun : drive (pipeResponse fuel response w) s = some r)
    (hfailed : r.2.streams.HasFailed id) (hfine : ¬ r.2.HasRefused w) :
    r.1.1 = .error (.stream .aborted) := by
  simp only [pipeResponse, drive_bind] at hrun
  obtain ⟨⟨⟨piped, streamed⟩, through⟩, hthrough, hrun⟩ := Option.bind_eq_some_iff.mp hrun
  rcases Body.ready_pipeThroughIdentity h hv hid hunfailed hthrough with
    ⟨error, rfl, hstill⟩ | ⟨p, rfl, rfl, hready⟩
  · cases hrun
    exact absurd hfailed hstill
  · simp only [drive_bind, drive_run] at hrun
    obtain ⟨⟨opening, onward⟩, hpipe, hrun⟩ := Option.bind_eq_some_iff.mp hrun
    obtain ⟨c, rfl, rfl, rfl, horder, hlaid, hreports⟩ := hready.pipeTo hpipe
    simp only [drive_bind] at hrun
    obtain ⟨⟨steps, pumped⟩, hpump, hrun⟩ := Option.bind_eq_some_iff.mp hrun
    cases hrun
    have hwired := horder.wired
    have hacts := Session.acts_pump hwired hpump
    exact Conduit.exec_finish (hacts.wired hwired) hready.apart
      (Conduit.reports_acts hreports hwired hlaid hacts)
      (Conduit.reports_pump hwired hlaid horder.isResting hreports hpump) rfl hfailed hfine

omit [Host H] in
theorem hasFailed_release (body : Body) (s : Session H E) :
    (body.release s).2.streams.HasFailed id ↔ s.streams.HasFailed id := by
  obtain ⟨owner, handle, _ | found, _ | _, used⟩ := body
  case some.false => exact Registry.hasFailed_modifySource _ _ _ fun _ => rfl
  all_goals rfl

omit [Host H] in
theorem hasRefused_release (body : Body) (s : Session H E) :
    (body.release s).2.HasRefused w ↔ s.HasRefused w := by
  obtain ⟨owner, handle, _ | found, _ | _, used⟩ := body
  all_goals rfl

omit [Host H] in
/-- A new stream over a host body is free to be piped into. -/
theorem vacant_bodySink (wf : s.streams.WellFormed) (destination : BodyHandle) :
    (s.streams.bodySink destination).2.Vacant (s.streams.bodySink destination).1 := by
  have hmade := (Registry.sink?_addSink wf
    { backing := .body destination
      controller := { highWaterMark := s.streams.config.bodyChunkSize } }
    (s.streams.bodySink destination).1).trans (if_pos rfl)
  have hmade : (s.streams.bodySink destination).2.sink? (s.streams.bodySink destination).1 = _ :=
    hmade
  refine ⟨⟨_, destination, hmade, rfl, rfl⟩, ?_⟩
  simp [Registry.holder?, hmade]

omit [Host H] in
theorem hasFailed_releaseWritable (s : Session H E) (w : WritableId) :
    (s.mapStreams fun streams => streams.releaseWritable w).streams.HasFailed id ↔
      s.streams.HasFailed id := Registry.hasFailed_congr (Registry.source?_modifySink ..)

theorem hasFailed_abort {t : Session H E} (hw : ∀ sink, t.streams.sink? w = some sink →
    ∃ handle, sink.backing = .body handle) (reason : Option String) :
    (exec (Session.abort w reason) t).2.streams.HasFailed id ↔ t.streams.HasFailed id :=
  Registry.hasFailed_congr ((Session.changesWithin_abort t w reason none).source?_outside
    (Registry.not_mem_readables_sinkReach hw id))

/-- The failure of a response that is being sent is reported as an abort, whatever it is, unless a
write into the new host body has failed. -/
theorem send_breaks {r : (Except WorkerError BodyHandle × Body) × Session H E} (h : s.InOrder)
    (hid : response.streamId? s.streams = some id) (hunfailed : ¬ s.streams.HasFailed id)
    (hrun : drive (send fuel response) s = some r) (hfailed : r.2.streams.HasFailed id)
    (hfine : ¬ r.2.HasRefused ⟨s.streams.sinks.nextKey⟩) : r.1.1 = .error (.stream .aborted) := by
  by_cases hused : response.used
  · simp only [send, hused, if_true, drive_pure, Option.some.injEq] at hrun
    subst hrun
    exact absurd hfailed hunfailed
  · simp only [send, hused, Bool.false_eq_true, if_false, drive_bind, drive_modifyGet,
      Session.outcome_apply, Option.bind_some, Session.exec_onHost] at hrun
    generalize exec (Host.bodyNew : HostCall H BodyHandle) s.host = answer at hrun
    obtain ⟨called, host⟩ := answer
    cases called with
    | error error =>
      cases hrun
      exact absurd hfailed hunfailed
    | ok destination =>
      simp only [drive_bind, drive_modifyGet, Option.bind_some] at hrun
      obtain ⟨⟨⟨outcome, streamed⟩, piped⟩, hpiped, hrun⟩ := Option.bind_eq_some_iff.mp hrun
      have hcalled : ({ s with host } : Session H E).InOrder := h.elsewhere host s.env s.nextOwner
      have hadds := Session.InOrderAgain.bodySink hcalled destination
      have hkey : (s.streams.bodySink destination).1 = ⟨s.streams.sinks.nextKey⟩ :=
        congrArg EntryId.mk (SlotMap.insert_fst ..)
      have hvacant := vacant_bodySink hcalled.resting.wellFormed destination
      have hbreaks := pipeResponse_breaks hadds.inOrder hvacant hid hunfailed hpiped
      have hbacking : ∀ sink, piped.streams.sink? (s.streams.bodySink destination).1 = some sink →
          ∃ handle, sink.backing = .body handle := by
        intro sink' hk'
        obtain ⟨sink, handle, hk, hback, -⟩ := hvacant.takes
        have hgrows := leads_pipeResponse
            (R := fun s t => s.streams.GrowsTo t.streams) fuel response
          (s.streams.bodySink destination).1 _ _ hpiped
        obtain ⟨found, hfound, hsame⟩ := (hgrows.lasts hadds.inOrder.resting.wellFormed).sinks.back
          (SlotMap.issued_of_get? hk) hk'
        cases hk.symm.trans hfound
        exact ⟨handle, hsame.trans hback⟩
      rw [← hkey] at hfine
      cases outcome with
      | error error =>
        cases hrun
        have habort := Session.changesWithin_abort piped (s.streams.bodySink destination).1
          (some "response failed") none
        have hrefused := mt (fun h => Session.HasRefused.movesTo h (.of_changesWithin habort)) hfine
        cases hbreaks ((hasFailed_abort hbacking _).mp ((hasFailed_releaseWritable _ _).mp hfailed))
          hrefused
        rfl
      | ok =>
        cases hrun
        cases hbreaks ((hasFailed_releaseWritable _ _).mp hfailed) hfine

/-- The failure of a response that is being sent is reported as an abort, whatever it is, unless a
write into the new host body has failed. -/
theorem respond_breaks {result : Except WorkerError BodyHandle} {sent : Session H E} (h : s.InOrder)
    (hid : response.streamId? s.streams = some id) (hunfailed : ¬ s.streams.HasFailed id)
    (hrun : respond fuel (.ok response) s = some (result, sent))
    (hfailed : sent.streams.HasFailed id) (hfine : ¬ sent.HasRefused ⟨s.streams.sinks.nextKey⟩) :
    result = .error (.stream .aborted) := by
  have hdrive : drive (respond fuel (.ok response)) s = some (result, sent) := hrun
  simp only [respond, drive_bind, drive_modifyGet, Option.bind_some, drive_pure] at hdrive
  obtain ⟨⟨⟨outcome, streamed⟩, piped⟩, hsend, hdrive⟩ := Option.bind_eq_some_iff.mp hdrive
  cases hdrive
  exact send_breaks h hid hunfailed hsend ((hasFailed_release streamed piped).mp hfailed)
    (mt (hasRefused_release streamed piped).mpr hfine)

end Worker

end EdgeStreams
