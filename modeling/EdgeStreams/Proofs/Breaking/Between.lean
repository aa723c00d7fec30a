import EdgeStreams.Proofs.Breaking.Rounds
import EdgeStreams.Proofs.Client.Backpressure
import EdgeStreams.Proofs.Session.Creating

/-!
# Between two operations

Streams are made, locked and let go of, and pipes are opened. All else is as it was: what a
transform stream carries is still carried.

## Main definitions

- `Registry.Persists`: everything is there as it was, but for locks, owners and marks
- `Session.InOrder`: what holds of a session between two operations, whatever clients have done

## Main statements

- `Registry.Persists.openPipe` and its like: each kind of change
- `Session.InOrder.operate`: an operation that takes nothing out leaves a session in order
- `Session.InOrder.wired_openPipe`: a pipe has been opened and is to be driven
-/

namespace EdgeStreams

variable {H E : Type}

theorem Source.Same.trans {first second third : Source E} (h : first.Same second)
    (h' : second.Same third) : first.Same third :=
  ⟨h'.backing.trans h.backing, h'.controller.trans h.controller, h'.start.trans h.start,
    h'.pulling.trans h.pulling, h'.pullAgain.trans h.pullAgain, h'.canceled.trans h.canceled⟩

theorem Sink.Same.trans {first second third : Sink E} (h : first.Same second)
    (h' : second.Same third) : first.Same third :=
  ⟨h'.backing.trans h.backing, h'.controller.trans h.controller, h'.start.trans h.start⟩

/-! ### What persists -/

/-- Everything is there as it was, but for locks, owners and marks. -/
structure Registry.Persists (streams streams' : Registry E) : Prop where
  source : ∀ {id source}, streams.source? id = some source →
    ∃ source', streams'.source? id = some source' ∧ source.Same source'
  sink : ∀ {id sink}, streams.sink? id = some sink →
    ∃ sink', streams'.sink? id = some sink' ∧ sink.Same sink'
  bridge : ∀ {name bridge}, streams.bridge? name = some bridge → streams'.bridge? name = some bridge
  pipe : ∀ {name pipe}, streams.pipe? name = some pipe → streams'.pipe? name = some pipe

namespace Registry

variable {streams streams' streams'' : Registry E}

namespace Persists

theorem refl (streams : Registry E) : streams.Persists streams where
  source hs := ⟨_, hs, .refl _⟩
  sink hk := ⟨_, hk, .refl _⟩
  bridge hb := hb
  pipe hp := hp

theorem trans (h : streams.Persists streams') (h' : streams'.Persists streams'') :
    streams.Persists streams'' where
  source hs := by
    obtain ⟨source', hs', hsame⟩ := h.source hs
    obtain ⟨source'', hs'', hsame'⟩ := h'.source hs'
    exact ⟨source'', hs'', hsame.trans hsame'⟩
  sink hk := by
    obtain ⟨sink', hk', hsame⟩ := h.sink hk
    obtain ⟨sink'', hk'', hsame'⟩ := h'.sink hk'
    exact ⟨sink'', hk'', hsame.trans hsame'⟩
  bridge hb := h'.bridge (h.bridge hb)
  pipe hp := h'.pipe (h.pipe hp)

theorem modifySource (streams : Registry E) (id : ReadableId) {f : Source E → Source E}
    (hf : ∀ source : Source E, source.Same (f source)) :
    streams.Persists (streams.modifySource id f) where
  source {other source} hs := by
    rw [source?_modifySource]
    split
    · next he => exact ⟨f source, by rw [← he, hs]; rfl, hf source⟩
    · exact ⟨source, hs, .refl source⟩
  sink hk := ⟨_, (sink?_modifySource ..).trans hk, .refl _⟩
  bridge hb := (bridge?_modifySource ..).trans hb
  pipe hp := (pipe?_congr (pipes_modifySource ..) _).trans hp

theorem modifySink (streams : Registry E) (id : WritableId) {f : Sink E → Sink E}
    (hf : ∀ sink : Sink E, sink.Same (f sink)) : streams.Persists (streams.modifySink id f) where
  source hs := ⟨_, (source?_modifySink ..).trans hs, .refl _⟩
  sink {other sink} hk := by
    rw [sink?_modifySink]
    split
    · next he => exact ⟨f sink, by rw [← he, hk]; rfl, hf sink⟩
    · exact ⟨sink, hk, .refl sink⟩
  bridge hb := (bridge?_modifySink ..).trans hb
  pipe hp := (pipe?_congr (pipes_modifySink ..) _).trans hp

theorem releaseReadable (streams : Registry E) (id : ReadableId) :
    streams.Persists (streams.releaseReadable id) :=
  modifySource streams id fun _ => ⟨rfl, rfl, rfl, rfl, rfl, rfl⟩

theorem releaseWritable (streams : Registry E) (id : WritableId) :
    streams.Persists (streams.releaseWritable id) := modifySink streams id fun _ => ⟨rfl, rfl, rfl⟩

theorem setReadableOwner (streams : Registry E) (id : ReadableId) (owner : OwnerKey) :
    streams.Persists (exec (Registry.setReadableOwner id owner) streams).2 := by
  rw [exec_setReadableOwner_snd]
  exact modifySource streams id fun _ => ⟨rfl, rfl, rfl, rfl, rfl, rfl⟩

theorem addSource (wf : streams.WellFormed) (source : Source E) :
    streams.Persists (streams.addSource source).2 where
  source {id found} hs := by
    have hne : id ≠ (streams.addSource source).1 := by
      rintro rfl
      cases hs.symm.trans (source?_addSource_fst wf source)
    exact ⟨found, (source?_addSource wf source id).trans (if_neg hne ▸ hs), .refl found⟩
  sink hk := ⟨_, hk, .refl _⟩
  bridge hb := hb
  pipe hp := hp

theorem addSink (wf : streams.WellFormed) (sink : Sink E) :
    streams.Persists (streams.addSink sink).2 where
  source hs := ⟨_, hs, .refl _⟩
  sink {id found} hk := by
    have hne : id ≠ (streams.addSink sink).1 := by
      rintro rfl
      cases hk.symm.trans (sink?_addSink_fst wf sink)
    exact ⟨found, (sink?_addSink wf sink id).trans (if_neg hne ▸ hk), .refl found⟩
  bridge hb := hb
  pipe hp := hp

/-- A pipe has been opened, or that has been refused. -/
theorem openPipe (wf : streams.WellFormed) (r : ReadableId) (w : WritableId)
    (options : PipeOptions) :
    streams.Persists (exec (Registry.openPipe r w options) streams).2 := by
  rcases exec_openPipe_cases streams r w options with
    ⟨source, sink, hs, -, hk, -, hopen⟩ | ⟨error, streams', hopen, hgives⟩
  · rw [hopen]
    refine ⟨fun {id found} hfound => ?_, fun {id found} hfound => ?_, id, fun {name pipe} hp => ?_⟩
    · rw [source?_withPipe w sink options hs]
      split
      · next he =>
        subst he
        cases hs.symm.trans hfound
        exact ⟨_, rfl, rfl, rfl, rfl, rfl, rfl, rfl⟩
      · exact ⟨found, hfound, .refl found⟩
    · rw [sink?_withPipe r source options hk]
      split
      · next he =>
        subst he
        cases hk.symm.trans hfound
        exact ⟨_, rfl, rfl, rfl, rfl⟩
      · exact ⟨found, hfound, .refl found⟩
    · have hne : name ≠ ⟨streams.pipes.nextKey⟩ := by
        rintro rfl
        cases hp.symm.trans wf.pipes.get?_nextKey
      exact (pipe?_withPipe wf r w source sink options name).trans (if_neg hne ▸ hp)
  · obtain ⟨number, -, rfl⟩ := hgives.eq
    rw [hopen]
    exact ⟨fun hs => ⟨_, hs, .refl _⟩, fun hk => ⟨_, hk, .refl _⟩, id, id⟩

variable (h : streams.Persists streams')
include h

theorem readableState? {id : ReadableId} {state : ReadableState}
    (hs : streams.readableState? id = some state) : streams'.readableState? id = some state := by
  obtain ⟨source, hsource, rfl⟩ := Option.map_eq_some_iff.mp hs
  obtain ⟨source', hsource', hsame⟩ := h.source hsource
  rw [readableState?_eq hsource', hsame.controller]

theorem hasFailed_iff {id : ReadableId} (hlive : streams.containsReadable id = true) :
    streams'.HasFailed id ↔ streams.HasFailed id := by
  obtain ⟨source, hs⟩ := Option.isSome_iff_exists.mp hlive
  have hstate := readableState?_eq hs
  rw [HasFailed, HasFailed, hstate, h.readableState? hstate]

theorem containsReadable {id : ReadableId} (hlive : streams.containsReadable id = true) :
    streams'.containsReadable id = true := by
  obtain ⟨source, hs⟩ := Option.isSome_iff_exists.mp hlive
  obtain ⟨source', hs', -⟩ := h.source hs
  exact Option.isSome_iff_exists.mpr ⟨source', hs'⟩

theorem runsAs {name : PipeId} {pipe : Pipe} (hr : streams.RunsAs name pipe) :
    streams'.RunsAs name pipe := hr.imp fun _ hp => h.pipe hp

theorem takesHost {id : WritableId} (ht : streams.TakesHost id) : streams'.TakesHost id := by
  obtain ⟨sink, handle, hk, hback, hwritable⟩ := ht
  obtain ⟨sink', hk', hsame⟩ := h.sink hk
  exact ⟨sink', handle, hk', hsame.backing.trans hback, hsame.controller ▸ hwritable⟩

end Persists

/-- Bridges and the halves that they refer to belong together. -/
theorem References.mutual (h : streams.References) : streams.Mutual := fun _ _ _ hspans =>
  h.readable hspans.joins hspans.lives

end Registry

/-- A transform stream has been made. -/
theorem Session.Gains.persists {stage : TransformStream} {s t : Session H E} (h : Gains stage s t) :
    s.streams.Persists t.streams where
  source {id source} hs := by
    have hne : id ≠ stage.readable := by
      rintro rfl
      cases hs.symm.trans h.new_readable
    exact ⟨source, (h.source id).trans (if_neg hne ▸ hs), .refl source⟩
  sink {id sink} hk := by
    have hne : id ≠ stage.writable := by
      rintro rfl
      cases hk.symm.trans h.new_writable
    exact ⟨sink, (h.sink id).trans (if_neg hne ▸ hk), .refl sink⟩
  bridge {name bridge} hb := by
    have hne : name ≠ stage.bridge := by
      rintro rfl
      cases hb.symm.trans h.new_bridge
    exact (h.bridge name).trans (if_neg hne ▸ hb)
  pipe hp := (Registry.pipe?_congr h.pipes _).trans hp

namespace Passthrough

variable {p : Passthrough} {s t : Session H E} (h : s.streams.Persists t.streams)
include h

theorem Laid.persists (hl : p.Laid s.streams) (hm : t.streams.Mutual) : p.Laid t.streams where
  readable := by
    obtain ⟨source, hs, hback, hstart⟩ := hl.readable
    obtain ⟨source', hs', hsame⟩ := h.source hs
    exact ⟨source', hs', hsame.backing.trans hback, hsame.start.trans hstart⟩
  bridge := by
    obtain ⟨bridge, hb, hrest⟩ := hl.bridge
    exact ⟨bridge, h.bridge hb, hrest⟩
  linked := hm

theorem Carries.persists (hcarries : p.Carries s) : p.Carries t := by
  rcases hcarries with hflows | hbroken | hended
  · obtain ⟨source, hs, hopen⟩ := hflows.isOpen
    obtain ⟨source', hs', hsame⟩ := h.source hs
    exact .inl ⟨h.runsAs hflows.runsTo, source', hs', hsame.controller ▸ hopen⟩
  · exact .inr (.inl (h.readableState? hbroken))
  · exact .inr (.inr (h.readableState? hended))

end Passthrough

/-! ### Sessions in order -/

namespace Session

variable {s t : Session H E}

/-- What holds of a session between two operations, whatever clients have done. -/
structure InOrder (s : Session H E) : Prop extends s.Coupled where
  orderly : ∃ held spent, s.streams.Orderly held spent
  references : s.streams.References

namespace InOrder

variable (h : s.InOrder)
include h

theorem wired : s.Wired s.streams.config.transformHighWaterMark :=
  ⟨h.resting.composed, h.couples, h.orderly, h.passedInOrder⟩

theorem isResting : s.streams.IsResting :=
    ⟨fun _ _ => h.resting.unpulled, fun _ _ => h.resting.undriven⟩

/-- Hosts and guests may do anything in between. -/
theorem elsewhere (host : H) (env : E) (nextOwner : Nat) :
    ({ s with host, env, nextOwner } : Session H E).InOrder where
  resting := ⟨h.resting.wellFormed, h.resting.composed, h.resting.unpulled, h.resting.undriven⟩
  couples := h.couples
  issued := h.issued
  passedInOrder hs := by
    obtain ⟨first, hinOrder⟩ := h.passedInOrder hs
    exact ⟨first, hinOrder.turnover ⟨.refl _, rfl⟩ id rfl rfl⟩
  orderly := h.orderly
  references := h.references

section OpenPipe

variable (r : ReadableId) (w : WritableId) (options : PipeOptions)

/-- A pipe has been opened and is to be driven, or it has been refused. -/
theorem wired_openPipe :
    ({ s with streams := (exec (Registry.openPipe r w options) s.streams).2 } : Session H E).Wired
      s.streams.config.transformHighWaterMark := by
  have hturnover := Registry.Turnover.openPipe h.resting.wellFormed r w options
  have hnone := Registry.makesNone_openPipe s.streams r w options
  obtain ⟨held, spent, horderly⟩ := h.orderly
  refine ⟨hturnover.composed h.resting.composed, h.couples.turnover hturnover hnone,
    ⟨held, spent, horderly.openPipe r w options⟩, fun {id source'} hs' => ?_⟩
  obtain ⟨source, hs, -⟩ := hturnover.source_before hnone hs'
  obtain ⟨first, hinOrder⟩ := h.passedInOrder hs
  exact ⟨first, hinOrder.turnover ⟨hturnover, rfl⟩ hnone.source rfl rfl⟩

theorem mutual_openPipe : (exec (Registry.openPipe r w options) s.streams).2.Mutual :=
  ((Registry.GrowsTo.openPipe r w options).references h.resting.wellFormed h.references).mutual

end OpenPipe

/-- An operation that takes nothing out leaves a session in order. -/
theorem operate [Host H] (op : StreamOp E) (fuel : Nat) (hop : op.after fuel s = some t)
    (hr : op.Retains) : t.InOrder where
  toCoupled := (OperationStep.operate op fuel hop).coupled h.toCoupled
    (StreamOp.addsNames h.resting.wellFormed hop hr).ages
  orderly := by
    obtain ⟨held, spent, horderly⟩ := h.orderly
    exact ⟨held, spent, StreamOp.orderly horderly hop⟩
  references := (StreamOp.growsTo hop hr).references h.resting.wellFormed h.references

end InOrder

end Session

/-- In every state that clients can reach. -/
theorem Client.LeadsTo.inOrder [Host H] {uses : H → List UInt32 → H → Prop} {client : Client H E}
    {host : H} {env : E} {config : StreamConfig}
    (h : LeadsTo uses NoneBack (new host env config) client) : client.session.InOrder where
  toCoupled := h.coupled_of_new
  orderly := ⟨_, _, h.orderly (orderly_new host env config)⟩
  references := h.calls.references (sound_new host env config) (.new config)

end EdgeStreams
