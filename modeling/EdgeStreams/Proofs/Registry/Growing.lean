import EdgeStreams.Proofs.Registry.Locking
import EdgeStreams.Proofs.SlotMap.Lasting

/-!
# Registries that grow

Every operation changes entries and makes new ones. It leaves what an entry has been made with:
where a stream's chunks come from or go to, the halves of a bridge, and the ends of a pipe. Only
sweeping and clearing take entries out, and then their names find nothing any more.

## Main definitions

- `Registry.GrowsTo`: entries are changed and made
- `Registry.Lasts`: names find the entries that they have been given to, or nothing
- `Registry.Ages`: no generation has gone back
- `Registry.References`: entries refer to names that have been given out, and the two halves of a
  transform stream and their bridge to each other

## Main statements

- `Registry.GrowsTo.lasts`, `Registry.GrowsTo.references`: what growing keeps
- `Registry.Lasts.sweep`, `Registry.Lasts.clear`, `Registry.References.sweep`,
  `Registry.References.clear`: what sweeping and clearing keep as long as no generation runs over
-/

namespace EdgeStreams

variable {E : Type}

/-- What a bridge has been made with. -/
def Bridge.made (bridge : Bridge E) : ReadableId × WritableId × Transformer E :=
  (bridge.readable, bridge.writable, bridge.transformer)

/-- What a pipe has been made with. -/
def Pipe.made (pipe : Pipe) : ReadableId × WritableId × ReaderToken × WriterToken × PipeOptions :=
  (pipe.source, pipe.destination, pipe.reader, pipe.writer, pipe.options)

namespace Registry

/-- Entries are changed and made, one after the other. -/
inductive GrowsTo (streams : Registry E) : Registry E → Prop
  | refl : GrowsTo streams streams
  | number {between : Registry E} (nextToken : Nat) : GrowsTo streams between →
    GrowsTo streams { between with nextToken }
  | setSource {between : Registry E} {id : ReadableId} {source source' : Source E} :
    GrowsTo streams between → between.source? id = some source →
      source'.backing = source.backing → GrowsTo streams (between.setSource id source')
  | setSink {between : Registry E} {id : WritableId} {sink sink' : Sink E} :
    GrowsTo streams between → between.sink? id = some sink → sink'.backing = sink.backing →
      GrowsTo streams (between.setSink id sink')
  | setBridge {between : Registry E} {id : BridgeId} {bridge bridge' : Bridge E} :
    GrowsTo streams between → between.bridge? id = some bridge → bridge'.made = bridge.made →
      GrowsTo streams (between.setBridge id bridge')
  | setPipe {between : Registry E} {id : PipeId} {pipe pipe' : Pipe} :
    GrowsTo streams between → between.pipe? id = some pipe → pipe'.made = pipe.made →
      GrowsTo streams (between.setPipe id pipe')
  | addSource {between : Registry E} {source : Source E} : GrowsTo streams between →
    (∀ name, source.backing ≠ .transform name) → GrowsTo streams (between.addSource source).2
  | addSink {between : Registry E} {sink : Sink E} : GrowsTo streams between →
    (∀ name, sink.backing ≠ .transform name) → GrowsTo streams (between.addSink sink).2
  | enterTransform {between : Registry E} (transformer : Transformer E) : GrowsTo streams between →
    GrowsTo streams (Session.enterTransform transformer between).2
  /-- A pipe between two streams that live. -/
  | addPipe {between : Registry E} {pipe : Pipe} {source : Source E} {sink : Sink E} :
    GrowsTo streams between → between.source? pipe.source = some source →
      between.sink? pipe.destination = some sink → GrowsTo streams (between.addPipe pipe).2

/-- The names that have been given out find what they found before, or nothing. -/
structure Lasts (streams streams' : Registry E) : Prop where
  sources : streams.sources.Lasts Source.backing streams'.sources
  sinks : streams.sinks.Lasts Sink.backing streams'.sinks
  bridges : streams.bridges.Lasts Bridge.made streams'.bridges
  pipes : streams.pipes.Lasts Pipe.made streams'.pipes

/-- No generation of a slot has gone back, which it would do only where it runs over. -/
structure Ages (streams streams' : Registry E) : Prop where
  sources : streams.sources.Ages streams'.sources
  sinks : streams.sinks.Ages streams'.sinks
  bridges : streams.bridges.Ages streams'.bridges
  pipes : streams.pipes.Ages streams'.pipes

/-- What entries refer to. The name of a pipe's end or of a half has been given out, whether or not
the stream still lives; and the half that a bridge refers to refers to the bridge. -/
structure References (streams : Registry E) : Prop where
  pipe : ∀ {name pipe}, streams.pipe? name = some pipe →
    streams.sources.Issued pipe.source.key ∧ streams.sinks.Issued pipe.destination.key
  bridge : ∀ {name bridge}, streams.bridge? name = some bridge →
    streams.sources.Issued bridge.readable.key ∧ streams.sinks.Issued bridge.writable.key
  readable : ∀ {name bridge source}, streams.bridge? name = some bridge →
    streams.source? bridge.readable = some source → source.backing = .transform name
  writable : ∀ {name bridge sink}, streams.bridge? name = some bridge →
    streams.sink? bridge.writable = some sink → sink.backing = .transform name

variable {streams streams' streams'' : Registry E}

instance : Decidable (streams.Ages streams') :=
  decidable_of_iff (streams.sources.Ages streams'.sources ∧ streams.sinks.Ages streams'.sinks ∧
    streams.bridges.Ages streams'.bridges ∧ streams.pipes.Ages streams'.pipes)
    ⟨fun ⟨hsources, hsinks, hbridges, hpipes⟩ => ⟨hsources, hsinks, hbridges, hpipes⟩,
      fun h => ⟨h.sources, h.sinks, h.bridges, h.pipes⟩⟩

/-! ### Growing -/

namespace GrowsTo

theorem trans (h : streams.GrowsTo streams') (h' : streams'.GrowsTo streams'') :
    streams.GrowsTo streams'' := by
  induction h' with
  | refl => exact h
  | number nextToken _ ih => exact ih.number nextToken
  | setSource _ hs hback ih => exact ih.setSource hs hback
  | setSink _ hk hback ih => exact ih.setSink hk hback
  | setBridge _ hb hmade ih => exact ih.setBridge hb hmade
  | setPipe _ hp hmade ih => exact ih.setPipe hp hmade
  | addSource _ hnative ih => exact ih.addSource hnative
  | addSink _ hnative ih => exact ih.addSink hnative
  | enterTransform transformer _ ih => exact ih.enterTransform transformer
  | addPipe _ hs hk ih => exact ih.addPipe hs hk

/-- Each arena grows by itself. -/
theorem sources (h : streams.GrowsTo streams') :
    streams.sources.GrowsTo Source.backing streams'.sources := by
  induction h with
  | refl => exact .refl
  | setSource _ hs hback ih => exact ih.set hs hback
  | addSource _ _ ih => exact ih.insert _
  | enterTransform transformer _ ih =>
    rw [enterTransform_eq]
    exact ih.insert _
  | number | setSink | setBridge | setPipe | addSink | addPipe => assumption

theorem sinks (h : streams.GrowsTo streams') :
    streams.sinks.GrowsTo Sink.backing streams'.sinks := by
  induction h with
  | refl => exact .refl
  | setSink _ hk hback ih => exact ih.set hk hback
  | addSink _ _ ih => exact ih.insert _
  | enterTransform transformer _ ih =>
    rw [enterTransform_eq]
    exact ih.insert _
  | number | setSource | setBridge | setPipe | addSource | addPipe => assumption

theorem bridges (h : streams.GrowsTo streams') :
    streams.bridges.GrowsTo Bridge.made streams'.bridges := by
  induction h with
  | refl => exact .refl
  | setBridge _ hb hmade ih => exact ih.set hb hmade
  | enterTransform transformer _ ih =>
    rw [enterTransform_eq]
    exact ih.insert _
  | number | setSource | setSink | setPipe | addSource | addSink | addPipe => assumption

theorem pipes (h : streams.GrowsTo streams') : streams.pipes.GrowsTo Pipe.made streams'.pipes := by
  induction h with
  | refl => exact .refl
  | setPipe _ hp hmade ih => exact ih.set hp hmade
  | addPipe _ _ _ ih => exact ih.insert _
  | enterTransform transformer _ ih => rwa [pipes_enterTransform]
  | number | setSource | setSink | setBridge | addSource | addSink => assumption

theorem wellFormed (h : streams.GrowsTo streams') (wf : streams.WellFormed) : streams'.WellFormed :=
  ⟨h.sources.wellFormed wf.sources, h.sinks.wellFormed wf.sinks, h.bridges.wellFormed wf.bridges,
    h.pipes.wellFormed wf.pipes⟩

theorem lasts (h : streams.GrowsTo streams') (wf : streams.WellFormed) :
    streams.Lasts streams' :=
  ⟨h.sources.lasts wf.sources, h.sinks.lasts wf.sinks, h.bridges.lasts wf.bridges,
    h.pipes.lasts wf.pipes⟩

/-! ### Changes of a registry -/

theorem modifySource (id : ReadableId) {f : Source E → Source E}
    (hf : ∀ source, (f source).backing = source.backing) :
    streams.GrowsTo (streams.modifySource id f) := by
  unfold Registry.modifySource
  split
  · next source hs => exact .setSource .refl hs (hf source)
  · exact .refl

theorem modifySink (id : WritableId) {f : Sink E → Sink E}
    (hf : ∀ sink, (f sink).backing = sink.backing) : streams.GrowsTo (streams.modifySink id f) := by
  unfold Registry.modifySink
  split
  · next sink hk => exact .setSink .refl hk (hf sink)
  · exact .refl

theorem releaseReadable (id : ReadableId) : streams.GrowsTo (streams.releaseReadable id) :=
  modifySource id fun _ => rfl

theorem releaseWritable (id : WritableId) : streams.GrowsTo (streams.releaseWritable id) :=
  modifySink id fun _ => rfl

theorem settleStart (stream : TransformStream) (settle : StartState → StartState) :
    streams.GrowsTo (Session.settleStart stream settle streams) :=
  (modifySource stream.readable (f := fun source => { source with start := settle source.start })
    fun _ => rfl).trans (modifySink _ fun _ => rfl)

theorem releaseReader (id : ReadableId) (token : ReaderToken) :
    streams.GrowsTo (quietly (Registry.releaseReader id token) streams) := by
  rw [quietly_releaseReader]
  repeat' split
  · next source hs hlock =>
    refine .setSource .refl hs ?_
    rw [unlockReader, if_pos hlock]
  · exact .refl
  · exact .refl

theorem releaseWriter (id : WritableId) (token : WriterToken) :
    streams.GrowsTo (quietly (Registry.releaseWriter id token) streams) := by
  rw [quietly_releaseWriter]
  repeat' split
  · next sink hk hlock =>
    refine .setSink .refl hk ?_
    rw [unlockWriter, if_pos hlock]
  · exact .refl
  · exact .refl

theorem readerLocked {id : ReadableId} {source : Source E} (hs : streams.source? id = some source) :
    streams.GrowsTo (streams.readerLocked id source) :=
  .setSource (.number (streams.nextToken + 1) .refl) hs rfl

theorem getReader (id : ReadableId) : streams.GrowsTo (exec (Registry.getReader id) streams).2 := by
  cases hs : streams.source? id with
  | none => simpa [Registry.getReader, exec_bind, hs] using (refl : streams.GrowsTo streams)
  | some source =>
    cases hl : source.readerLock with
    | some token =>
      simpa [Registry.getReader, exec_bind, hs, hl] using (refl : streams.GrowsTo streams)
    | none =>
      rw [exec_getReader streams hs hl]
      exact .readerLocked hs

theorem getWriter (id : WritableId) : streams.GrowsTo (exec (Registry.getWriter id) streams).2 := by
  cases hk : streams.sink? id with
  | none => simpa [Registry.getWriter, exec_bind, hk] using (refl : streams.GrowsTo streams)
  | some sink =>
    cases hl : sink.writerLock with
    | some token =>
      simpa [Registry.getWriter, exec_bind, hk, hl] using (refl : streams.GrowsTo streams)
    | none =>
      rw [exec_getWriter streams hk hl]
      exact .setSink (.number (streams.nextToken + 1) .refl) hk rfl

theorem finishPipe (id : PipeId) (state : PipeState) :
    streams.GrowsTo (streams.finishPipe id state) := by
  unfold Registry.finishPipe
  cases hp : streams.pipe? id with
  | none => exact .refl
  | some pipe =>
    simp only
    split
    · refine GrowsTo.trans ?_ (modifySource _ fun _ => rfl)
      refine GrowsTo.trans ?_ (releaseWriter _ _)
      refine GrowsTo.trans ?_ (releaseReader _ _)
      exact .setPipe .refl hp rfl
    · exact .refl

theorem openPipe (r : ReadableId) (w : WritableId) (options : PipeOptions) :
    streams.GrowsTo (exec (Registry.openPipe r w options) streams).2 := by
  rcases exec_openPipe_cases streams r w options with
    ⟨source, sink, hs, -, hk, -, hopen⟩ | ⟨error, streams', hopen, hgives⟩
  · rw [hopen]
    have hlocked : streams.GrowsTo ((({ streams with nextToken := streams.nextToken + 2 }.setSink w
        { sink with writerLock := some ⟨streams.nextToken + 1⟩ }).setSource r
          { source with
            readerLock := some ⟨streams.nextToken⟩
            pipedTo := some w
            disturbed := true })) :=
      .setSource (.setSink (.number _ .refl) hk rfl) hs rfl
    exact .addPipe hlocked ((source?_withPipe w sink options hs r).trans (if_pos rfl))
      ((sink?_withPipe r source options hk w).trans (if_pos rfl))
  · rw [hopen]
    cases hgives with
    | refused => exact .refl
    | unlocked hs hl => exact (readerLocked hs).trans (releaseReader _ _)

end GrowsTo

/-! ### Names that last -/

namespace Lasts

theorem refl (streams : Registry E) : streams.Lasts streams :=
  ⟨.refl _, .refl _, .refl _, .refl _⟩

theorem trans (h : streams.Lasts streams') (h' : streams'.Lasts streams'') :
    streams.Lasts streams'' :=
  ⟨h.sources.trans h'.sources, h.sinks.trans h'.sinks, h.bridges.trans h'.bridges,
    h.pipes.trans h'.pipes⟩

theorem sweep (hages : streams.Ages streams.sweep.2) : streams.Lasts streams.sweep.2 := by
  have hsources : streams.sweep.2.sources = (streams.sources.retain fun _ source =>
      !(source.released && source.readerLock.isNone)).2 := rfl
  have hsinks : streams.sweep.2.sinks = (streams.sinks.retain fun _ sink =>
      !(sink.released && sink.writerLock.isNone)).2 := rfl
  have hbridges : streams.sweep.2.bridges = (streams.bridges.retain fun _ bridge =>
      streams.sweep.2.sources.contains bridge.readable.key ||
        streams.sweep.2.sinks.contains bridge.writable.key).2 := rfl
  obtain ⟨hagesSources, hagesSinks, hagesBridges, hagesPipes⟩ := hages
  rw [hsources] at hagesSources
  rw [hsinks] at hagesSinks
  rw [hbridges] at hagesBridges
  rw [pipes_sweep] at hagesPipes
  refine ⟨?_, ?_, ?_, ?_⟩
  · rw [hsources]
    exact .retain _ hagesSources
  · rw [hsinks]
    exact .retain _ hagesSinks
  · rw [hbridges]
    exact .retain _ hagesBridges
  · rw [pipes_sweep]
    exact .retain _ hagesPipes

theorem clear (hages : streams.Ages streams.clear) : streams.Lasts streams.clear :=
  ⟨.clear hages.sources, .clear hages.sinks, .clear hages.bridges, .clear hages.pipes⟩

end Lasts

/-! ### What entries refer to -/

namespace References

theorem new (config : StreamConfig) : (Registry.new config : Registry E).References := by
  have hpipe : ∀ name, (Registry.new config : Registry E).pipe? name = none :=
    fun _ => SlotMap.get?_empty _
  have hbridge : ∀ name, (Registry.new config : Registry E).bridge? name = none :=
    fun _ => SlotMap.get?_empty _
  refine ⟨?_, ?_, ?_, ?_⟩
  all_goals
    intros
    simp_all

/-- No pipe and no bridge has been made. The names that the old ones refer to still find what they
found, or nothing. -/
theorem later (h : streams.References) (hc : streams.Lasts streams')
    (hpipe : ∀ {name pipe'}, streams'.pipe? name = some pipe' →
      ∃ pipe, streams.pipe? name = some pipe ∧ pipe'.made = pipe.made)
    (hbridge : ∀ {name bridge'}, streams'.bridge? name = some bridge' →
      ∃ bridge, streams.bridge? name = some bridge ∧ bridge'.made = bridge.made) :
    streams'.References where
  pipe hp' := by
    obtain ⟨pipe, hp, hmade⟩ := hpipe hp'
    simp only [Pipe.made, Prod.mk.injEq] at hmade
    obtain ⟨hsource, hsink⟩ := h.pipe hp
    rw [hmade.1, hmade.2.1]
    exact ⟨hc.sources.issued hsource, hc.sinks.issued hsink⟩
  bridge hb' := by
    obtain ⟨bridge, hb, hmade⟩ := hbridge hb'
    simp only [Bridge.made, Prod.mk.injEq] at hmade
    obtain ⟨hsource, hsink⟩ := h.bridge hb
    rw [hmade.1, hmade.2.1]
    exact ⟨hc.sources.issued hsource, hc.sinks.issued hsink⟩
  readable hb' hs' := by
    obtain ⟨bridge, hb, hmade⟩ := hbridge hb'
    simp only [Bridge.made, Prod.mk.injEq] at hmade
    rw [hmade.1] at hs'
    obtain ⟨source, hs, hback⟩ := hc.sources.back (h.bridge hb).1 hs'
    exact hback.trans (h.readable hb hs)
  writable hb' hk' := by
    obtain ⟨bridge, hb, hmade⟩ := hbridge hb'
    simp only [Bridge.made, Prod.mk.injEq] at hmade
    rw [hmade.2.1] at hk'
    obtain ⟨sink, hk, hback⟩ := hc.sinks.back (h.bridge hb).2 hk'
    exact hback.trans (h.writable hb hk)

/-- A new pipe refers to streams that live. -/
theorem addPipe (h : streams.References) (wf : streams.WellFormed) {pipe : Pipe} {source : Source E}
    {sink : Sink E} (hs : streams.source? pipe.source = some source)
    (hk : streams.sink? pipe.destination = some sink) : (streams.addPipe pipe).2.References where
  pipe {name found} hp' := by
    have hinsert : (streams.addPipe pipe).2.pipe? name = _ := wf.pipes.get?_insert pipe name.key
    rw [hinsert] at hp'
    split at hp'
    · cases hp'
      exact ⟨SlotMap.issued_of_get? hs, SlotMap.issued_of_get? hk⟩
    · exact h.pipe hp'
  bridge := h.bridge
  readable := h.readable
  writable := h.writable

/-- A new bridge and its halves refer to each other. -/
theorem enterTransform (h : streams.References) (wf : streams.WellFormed)
    (transformer : Transformer E) :
    (Session.enterTransform transformer streams).2.References := by
  have hc := (GrowsTo.enterTransform transformer .refl).lasts wf
  have hbridge := bridge?_enterTransform wf transformer
  have hsource := source?_enterTransform wf transformer
  have hsink := sink?_enterTransform wf transformer
  refine ⟨fun hp => ?_, fun {name bridge} hb => ?_, fun {name bridge source} hb hs => ?_,
    fun {name bridge sink} hb hk => ?_⟩
  · rw [pipe?_congr (pipes_enterTransform transformer)] at hp
    exact ⟨hc.sources.issued (h.pipe hp).1, hc.sinks.issued (h.pipe hp).2⟩
  · rw [hbridge] at hb
    split at hb
    · cases hb
      exact ⟨SlotMap.issued_of_get? ((hsource _).trans (if_pos rfl)),
        SlotMap.issued_of_get? ((hsink _).trans (if_pos rfl))⟩
    · exact ⟨hc.sources.issued (h.bridge hb).1, hc.sinks.issued (h.bridge hb).2⟩
  · rw [hbridge] at hb
    split at hb
    · next he =>
      cases hb
      rw [hsource, if_pos rfl] at hs
      cases hs
      rw [he]
      rfl
    · obtain ⟨old, hold, hback⟩ := hc.sources.back (h.bridge hb).1 hs
      exact hback.trans (h.readable hb hold)
  · rw [hbridge] at hb
    split at hb
    · next he =>
      cases hb
      rw [hsink, if_pos rfl] at hk
      cases hk
      rw [he]
      rfl
    · obtain ⟨old, hold, hback⟩ := hc.sinks.back (h.bridge hb).2 hk
      exact hback.trans (h.writable hb hold)

theorem sweep (h : streams.References) (hages : streams.Ages streams.sweep.2) :
    streams.sweep.2.References := by
  refine h.later (.sweep hages) (fun hp => ?_) fun hb => ?_
  · rw [pipe?_sweep] at hp
    exact ⟨_, (Option.filter_eq_some_iff.mp hp).1, rfl⟩
  · rw [bridge?_sweep] at hb
    exact ⟨_, (Option.filter_eq_some_iff.mp hb).1, rfl⟩

theorem clear (h : streams.References) (hages : streams.Ages streams.clear) :
    streams.clear.References := by
  refine h.later (.clear hages) (fun hp => ?_) fun hb => ?_
  · cases hp.symm.trans (SlotMap.get?_clear _ _)
  · cases hb.symm.trans (SlotMap.get?_clear _ _)

end References

/-- By induction on the changes. -/
theorem GrowsTo.references (h : streams.GrowsTo streams') (wf : streams.WellFormed)
    (hr : streams.References) : streams'.References := by
  induction h with
  | refl => exact hr
  | number nextToken _ ih => exact ⟨ih.pipe, ih.bridge, ih.readable, ih.writable⟩
  | setSource hg hs hback ih =>
    exact ih.later ((GrowsTo.refl.setSource hs hback).lasts (hg.wellFormed wf))
      (fun hp => ⟨_, hp, rfl⟩) fun hb => ⟨_, hb, rfl⟩
  | setSink hg hk hback ih =>
    exact ih.later ((GrowsTo.refl.setSink hk hback).lasts (hg.wellFormed wf))
      (fun hp => ⟨_, hp, rfl⟩) fun hb => ⟨_, hb, rfl⟩
  | @setBridge between id bridge bridge' hg hb hmade ih =>
    refine ih.later ((GrowsTo.refl.setBridge hb hmade).lasts (hg.wellFormed wf))
      (fun hp => ⟨_, hp, rfl⟩) fun {name found} hfound => ?_
    rw [bridge?_setBridge] at hfound
    split at hfound
    · next he =>
      subst he
      rw [hb] at hfound
      cases hfound
      exact ⟨bridge, hb, hmade⟩
    · exact ⟨found, hfound, rfl⟩
  | @setPipe between id pipe pipe' hg hp hmade ih =>
    refine ih.later ((GrowsTo.refl.setPipe hp hmade).lasts (hg.wellFormed wf))
      (fun {name found} hfound => ?_) fun hb => ⟨_, hb, rfl⟩
    rw [pipe?_setPipe] at hfound
    split at hfound
    · next he =>
      subst he
      rw [hp] at hfound
      cases hfound
      exact ⟨pipe, hp, hmade⟩
    · exact ⟨found, hfound, rfl⟩
  | addSource hg hnative ih =>
    exact ih.later ((GrowsTo.refl.addSource hnative).lasts (hg.wellFormed wf))
      (fun hp => ⟨_, hp, rfl⟩) fun hb => ⟨_, hb, rfl⟩
  | addSink hg hnative ih =>
    exact ih.later ((GrowsTo.refl.addSink hnative).lasts (hg.wellFormed wf))
      (fun hp => ⟨_, hp, rfl⟩) fun hb => ⟨_, hb, rfl⟩
  | enterTransform transformer hg ih => exact ih.enterTransform (hg.wellFormed wf) transformer
  | addPipe hg hs hk ih => exact ih.addPipe (hg.wellFormed wf) hs hk

end Registry

end EdgeStreams
