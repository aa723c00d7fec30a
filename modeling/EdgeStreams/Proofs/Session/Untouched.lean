import EdgeStreams.Proofs.Session.Controller
import EdgeStreams.Proofs.Session.Locking

/-!
# Sources that nobody has read

A source over a host body or a guest that has been neither read nor piped nor cancelled is as it was
made. Nothing but a bridge could have changed it, and bridges lead into the readable halves of
transform streams only.

## Main definitions

- `Source.Untouched`: the source is as it was made
- `Registry.Pristine`: all sources that nobody has read are

## Main statements

- `Registry.Pristine.setSource` and its like: what each change of a registry keeps
- `Session.ChangesWithin.pristine`, `Session.MovesTo.pristine`: what the work on streams keeps
-/

namespace EdgeStreams

variable {H E : Type}

/-- The source is the readable half of a transform stream. -/
def Source.IsTransform (source : Source E) : Prop := ∃ bridge, source.backing = .transform bridge

/-- The source is as it was made. A guest may have failed, or have added chunks, at its start. -/
structure Source.Untouched (source : Source E) : Prop where
  started : source.start = .resolved
  uncanceled : source.canceled = false
  resting : source.pulling = false
  unasked : source.pullAgain = false
  controller : (∃ error, source.controller.state = .errored error) ∨
    source.controller.Sound ∧ (source.controller.IsOpen ∨ source.controller.HasEnded)
  body : ∀ handle size, source.backing = .body handle size →
    0 < size ∧ source.controller.IsOpen ∧ source.controller.queue = []

/-- The source has been locked or unlocked, owned or let go of, or marked as disturbed. -/
structure Source.Alike (source source' : Source E) : Prop where
  backing : source'.backing = source.backing
  controller : source'.controller = source.controller
  start : source'.start = source.start
  canceled : source'.canceled = source.canceled
  pulling : source'.pulling = source.pulling
  pullAgain : source'.pullAgain = source.pullAgain
  disturbed : source.disturbed = true → source'.disturbed = true

theorem Source.Untouched.alike {source source' : Source E} (h : source.Untouched)
    (ha : source.Alike source') : source'.Untouched := by
  refine ⟨ha.start.trans h.started, ha.canceled.trans h.uncanceled, ha.pulling.trans h.resting,
    ha.pullAgain.trans h.unasked, ?_, ?_⟩
  · rw [ha.controller]
    exact h.controller
  · rw [ha.controller, ha.backing]
    exact h.body

namespace Registry

/-- Bridges lead into the readable halves of transform streams only, and every other source that
nobody has read is as it was made. -/
structure Pristine (streams : Registry E) : Prop where
  size : 0 < streams.config.bodyChunkSize
  joins : ∀ id, streams.Joins id → streams.sources.Issued id.key ∧
    ∀ source, streams.source? id = some source → source.IsTransform
  untouched : ∀ id source, streams.source? id = some source → source.disturbed = false →
    source.IsTransform ∨ source.Untouched

theorem pristine_new (config : StreamConfig) : (new config : Registry E).Pristine where
  size := UInt64.max_one_pos _
  joins := by
    rintro id ⟨name, bridge, hb, -⟩
    cases hb.symm.trans (SlotMap.get?_empty name.key)
  untouched id source hs := by cases hs.symm.trans (SlotMap.get?_empty id.key)

variable {streams streams' : Registry E}

namespace Pristine

/-- A source over a host body that nobody has read is as it was made. -/
theorem untouched_body (h : streams.Pristine) {id : ReadableId} {source : Source E}
    (hs : streams.source? id = some source) {handle : BodyHandle} {size : UInt64}
    (hback : source.backing = .body handle size) (hunread : source.disturbed = false) :
    source.Untouched := by
  rcases h.untouched id source hs hunread with ⟨bridge, hbridge⟩ | huntouched
  · cases hback.symm.trans hbridge
  · exact huntouched

/-- A change that concerns neither sources nor bridges. -/
theorem of_eq (h : streams.Pristine) (hs : streams'.sources = streams.sources)
    (hb : streams'.bridges = streams.bridges) (hc : streams'.config = streams.config) :
    streams'.Pristine where
  size := hc ▸ h.size
  joins id hj := by
    obtain ⟨name, bridge, hbridge, he⟩ := hj
    have hsource : streams'.source? id = streams.source? id := by rw [source?, hs]; rfl
    rw [hs, hsource]
    exact h.joins id ⟨name, bridge, by rwa [bridge?, hb] at hbridge, he⟩
  untouched id source hsource := h.untouched id source (by rwa [source?, hs] at hsource)

/-- A source has been locked or unlocked, owned or let go of, or marked as disturbed. -/
theorem setSource (h : streams.Pristine) {id : ReadableId} {source source' : Source E}
    (hs : streams.source? id = some source) (ha : source.IsTransform ∨ source.Alike source')
    (hback : source'.backing = source.backing) :
    (streams.setSource id source').Pristine where
  size := h.size
  joins other hj := by
    obtain ⟨hissued, htransform⟩ := h.joins other hj
    refine ⟨hissued.of_outline (SlotMap.outline_set _ _ _), fun found hfound => ?_⟩
    rw [source?_setSource] at hfound
    split at hfound
    · next he =>
      rw [hs, Option.map_some, Option.some.injEq] at hfound
      subst he hfound
      obtain ⟨bridge, hbridge⟩ := htransform source hs
      exact ⟨bridge, hback.trans hbridge⟩
    · exact htransform found hfound
  untouched other found hfound hd := by
    rw [source?_setSource] at hfound
    split at hfound
    · next he =>
      rw [hs, Option.map_some, Option.some.injEq] at hfound
      subst he hfound
      rcases ha with ⟨bridge, hbridge⟩ | ha
      · exact .inl ⟨bridge, hback.trans hbridge⟩
      · have hd' : source.disturbed = false := by
          cases hdisturbed : source.disturbed with
          | false => rfl
          | true => exact absurd (ha.disturbed hdisturbed) (by simp [hd])
        rcases h.untouched other source hs hd' with ⟨bridge, hbridge⟩ | huntouched
        · exact .inl ⟨bridge, hback.trans hbridge⟩
        · exact .inr (huntouched.alike ha)
    · exact h.untouched other found hfound hd

theorem alike (h : streams.Pristine) {id : ReadableId} {source source' : Source E}
    (hs : streams.source? id = some source) (ha : source.Alike source') :
    (streams.setSource id source').Pristine := h.setSource hs (.inr ha) ha.backing

theorem modifySource (h : streams.Pristine) (id : ReadableId) {f : Source E → Source E}
    (ha : ∀ source : Source E, source.Alike (f source)) : (streams.modifySource id f).Pristine := by
  unfold Registry.modifySource
  cases hs : streams.source? id with
  | none => exact h
  | some source => exact h.alike hs (ha source)

theorem modifySink (h : streams.Pristine) (id : WritableId) (f : Sink E → Sink E) :
    (streams.modifySink id f).Pristine := by
  unfold Registry.modifySink
  split
  · exact h.of_eq rfl rfl rfl
  · exact h

theorem releaseReader (h : streams.Pristine) (id : ReadableId) (token : ReaderToken) :
    (quietly (Registry.releaseReader id token) streams).Pristine := by
  rw [quietly_releaseReader]
  cases hs : streams.source? id with
  | none => exact h
  | some source =>
    by_cases hl : source.readerLock = some token
    · simp only [hl, if_true, unlockReader]
      exact h.alike hs ⟨rfl, rfl, rfl, rfl, rfl, rfl, fun h => h⟩
    · simpa only [hl, if_false] using h

theorem releaseWriter (h : streams.Pristine) (id : WritableId) (token : WriterToken) :
    (quietly (Registry.releaseWriter id token) streams).Pristine := by
  rw [quietly_releaseWriter]
  repeat' split
  all_goals exact h.of_eq rfl rfl rfl

/-! ### New streams -/

theorem addSource (h : streams.Pristine) (wf : streams.WellFormed) {source : Source E}
    (hs : source.Untouched) : (streams.addSource source).2.Pristine where
  size := h.size
  joins id hj := by
    obtain ⟨hissued, htransform⟩ := h.joins id hj
    refine ⟨hissued.insert wf.sources source, fun found hfound => ?_⟩
    -- the name of the source is new
    rw [source?_addSource wf, if_neg] at hfound
    · exact htransform found hfound
    · rintro rfl
      refine hissued.ne_nextKey wf.sources ?_
      simp [Registry.addSource]
  untouched id found hfound hd := by
    rw [source?_addSource wf] at hfound
    split at hfound
    · cases hfound
      exact .inr hs
    · exact h.untouched id found hfound hd

theorem enterTransform (h : streams.Pristine) (wf : streams.WellFormed)
    (transformer : Transformer E) :
    (Session.enterTransform transformer streams).2.Pristine := by
  have hsource := source?_enterTransform wf transformer
  have hbridge := bridge?_enterTransform wf transformer
  have hissued : ∀ key, streams.sources.Issued key →
      (Session.enterTransform transformer streams).2.sources.Issued key := fun key hk => by
    rw [enterTransform_eq]
    exact hk.insert wf.sources _
  have hname : (Session.enterTransform transformer streams).1.readable.key =
      streams.sources.nextKey := by
    rw [enterTransform_eq]
  refine ⟨by rw [config_enterTransform]; exact h.size, ?_, fun id found hfound hd => ?_⟩
  · rintro id ⟨name, bridge, hb, rfl⟩
    rw [hbridge] at hb
    split at hb
    · cases hb
      refine ⟨SlotMap.issued_of_get? ((hsource _).trans (if_pos rfl)), fun found hfound => ?_⟩
      rw [hsource, if_pos rfl] at hfound
      cases hfound
      exact ⟨_, rfl⟩
    · obtain ⟨hold, htransform⟩ := h.joins bridge.readable ⟨name, bridge, hb, rfl⟩
      refine ⟨hissued _ hold, fun found hfound => ?_⟩
      rw [hsource, if_neg] at hfound
      · exact htransform found hfound
      · intro he
        exact hold.ne_nextKey wf.sources ((congrArg EntryId.key he).trans hname)
  · rw [hsource] at hfound
    split at hfound
    · cases hfound
      exact .inl ⟨_, rfl⟩
    · exact h.untouched id found hfound hd

/-! ### Taking entries out -/

theorem sweep (h : streams.Pristine) (hages : streams.sources.Ages streams.sweep.2.sources) :
    streams.sweep.2.Pristine where
  size := h.size
  joins id hj := by
    obtain ⟨name, bridge, hb, he⟩ := hj
    rw [bridge?_sweep] at hb
    obtain ⟨hissued, htransform⟩ :=
      h.joins id ⟨name, bridge, (Option.filter_eq_some_iff.mp hb).1, he⟩
    refine ⟨hissued.retain (fun _ source => !(source.released && source.readerLock.isNone)) hages,
      fun source hs => ?_⟩
    rw [source?_sweep] at hs
    exact htransform source (Option.filter_eq_some_iff.mp hs).1
  untouched id source hs := by
    rw [source?_sweep] at hs
    exact h.untouched id source (Option.filter_eq_some_iff.mp hs).1

theorem clear (h : streams.Pristine) : streams.clear.Pristine where
  size := h.size
  joins := by
    rintro id ⟨name, bridge, hb, -⟩
    cases hb.symm.trans (SlotMap.get?_clear streams.bridges name.key)
  untouched id source hs := by cases hs.symm.trans (SlotMap.get?_clear streams.sources id.key)

/-! ### Pipes -/

theorem finishPipe (h : streams.Pristine) (id : PipeId) (state : PipeState) :
    (streams.finishPipe id state).Pristine := by
  unfold Registry.finishPipe
  cases streams.pipe? id with
  | none => exact h
  | some pipe =>
    simp only
    split
    · have hset : (streams.setPipe id { pipe with state }).Pristine := h.of_eq rfl rfl rfl
      exact ((hset.releaseReader _ _).releaseWriter _ _).modifySource _
        fun _ => ⟨rfl, rfl, rfl, rfl, rfl, rfl, fun h => h⟩
    · exact h

/-- A pipe has locked both its ends, and marks its source as disturbed. -/
theorem openPipe (h : streams.Pristine) (r : ReadableId) (w : WritableId) (options : PipeOptions) :
    (exec (Registry.openPipe r w options) streams).2.Pristine := by
  rcases exec_openPipe_cases streams r w options with
    ⟨source, sink, hs, -, -, -, hopen⟩ | ⟨error, streams', hopen, hgives⟩
  · rw [hopen]
    let locked : Registry E := { streams with nextToken := streams.nextToken + 2 }.setSink w
      { sink with writerLock := some ⟨streams.nextToken + 1⟩ }
    have hlocked : locked.Pristine := h.of_eq rfl rfl rfl
    have hpiped : (locked.setSource r { source with
        readerLock := some ⟨streams.nextToken⟩
        pipedTo := some w
        disturbed := true }).Pristine :=
      hlocked.alike hs ⟨rfl, rfl, rfl, rfl, rfl, rfl, fun _ => rfl⟩
    exact hpiped.of_eq rfl rfl rfl
  · rw [hopen]
    cases hgives with
    | refused => exact h
    | @unlocked source hs _ =>
      have hnumbered : ({ streams with nextToken := streams.nextToken + 1 } :
          Registry E).Pristine :=
        h.of_eq rfl rfl rfl
      have hlocked : (streams.readerLocked r source).Pristine :=
        hnumbered.alike hs ⟨rfl, rfl, rfl, rfl, rfl, rfl, fun h => h⟩
      exact hlocked.releaseReader _ _

end Pristine

end Registry

namespace Session

variable [Host H] {s t : Session H E} {f : Footprint}

/-- Work on streams reads no source without marking it as disturbed. -/
theorem ChangesWithin.pristine (h : ChangesWithin f s t) (hp : s.streams.Pristine) :
    t.streams.Pristine where
  size := h.config_eq ▸ hp.size
  joins id hj := by
    obtain ⟨hissued, htransform⟩ := hp.joins id (h.joins_iff.mp hj)
    refine ⟨hissued.of_outline h.outline_sources, fun source' ht => ?_⟩
    obtain ⟨source, hs, hk⟩ := h.source_before ht
    obtain ⟨bridge, hb⟩ := htransform source hs
    exact ⟨bridge, hk.backing.trans hb⟩
  untouched id source' ht hd := by
    by_cases hj : s.streams.Joins id
    · obtain ⟨source, hs, hk⟩ := h.source_before ht
      obtain ⟨bridge, hb⟩ := (hp.joins id hj).2 source hs
      exact .inl ⟨bridge, hk.backing.trans hb⟩
    · exact hp.untouched id source' (h.source?_undisturbed ht hd hj) hd

/-- By induction on the moves. -/
theorem MovesTo.pristine (h : MovesTo s t) (hp : s.streams.Pristine) : t.streams.Pristine := by
  induction h with
  | refl => exact hp
  | touch _ ht ih => exact ht.pristine ih
  | note _ _ ih => exact ih
  | drive _ _ _ ih => exact ih.of_eq rfl rfl rfl
  | finish id _ _ ih => exact ih.finishPipe id _

/-! ### Operations that make new entries -/

omit [Host H] in
theorem pristine_bodySource (hp : s.streams.Pristine) (wf : s.streams.WellFormed)
    (handle : BodyHandle) : (s.streams.bodySource handle).2.Pristine := by
  refine hp.addSource wf ⟨rfl, rfl, rfl, rfl, .inr ⟨.empty _, .inl ⟨rfl, rfl⟩⟩, ?_⟩
  intro _ _ hback
  cases hback
  exact ⟨hp.size, ⟨rfl, rfl⟩, rfl⟩

omit [Host H] in
/-- A guest may add chunks at its start, and may fail. -/
theorem startedController_sound (guest : UnderlyingSource E) (highWaterMark : UInt64) (env : E) :
    (∃ error, (startedController guest highWaterMark env).state = .errored error) ∨
      (startedController guest highWaterMark env).Sound ∧
        ((startedController guest highWaterMark env).IsOpen ∨
          (startedController guest highWaterMark env).HasEnded) := by
  have hopen : ReadableController.IsOpen { highWaterMark } := ⟨rfl, rfl⟩
  have hfed := ReadableController.fed_run (guest.start env) (.empty highWaterMark) hopen
  unfold startedController
  generalize (guest.start env).run SourceDesk.perform { controller := { highWaterMark } } = started
    at hfed
  obtain ⟨⟨result, env'⟩, desk⟩ := started
  have hcontroller : (∃ error, desk.controller.state = .errored error) ∨
      desk.controller.Sound ∧ (desk.controller.IsOpen ∨ desk.controller.HasEnded) :=
    hfed.outcome.imp_right fun ⟨hsound, _, hstate⟩ => ⟨hsound, hstate⟩
  cases result with
  | ok => exact hcontroller
  | error error =>
    simp only [ReadableController.error]
    cases hstate : desk.controller.state with
    | readable => exact .inl ⟨error, rfl⟩
    | closed | errored => exact hcontroller

omit [Host H] in
theorem pristine_scriptSource (hp : s.streams.Pristine) (wf : s.streams.WellFormed)
    (guest : UnderlyingSource E) (highWaterMark : UInt64) :
    ((scriptSource guest highWaterMark : Step H E ReadableId) s).2.streams.Pristine := by
  rw [streams_scriptSource]
  exact hp.addSource wf
    ⟨rfl, rfl, rfl, rfl, startedController_sound guest highWaterMark s.env, nofun⟩

omit [Host H] in
/-- A start is settled only at the readable half of a transform stream. -/
theorem pristine_settleStart {streams : Registry E} (hp : streams.Pristine)
    {stream : TransformStream} (hj : streams.Joins stream.readable)
    (settle : StartState → StartState) : (settleStart stream settle streams).Pristine := by
  refine Registry.Pristine.modifySink ?_ _ _
  unfold Registry.modifySource
  cases hs : streams.source? stream.readable with
  | none => exact hp
  | some source => exact hp.setSource hs (.inl ((hp.joins _ hj).2 source hs)) rfl

omit [Host H] in
theorem pristine_settleTransform {streams : Registry E} (hp : streams.Pristine)
    {stream : TransformStream} (hj : streams.Joins stream.readable)
    (result : Except StreamError Unit) : (settleTransform stream result streams).Pristine := by
  cases result with
  | ok => exact pristine_settleStart hp hj _
  | error error => exact (pristine_settleStart hp hj _).modifySink _ _

theorem pristine_createTransform (hp : s.streams.Pristine) (wf : s.streams.WellFormed)
    (transformer : Transformer E) :
    ((createTransform transformer : Step H E TransformStream) s).2.streams.Pristine := by
  obtain ⟨f, result, started, hstarted, hrun⟩ := createTransform_run transformer s
  rw [hrun]
  have hentered := hp.enterTransform wf transformer
  have hj := hstarted.joins_iff.mpr
    ⟨_, _, (Registry.bridge?_enterTransform wf transformer _).trans (if_pos rfl), rfl⟩
  exact pristine_settleTransform (hstarted.pristine hentered) hj _

theorem pristine_pipeTo {fuel : Nat} {source : ReadableId} {destination : WritableId}
    {options : PipeOptions} {r : Except StreamError PipeId × Session H E}
    (hp : s.streams.Pristine)
    (h : attempt (pipeTo fuel source destination options) s = some r) : r.2.streams.Pristine :=
  (movesTo_pipeTo h).pristine (hp.openPipe source destination options)

end Session

end EdgeStreams
