import EdgeStreams.Proofs.Client.Basic
import EdgeStreams.Proofs.Session.Flowing

/-!
# Changes of the registry besides deeds

Streams are made and taken out, locks are taken and given back, and owners come and go. None of this
asks anything of a source or a sink: what lives is as it was, and what is made has nothing to do
yet.

## Main definitions

- `Source.Turnover`, `Sink.Turnover`: what becomes of an entry
- `Session.Turnover`: such a change of a session

## Main statements

- `Registry.Turnover.sweep`, `Registry.Turnover.openPipe`, `Session.turnover_createTransform` and
  their like: each kind of change
-/

namespace EdgeStreams

variable {H E : Type}

/-! ### Entries -/

/-- The source is as it was, but for its lock, its owner and its mark. -/
structure Source.Same (source source' : Source E) : Prop where
  backing : source'.backing = source.backing
  controller : source'.controller = source.controller
  start : source'.start = source.start
  pulling : source'.pulling = source.pulling
  pullAgain : source'.pullAgain = source.pullAgain
  canceled : source'.canceled = source.canceled

/-- The source has just been made. -/
structure Source.IsNew (source : Source E) : Prop where
  started : source.start ≠ .pending
  pulling : source.pulling = false
  pullAgain : source.pullAgain = false
  canceled : source.canceled = false
  /-- No host body has been read yet. -/
  unread : ∀ {handle size}, source.backing = .body handle size → source.controller.queue = []

/-- What becomes of a source. -/
inductive Source.Turnover : Option (Source E) → Option (Source E) → Prop
  | kept {source source' : Source E} : source.Same source' → Turnover (some source) (some source')
  | gone (old : Option (Source E)) : Turnover old none
  | made {source : Source E} : source.IsNew → Turnover none (some source)

/-- The sink is as it was, but for its lock and its owner. -/
structure Sink.Same (sink sink' : Sink E) : Prop where
  backing : sink'.backing = sink.backing
  controller : sink'.controller = sink.controller
  start : sink'.start = sink.start

/-- What becomes of a sink. -/
inductive Sink.Turnover : Option (Sink E) → Option (Sink E) → Prop
  | kept {sink sink' : Sink E} : sink.Same sink' → Turnover (some sink) (some sink')
  | gone (old : Option (Sink E)) : Turnover old none
  | made {sink : Sink E} : sink.Idle → Turnover none (some sink)

namespace Source

theorem Same.refl (source : Source E) : source.Same source := ⟨rfl, rfl, rfl, rfl, rfl, rfl⟩

theorem Turnover.of_rel {old new : Option (Source E)} (h : Option.Rel Same old new) :
    Turnover old new := by
  cases h with
  | none => exact .gone _
  | some h => exact .kept h

theorem Turnover.filter (found : Option (Source E)) (keep : Source E → Bool) :
    Turnover found (found.filter keep) := by
  cases found with
  | none => exact .gone _
  | some source =>
    rw [Option.filter_some]
    split
    · exact .kept (.refl source)
    · exact .gone _

end Source

namespace Sink

theorem Same.refl (sink : Sink E) : sink.Same sink := ⟨rfl, rfl, rfl⟩

theorem Same.idle {sink sink' : Sink E} (h : sink.Same sink') (hi : sink.Idle) : sink'.Idle := by
  obtain ⟨-, hcontroller, hstart⟩ := h
  exact ⟨hcontroller ▸ hi.pending, hcontroller ▸ hi.inFlight, hcontroller ▸ hi.abortRequested,
    hcontroller ▸ hi.unending, fun hs => hstart.trans (hi.started (hcontroller ▸ hs))⟩

theorem Turnover.of_rel {old new : Option (Sink E)} (h : Option.Rel Same old new) :
    Turnover old new := by
  cases h with
  | none => exact .gone _
  | some h => exact .kept h

theorem Turnover.filter (found : Option (Sink E)) (keep : Sink E → Bool) :
    Turnover found (found.filter keep) := by
  cases found with
  | none => exact .gone _
  | some sink =>
    rw [Option.filter_some]
    split
    · exact .kept (.refl sink)
    · exact .gone _

end Sink

/-! ### Registries -/

/-- What becomes of a registry besides deeds. -/
structure Registry.Turnover (streams streams' : Registry E) : Prop where
  source : ∀ id, Source.Turnover (streams.source? id) (streams'.source? id)
  sink : ∀ id, Sink.Turnover (streams.sink? id) (streams'.sink? id)
  /-- Only a new bridge has another readable half than before, and that is new, too. -/
  bridge : ∀ {name bridge}, streams'.bridge? name = some bridge →
    (∃ old, streams.bridge? name = some old ∧ old.readable = bridge.readable) ∨
      streams.source? bridge.readable = none ∧
        ∃ source, streams'.source? bridge.readable = some source ∧ source.IsTransform
  pipe : ∀ {id pipe'}, streams'.pipe? id = some pipe' →
    pipe'.pumping = false ∨ ∃ pipe, streams.pipe? id = some pipe ∧ pipe'.pumping = pipe.pumping
  composed : streams.Composed → streams'.Composed

namespace Registry

variable {streams streams' : Registry E}

/-- A new native source keeps every half with its bridge. -/
theorem Composed.turnover (h : streams.Composed)
    (hs : ∀ id, Source.Turnover (streams.source? id) (streams'.source? id))
    (hk : ∀ id, Sink.Turnover (streams.sink? id) (streams'.sink? id))
    (hreadable : ∀ {id source name}, streams'.source? id = some source →
      source.backing = .transform name →
        ∃ bridge, streams'.bridge? name = some bridge ∧ bridge.readable = id)
    (hwritable : ∀ {id sink name}, streams'.sink? id = some sink → sink.backing = .transform name →
      ∃ bridge, streams'.bridge? name = some bridge ∧ bridge.writable = id) :
      streams'.Composed where
  readable := hreadable
  writable := hwritable
  idle {id sink} hsink := by
    have hshift := hk id
    rw [hsink] at hshift
    generalize hold : streams.sink? id = old at hshift
    cases hshift with
    | kept hsame => exact hsame.idle (h.idle hold)
    | made hidle => exact hidle
  asked {id source} hsource ha := by
    have hshift := hs id
    rw [hsource] at hshift
    generalize hold : streams.source? id = old at hshift
    cases hshift with
    | kept hsame =>
      rw [hsame.pulling]
      exact h.asked hold (hsame.pullAgain ▸ ha)
    | made hnew => exact absurd ha (by simp [hnew.pullAgain])
  native {id source} hsource hn := by
    have hshift := hs id
    rw [hsource] at hshift
    generalize hold : streams.source? id = old at hshift
    cases hshift with
    | kept hsame =>
      rw [hsame.pulling]
      refine h.native hold fun ⟨name, hname⟩ => hn ⟨name, hsame.backing.trans hname⟩
    | made hnew => exact hnew.pulling

namespace Turnover

/-- Every entry is as it was. -/
theorem of_kept (hs : ∀ id, Option.Rel Source.Same (streams.source? id) (streams'.source? id))
    (hk : ∀ id, Option.Rel Sink.Same (streams.sink? id) (streams'.sink? id))
    (hb : ∀ id, streams'.bridge? id = streams.bridge? id)
    (hp : ∀ {id pipe'}, streams'.pipe? id = some pipe' →
      pipe'.pumping = false ∨ ∃ pipe, streams.pipe? id = some pipe ∧ pipe'.pumping = pipe.pumping) :
    streams.Turnover streams' where
  source id := .of_rel (hs id)
  sink id := .of_rel (hk id)
  bridge {name bridge} h := .inl ⟨bridge, hb name ▸ h, rfl⟩
  pipe := hp
  composed h := by
    refine h.turnover (fun id => .of_rel (hs id)) (fun id => .of_rel (hk id))
      (fun {id source name} hsource hback => ?_) fun {id sink name} hsink hback => ?_
    · obtain ⟨old, hold, hsame⟩ := SlotMap.rel_some_right (hsource ▸ hs id)
      rw [hb]
      exact h.readable hold (hsame.backing ▸ hback)
    · obtain ⟨old, hold, hsame⟩ := SlotMap.rel_some_right (hsink ▸ hk id)
      rw [hb]
      exact h.writable hold (hsame.backing ▸ hback)

theorem pipe_of_eq (h : streams'.pipes = streams.pipes) {id : PipeId} {pipe' : Pipe}
    (hp : streams'.pipe? id = some pipe') :
    pipe'.pumping = false ∨ ∃ pipe, streams.pipe? id = some pipe ∧ pipe'.pumping = pipe.pumping :=
  .inr ⟨pipe', (pipe?_congr h id).symm.trans hp, rfl⟩

/-- The registry is as it was, but for its entries' rest. -/
theorem refl (streams : Registry E) : streams.Turnover streams :=
  of_kept (fun _ => SlotMap.rel_refl Source.Same.refl _)
    (fun _ => SlotMap.rel_refl Sink.Same.refl _)
    (fun _ => rfl) (pipe_of_eq rfl)

theorem modifySource (id : ReadableId) {f : Source E → Source E}
    (h : ∀ source : Source E, source.Same (f source)) :
    streams.Turnover (streams.modifySource id f) := by
  refine of_kept (fun other => ?_) (fun other => ?_) (fun other => bridge?_modifySource _ _ _ _)
    (pipe_of_eq (pipes_modifySource _ _ _))
  · rw [source?_modifySource]
    split
    · next he => exact he ▸ SlotMap.rel_map h _
    · exact SlotMap.rel_refl Source.Same.refl _
  · rw [sink?_modifySource]
    exact SlotMap.rel_refl Sink.Same.refl _

theorem modifySink (id : WritableId) {f : Sink E → Sink E}
    (h : ∀ sink : Sink E, sink.Same (f sink)) : streams.Turnover (streams.modifySink id f) := by
  refine of_kept (fun other => ?_) (fun other => ?_) (fun other => bridge?_modifySink _ _ _ _)
    (pipe_of_eq (pipes_modifySink _ _ _))
  · rw [source?_modifySink]
    exact SlotMap.rel_refl Source.Same.refl _
  · rw [sink?_modifySink]
    split
    · next he => exact he ▸ SlotMap.rel_map h _
    · exact SlotMap.rel_refl Sink.Same.refl _

theorem releaseReadable (id : ReadableId) : streams.Turnover (streams.releaseReadable id) :=
  modifySource id fun _ => ⟨rfl, rfl, rfl, rfl, rfl, rfl⟩

theorem releaseWritable (id : WritableId) : streams.Turnover (streams.releaseWritable id) :=
  modifySink id fun _ => ⟨rfl, rfl, rfl⟩

theorem releaseTransform (stream : TransformStream) :
    streams.Turnover (streams.releaseTransform stream) := by
  refine of_kept (fun id => ?_) (fun id => ?_) (fun id => ?_) (pipe_of_eq ?_)
  · rw [Registry.releaseTransform, Registry.releaseWritable, source?_modifySink,
      Registry.releaseReadable, source?_modifySource]
    split
    · next he => exact he ▸ SlotMap.rel_map (fun _ => ⟨rfl, rfl, rfl, rfl, rfl, rfl⟩) _
    · exact SlotMap.rel_refl Source.Same.refl _
  · rw [Registry.releaseTransform, Registry.releaseWritable, sink?_modifySink,
      Registry.releaseReadable, sink?_modifySource]
    split
    · next he => exact he ▸ SlotMap.rel_map (fun _ => ⟨rfl, rfl, rfl⟩) _
    · rw [sink?_modifySource]
      exact SlotMap.rel_refl Sink.Same.refl _
  · rw [Registry.releaseTransform, Registry.releaseWritable, bridge?_modifySink,
      Registry.releaseReadable, bridge?_modifySource]
  · rw [Registry.releaseTransform, Registry.releaseWritable, pipes_modifySink,
      Registry.releaseReadable, pipes_modifySource]

/-! ### New streams -/

theorem addSource (wf : streams.WellFormed) {source : Source E} (hnew : source.IsNew)
    (hn : ¬ source.IsTransform) : streams.Turnover (streams.addSource source).2 := by
  have hsource : ∀ id, Source.Turnover (streams.source? id)
      ((streams.addSource source).2.source? id) := by
    intro id
    rw [source?_addSource wf]
    split
    · next he =>
      rw [he, source?_addSource_fst wf source]
      exact .made hnew
    · exact .of_rel (SlotMap.rel_refl Source.Same.refl _)
  have hsink : ∀ id, Sink.Turnover (streams.sink? id) ((streams.addSource source).2.sink? id) :=
    fun id => .of_rel (SlotMap.rel_refl Sink.Same.refl _)
  refine ⟨hsource, hsink, fun h => .inl ⟨_, h, rfl⟩, pipe_of_eq rfl, fun hc => ?_⟩
  refine hc.turnover hsource hsink (fun {id found name} hfound hback => ?_) fun hfound hback =>
    hc.writable hfound hback
  rw [source?_addSource wf] at hfound
  split at hfound
  · cases hfound
    exact absurd ⟨name, hback⟩ hn
  · exact hc.readable hfound hback

theorem addSink (wf : streams.WellFormed) {sink : Sink E} (hidle : sink.Idle)
    (hn : ∀ name, sink.backing ≠ .transform name) : streams.Turnover (streams.addSink sink).2 := by
  have hsource : ∀ id, Source.Turnover (streams.source? id) ((streams.addSink sink).2.source? id) :=
    fun id => .of_rel (SlotMap.rel_refl Source.Same.refl _)
  have hsink : ∀ id, Sink.Turnover (streams.sink? id) ((streams.addSink sink).2.sink? id) := by
    intro id
    rw [sink?_addSink wf]
    split
    · next he =>
      rw [he, sink?_addSink_fst wf sink]
      exact .made hidle
    · exact .of_rel (SlotMap.rel_refl Sink.Same.refl _)
  refine ⟨hsource, hsink, fun h => .inl ⟨_, h, rfl⟩, pipe_of_eq rfl, fun hc => ?_⟩
  refine hc.turnover hsource hsink (fun hfound hback => hc.readable hfound hback)
    fun {id found name} hfound hback => ?_
  rw [sink?_addSink wf] at hfound
  split at hfound
  · cases hfound
    exact absurd hback (hn name)
  · exact hc.writable hfound hback

/-! ### Taking entries out -/

/-- A sweep takes out no bridge of which a half stays. -/
theorem sweep : streams.Turnover streams.sweep.2 := by
  have hsource : ∀ id, Source.Turnover (streams.source? id) (streams.sweep.2.source? id) :=
    fun id => by
    rw [source?_sweep]
    exact .filter _ _
  have hsink : ∀ id, Sink.Turnover (streams.sink? id) (streams.sweep.2.sink? id) := fun id => by
    rw [sink?_sweep]
    exact .filter _ _
  refine ⟨hsource, hsink, fun {name bridge} h => ?_, fun {id pipe} h => ?_, fun hc => ?_⟩
  · rw [bridge?_sweep] at h
    exact .inl ⟨bridge, (Option.filter_eq_some_iff.mp h).1, rfl⟩
  · rw [pipe?_sweep] at h
    exact .inr ⟨pipe, (Option.filter_eq_some_iff.mp h).1, rfl⟩
  · refine hc.turnover hsource hsink (fun {id source name} hs hback => ?_)
      fun {id sink name} hk hback => ?_
    · have hbefore := hs
      rw [source?_sweep] at hbefore
      obtain ⟨bridge, hb, rfl⟩ := hc.readable (Option.filter_eq_some_iff.mp hbefore).1 hback
      refine ⟨bridge, ?_, rfl⟩
      rw [bridge?_sweep, Option.filter_eq_some_iff]
      exact ⟨hb, by simp [containsReadable, hs]⟩
    · have hbefore := hk
      rw [sink?_sweep] at hbefore
      obtain ⟨bridge, hb, rfl⟩ := hc.writable (Option.filter_eq_some_iff.mp hbefore).1 hback
      refine ⟨bridge, ?_, rfl⟩
      rw [bridge?_sweep, Option.filter_eq_some_iff]
      exact ⟨hb, by simp [containsWritable, hk]⟩

theorem clear : streams.Turnover streams.clear := by
  have hsource : ∀ id, streams.clear.source? id = none := fun id => SlotMap.get?_clear _ _
  have hsink : ∀ id, streams.clear.sink? id = none := fun id => SlotMap.get?_clear _ _
  have hbridge : ∀ id, streams.clear.bridge? id = none := fun id => SlotMap.get?_clear _ _
  have hpipe : ∀ id, streams.clear.pipe? id = none := fun id => SlotMap.get?_clear _ _
  refine ⟨fun id => hsource id ▸ .gone _, fun id => hsink id ▸ .gone _, fun {name bridge} h => ?_,
    fun {id pipe} h => ?_, fun _ => ?_⟩
  · simp [hbridge] at h
  · simp [hpipe] at h
  · constructor
    all_goals
      intros
      simp_all

/-! ### Locks and pipes -/

theorem getReader (id : ReadableId) :
    streams.Turnover (exec (Registry.getReader id) streams).2 := by
  cases hs : streams.source? id with
  | none => simpa [Registry.getReader, exec_bind, hs] using refl streams
  | some source =>
    cases hl : source.readerLock with
    | some token => simpa [Registry.getReader, exec_bind, hs, hl] using refl streams
    | none =>
      rw [exec_getReader streams hs hl]
      refine of_kept (fun other => ?_) (fun other => SlotMap.rel_refl Sink.Same.refl _)
        (fun _ => rfl) (pipe_of_eq rfl)
      rw [source?_setSource]
      split
      · next he =>
        change Option.Rel _ _ ((streams.source? id).map _)
        rw [he, hs]
        exact .some ⟨rfl, rfl, rfl, rfl, rfl, rfl⟩
      · exact SlotMap.rel_refl Source.Same.refl _

theorem getWriter (id : WritableId) :
    streams.Turnover (exec (Registry.getWriter id) streams).2 := by
  cases hs : streams.sink? id with
  | none => simpa [Registry.getWriter, exec_bind, hs] using refl streams
  | some sink =>
    cases hl : sink.writerLock with
    | some token => simpa [Registry.getWriter, exec_bind, hs, hl] using refl streams
    | none =>
      rw [exec_getWriter streams hs hl]
      refine of_kept (fun other => SlotMap.rel_refl Source.Same.refl _)
        (fun other => ?_) (fun _ => rfl) (pipe_of_eq rfl)
      rw [sink?_setSink]
      split
      · next he =>
        change Option.Rel _ _ ((streams.sink? id).map _)
        rw [he, hs]
        exact .some ⟨rfl, rfl, rfl⟩
      · exact SlotMap.rel_refl Sink.Same.refl _

theorem releaseReader (id : ReadableId) (token : ReaderToken) :
    streams.Turnover (quietly (Registry.releaseReader id token) streams) := by
  refine of_kept (fun other => ?_) (fun other => ?_) (fun other => bridge?_releaseReader _ _ _ _)
    (pipe_of_eq (pipes_releaseReader _ _ _))
  · rw [source?_releaseReader]
    split
    · next he =>
      refine he ▸ SlotMap.rel_map (fun source => ?_) _
      unfold unlockReader
      split <;> exact ⟨rfl, rfl, rfl, rfl, rfl, rfl⟩
    · exact SlotMap.rel_refl Source.Same.refl _
  · rw [sink?_releaseReader]
    exact SlotMap.rel_refl Sink.Same.refl _

theorem releaseWriter (id : WritableId) (token : WriterToken) :
    streams.Turnover (quietly (Registry.releaseWriter id token) streams) := by
  refine of_kept (fun other => ?_) (fun other => ?_) (fun other => bridge?_releaseWriter _ _ _ _)
    (pipe_of_eq (pipes_releaseWriter _ _ _))
  · rw [source?_releaseWriter]
    exact SlotMap.rel_refl Source.Same.refl _
  · rw [sink?_releaseWriter]
    split
    · next he =>
      refine he ▸ SlotMap.rel_map (fun sink => ?_) _
      unfold unlockWriter
      split <;> exact ⟨rfl, rfl, rfl⟩
    · exact SlotMap.rel_refl Sink.Same.refl _

/-- A new pipe is not being driven yet. -/
theorem openPipe (wf : streams.WellFormed) (r : ReadableId) (w : WritableId)
    (options : PipeOptions) :
    streams.Turnover (exec (Registry.openPipe r w options) streams).2 := by
  rcases exec_openPipe_cases streams r w options with
    ⟨source, sink, hs, -, hk, -, hopen⟩ | ⟨error, streams', hopen, hgives⟩
  · rw [hopen]
    refine of_kept (fun id => ?_) (fun id => ?_) (fun _ => rfl) fun {id pipe} hp => ?_
    · rw [source?_withPipe w sink options hs]
      split
      · next he =>
        rw [he, hs]
        exact .some ⟨rfl, rfl, rfl, rfl, rfl, rfl⟩
      · exact SlotMap.rel_refl Source.Same.refl _
    · rw [sink?_withPipe r source options hk]
      split
      · next he =>
        rw [he, hk]
        exact .some ⟨rfl, rfl, rfl⟩
      · exact SlotMap.rel_refl Sink.Same.refl _
    · rw [pipe?_withPipe wf] at hp
      split at hp
      · cases hp
        exact .inl rfl
      · exact .inr ⟨pipe, hp, rfl⟩
  · rw [hopen]
    cases hgives with
    | refused => exact refl streams
    | @unlocked source hs hl =>
      refine of_kept (fun id => ?_) (fun id => ?_) (fun id => ?_)
        (pipe_of_eq (pipes_releaseReader _ _ _))
      · rw [source?_releaseReader, source?_readerLocked hs, source?_readerLocked hs, if_pos rfl]
        split
        · next he =>
          rw [he, hs]
          refine .some ?_
          unfold unlockReader
          split <;> exact ⟨rfl, rfl, rfl, rfl, rfl, rfl⟩
        · exact SlotMap.rel_refl Source.Same.refl _
      · rw [sink?_releaseReader]
        exact SlotMap.rel_refl Sink.Same.refl _
      · rw [bridge?_releaseReader]
        rfl

end Turnover

end Registry

namespace Session

/-- The session has changed, but nothing has been asked of any stream. -/
structure Turnover (s t : Session H E) : Prop where
  streams : s.streams.Turnover t.streams
  calls : t.calls = s.calls

variable {s : Session H E}

/-! ### Guests -/

theorem calls_noteEnqueued (id : ReadableId) (chunks : List Bytes) (s : Session H E) :
    (noteEnqueued id chunks s).calls = s.calls :=
  ((WorkedInto.refl s).noteEnqueued id chunks).calls

theorem turnover_scriptSource (wf : s.streams.WellFormed) (guest : UnderlyingSource E)
    (highWaterMark : UInt64) :
    s.Turnover ((scriptSource guest highWaterMark : Step H E ReadableId) s).2 where
  streams := by
    rw [streams_scriptSource]
    exact .addSource wf ⟨nofun, rfl, rfl, rfl, nofun⟩ (by rintro ⟨name, h⟩; cases h)
  calls := by
    change (StateT.run (scriptSource guest highWaterMark : Step H E ReadableId) s).2.calls = s.calls
    simp only [scriptSource, StateT.run_bind, StateT.run_get, pure_bind]
    obtain ⟨⟨result, env⟩, desk⟩ :=
      (guest.start s.env).run SourceDesk.perform { controller := { highWaterMark } }
    exact calls_noteEnqueued _ _ _

/-- A new sink over a guest takes writes, or has failed at its start. -/
theorem startedWriter_cases (guest : UnderlyingSink E) (highWaterMark : UInt64) (env : E) :
    startedWriter guest highWaterMark env = { highWaterMark } ∨
      ∃ error, startedWriter guest highWaterMark env =
        { highWaterMark, state := .errored error } := by
  unfold startedWriter
  split
  · next error _ => exact .inr ⟨error, rfl⟩
  · exact .inl rfl

theorem turnover_scriptSink (wf : s.streams.WellFormed) (guest : UnderlyingSink E) :
    s.Turnover ((scriptSink guest : Step H E WritableId) s).2 where
  streams := by
    rw [streams_scriptSink]
    refine .addSink wf ?_ nofun
    rcases startedWriter_cases guest s.streams.config.bodyChunkSize s.env with h | ⟨error, h⟩ <;>
      rw [h] <;> exact ⟨rfl, rfl, rfl, nofun, fun _ => rfl⟩
  calls := rfl

/-! ### Transform streams -/

section Transformed

variable {id : BridgeId} {bridge : Bridge E} {source : Source E}
variable {worked : GuestResult E × TransformDesk}

theorem source?_transformed (other : ReadableId) :
    (transformed bridge worked s id source).streams.source? other =
      if other = bridge.readable then
        (s.streams.source? other).map fun _ => { source with controller := leftBy worked }
      else s.streams.source? other := by
  have hmarked : (marked bridge worked (fed bridge worked s source) id).streams.source? other =
      (fed bridge worked s source).streams.source? other := by
    unfold marked
    split <;> rfl
  have hspread : (transformed bridge worked s id source).streams.source? other =
      (marked bridge worked (fed bridge worked s source) id).streams.source? other := by
    unfold transformed spread
    split
    · exact Registry.source?_modifySink _ _ _ _
    · rfl
  rw [hspread, hmarked]
  simp only [fed, streams_setSource, Registry.source?_setSource]
  split
  · next he =>
    rw [he]
    rfl
  · rfl

theorem sink?_transformed {other : WritableId} (hne : other ≠ bridge.writable) :
    (transformed bridge worked s id source).streams.sink? other = s.streams.sink? other := by
  have hmarked : (marked bridge worked (fed bridge worked s source) id).streams.sink? other =
      s.streams.sink? other := by
    unfold marked
    split <;> rfl
  unfold transformed spread
  split
  · rw [streams_mapStreams, Registry.sink?_modifySink, if_neg hne]
    exact hmarked
  · exact hmarked

end Transformed

/-- What a start makes of the signal that two halves share. -/
def settledBy (result : Except StreamError Unit) (start : StartState) : StartState :=
  match result with
  | .ok () => start.resolve
  | .error error => start.reject error

/-- The writable half once the transformer has been started. -/
def startedHalf (result : Except StreamError Unit) (sink : Sink E) : Sink E :=
  match result with
  | .ok () => { sink with start := sink.start.resolve }
  | .error error =>
    { sink with start := sink.start.reject error, controller := sink.controller.error error }

section Settled

variable (stream : TransformStream) (result : Except StreamError Unit) (streams : Registry E)

theorem source?_settleTransform (id : ReadableId) :
    (settleTransform stream result streams).source? id =
      if id = stream.readable then
        (streams.source? id).map fun source =>
          { source with start := settledBy result source.start }
      else streams.source? id := by
  cases result <;>
    simp only [settleTransform, settleStart, Registry.source?_modifySink,
      Registry.source?_modifySource] <;> split <;> simp_all [settledBy]

theorem sink?_settleTransform (id : WritableId) :
    (settleTransform stream result streams).sink? id =
      if id = stream.writable then (streams.sink? id).map (startedHalf result)
      else streams.sink? id := by
  cases result <;>
    simp only [settleTransform, settleStart, Registry.sink?_modifySink,
      Registry.sink?_modifySource] <;> split <;> simp_all [Function.comp_def] <;> rfl

theorem bridge?_settleTransform (id : BridgeId) :
    (settleTransform stream result streams).bridge? id = streams.bridge? id := by
  cases result <;> simp [settleTransform, settleStart]

theorem pipes_settleTransform : (settleTransform stream result streams).pipes = streams.pipes := by
  cases result <;> simp [settleTransform, settleStart]

end Settled

/-- The writable half of a new transform stream has nothing to do, however its start has come
out. -/
theorem idle_startedHalf {name : BridgeId} {sink : Sink E} (result : Except StreamError Unit)
    (h : (Registry.newWritable name .pending).WorkedInto sink) :
    (startedHalf result sink).Idle := by
  rcases h with rfl | ⟨-, size, state, hstate, rfl⟩
  · cases result <;> exact ⟨rfl, rfl, rfl, nofun, fun h => by cases h <;> rfl⟩
  · cases state <;> cases hstate <;> cases result <;>
      exact ⟨rfl, rfl, rfl, nofun, fun h => by cases h⟩

/-- The names of the transform stream that would be made next. -/
abbrev nextStream (transformer : Transformer E) (s : Session H E) : TransformStream :=
  (enterTransform transformer s.streams).1

/-- The bridge of a transform stream that has just been entered. -/
def newBridge (transformer : Transformer E) (s : Session H E) : Bridge E where
  readable := (nextStream transformer s).readable
  writable := (nextStream transformer s).writable
  transformer := transformer

/-- What a transformer does at its start. -/
def startWork (transformer : Transformer E) (s : Session H E) : GuestResult E × TransformDesk :=
  TransformWork.start transformer s.env
    { controller := { highWaterMark := s.streams.config.transformHighWaterMark } }

/-- The session once a new transformer has been started. -/
def startedTransform (transformer : Transformer E) (s : Session H E) : Session H E :=
  transformed (newBridge transformer s) (startWork transformer s)
    { s with streams := (enterTransform transformer s.streams).2 } (nextStream transformer s).bridge
    (s.streams.newReadable (nextStream transformer s).bridge .pending)

/-- The readable half of a transform stream that has just been made. -/
def newHalf (transformer : Transformer E) (s : Session H E) : Source E :=
  { s.streams.newReadable (nextStream transformer s).bridge .pending with
    controller := leftBy (startWork transformer s)
    start := settledBy (startWork transformer s).1.1 .pending }

section Transform

variable (wf : s.streams.WellFormed) (transformer : Transformer E)
include wf

/-- A new transform stream is entered, its transformer is started, and the start is settled. -/
theorem createTransform_eq :
    (createTransform transformer : Step H E TransformStream) s =
      (nextStream transformer s,
        mapStreams (settleTransform (nextStream transformer s) (startWork transformer s).1.1)
          (note (.sinkStarted (nextStream transformer s).writable (startWork transformer s).1.1)
            (startedTransform transformer s))) := by
  have hrun : ∀ (action : Action H E StreamError Unit) (s : Session H E),
      StateT.run (outcome action) s = pure (exec action s) := fun _ _ => rfl
  have hstart : exec (withTransformer (nextStream transformer s).bridge .start)
      { s with streams := (enterTransform transformer s.streams).2 } =
        ((startWork transformer s).1.1, startedTransform transformer s) := by
    have hb := (Registry.bridge?_enterTransform wf transformer
      (nextStream transformer s).bridge).trans (if_pos rfl)
    have hs := (Registry.source?_enterTransform wf transformer
      (nextStream transformer s).readable).trans (if_pos rfl)
    rw [exec_withTransformer]
    simp only [hb, hs]
    rfl
  change StateT.run (createTransform transformer : Step H E _) s = _
  simp only [createTransform, changeStreams, StateT.run_bind, StateT.run_modifyGet, pure_bind, hrun,
    hstart]
  cases (startWork transformer s).1.1 <;> rfl

theorem asksNothing_startedTransform :
    AsksNothing { s with streams := (enterTransform transformer s.streams).2 }
      (startedTransform transformer s) :=
  asksNothing_transformed ((Registry.bridge?_enterTransform wf transformer _).trans (if_pos rfl))
    ((Registry.source?_enterTransform wf transformer _).trans (if_pos rfl))
    (TransformWork.keepsEnded_start transformer s.env
      { controller := { highWaterMark := s.streams.config.transformHighWaterMark } })

/-- The bridges of before are still there. -/
theorem bridge?_startedTransform_old {name : BridgeId} {bridge : Bridge E}
    (hb : s.streams.bridge? name = some bridge) :
    ∃ bridge', (startedTransform transformer s).streams.bridge? name = some bridge' ∧
      bridge.Keeps bridge' := by
  have hrel := (asksNothing_startedTransform wf transformer).bridge name
  have hne : name ≠ (nextStream transformer s).bridge := by
    rintro rfl
    rw [(Registry.none_enterTransform wf transformer).2.2] at hb
    cases hb
  rw [Registry.bridge?_enterTransform wf, if_neg hne, hb] at hrel
  exact SlotMap.rel_some_left hrel

theorem bridge?_startedTransform_new :
    ∃ bridge, (startedTransform transformer s).streams.bridge? (nextStream transformer s).bridge =
      some bridge ∧ (newBridge transformer s).Keeps bridge := by
  have hrel := (asksNothing_startedTransform wf transformer).bridge
    (nextStream transformer s).bridge
  rw [Registry.bridge?_enterTransform wf, if_pos rfl] at hrel
  exact SlotMap.rel_some_left hrel

theorem sink?_startedTransform_new :
    ∃ half, (startedTransform transformer s).streams.sink? (nextStream transformer s).writable =
      some half ∧
        (Registry.newWritable (nextStream transformer s).bridge .pending).WorkedInto half := by
  have hrel := (asksNothing_startedTransform wf transformer).sink
    (nextStream transformer s).writable
  rw [Registry.sink?_enterTransform wf, if_pos rfl] at hrel
  exact SlotMap.rel_some_left hrel

theorem sink?_startedTransform_old {id : WritableId}
    (hne : id ≠ (nextStream transformer s).writable) :
    (startedTransform transformer s).streams.sink? id = s.streams.sink? id := by
  rw [startedTransform, sink?_transformed hne, Registry.sink?_enterTransform wf, if_neg hne]

/-- The sources once a transform stream has been made. -/
theorem source?_startSettled (id : ReadableId) :
    (settleTransform (nextStream transformer s) (startWork transformer s).1.1
      (startedTransform transformer s).streams).source? id =
        if id = (nextStream transformer s).readable then some (newHalf transformer s)
        else s.streams.source? id := by
  rw [source?_settleTransform, startedTransform, source?_transformed]
  simp only [newBridge, Registry.source?_enterTransform wf]
  split <;> rfl

/-- The halves of a new transform stream and its bridge are new, and no other stream has changed. -/
theorem turnover_createTransform :
    s.Turnover ((createTransform transformer : Step H E TransformStream) s).2 := by
  rw [createTransform_eq wf transformer]
  have hsilent := asksNothing_startedTransform wf transformer
  obtain ⟨hreadable, hwritable, -⟩ := Registry.none_enterTransform wf transformer
  obtain ⟨half, hhalf, hr⟩ := sink?_startedTransform_new wf transformer
  have hsource : ∀ id, Source.Turnover (s.streams.source? id)
      ((settleTransform (nextStream transformer s) (startWork transformer s).1.1
        (startedTransform transformer s).streams).source? id) := by
    intro id
    rw [source?_startSettled wf]
    split
    · next he =>
      rw [he, hreadable]
      refine .made ⟨?_, rfl, rfl, rfl, nofun⟩
      unfold newHalf
      cases (startWork transformer s).1.1 <;> nofun
    · exact .of_rel (SlotMap.rel_refl Source.Same.refl _)
  have hsink : ∀ id, Sink.Turnover (s.streams.sink? id)
      ((settleTransform (nextStream transformer s) (startWork transformer s).1.1
        (startedTransform transformer s).streams).sink? id) := by
    intro id
    rw [sink?_settleTransform]
    split
    · next he =>
      rw [he, hwritable, hhalf]
      exact .made (idle_startedHalf _ hr)
    · next hne =>
      rw [sink?_startedTransform_old wf transformer hne]
      exact .of_rel (SlotMap.rel_refl Sink.Same.refl _)
  -- the bridge is the new one, or one that was there and has the halves it had
  refine ⟨⟨hsource, hsink, fun {name bridge} hb => ?_,
    Registry.Turnover.pipe_of_eq ?_, fun hc => ?_⟩, hsilent.calls⟩
  · rw [streams_mapStreams, streams_note, bridge?_settleTransform] at hb
    have hrel := hsilent.bridge name
    rw [hb, Registry.bridge?_enterTransform wf] at hrel
    obtain ⟨old, hfound, hk⟩ := SlotMap.rel_some_right hrel
    split at hfound
    · cases hfound
      refine .inr ⟨hk.readable ▸ hreadable, newHalf transformer s, ?_, _, rfl⟩
      rw [hk.readable, streams_mapStreams, streams_note, source?_startSettled wf, if_pos rfl]
    · exact .inl ⟨old, hfound, hk.readable.symm⟩
  · simp only [streams_mapStreams, streams_note, pipes_settleTransform]
    rw [hsilent.pipes, Registry.pipes_enterTransform]
  -- each half, the new ones and those that were there, is the half its bridge says
  · refine hc.turnover hsource hsink (fun {id source name} hs hback => ?_)
      fun {id sink name} hk hback => ?_
    · rw [streams_mapStreams, streams_note, bridge?_settleTransform]
      rw [streams_mapStreams, streams_note, source?_startSettled wf] at hs
      split at hs
      · next he =>
        cases hs
        cases hback
        obtain ⟨bridge, hb, hkeeps⟩ := bridge?_startedTransform_new wf transformer
        exact ⟨bridge, hb, hkeeps.readable.trans he.symm⟩
      · obtain ⟨bridge, hb, he⟩ := hc.readable hs hback
        obtain ⟨bridge', hb', hkeeps⟩ := bridge?_startedTransform_old wf transformer hb
        exact ⟨bridge', hb', hkeeps.readable.trans he⟩
    · rw [streams_mapStreams, streams_note, bridge?_settleTransform]
      rw [streams_mapStreams, streams_note, sink?_settleTransform] at hk
      split at hk
      · next he =>
        rw [he, hhalf] at hk
        cases hk
        have hsame : (startedHalf (startWork transformer s).1.1 half).backing =
            .transform (nextStream transformer s).bridge := by
          refine Eq.trans ?_ hr.keeps.backing
          cases (startWork transformer s).1.1 <;> rfl
        rw [hsame] at hback
        cases hback
        obtain ⟨bridge, hb, hkeeps⟩ := bridge?_startedTransform_new wf transformer
        exact ⟨bridge, hb, hkeeps.writable.trans he.symm⟩
      · next hne =>
        rw [sink?_startedTransform_old wf transformer hne] at hk
        obtain ⟨bridge, hb, he⟩ := hc.writable hk hback
        obtain ⟨bridge', hb', hkeeps⟩ := bridge?_startedTransform_old wf transformer hb
        exact ⟨bridge', hb', hkeeps.writable.trans he⟩

end Transform

end Session

end EdgeStreams
