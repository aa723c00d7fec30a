import EdgeStreams.Proofs.Piping.Waiting

/-!
# Transform streams that are no fuller than before

Only a write to its writable half adds to what is queued in a transform stream, or a transformer
that is told of the end. Whatever else is done, to the stream itself or to others, leaves as much in
the readable half as before, or less; and a stream whose writable half still takes writes has not
failed.

## Main definitions

- `Registry.SpansBridge`: a bridge with the readable half of its transform stream
- `ReadableController.Lightens`: nothing has been added to a queue
- `Session.NothingAdded`, `Session.NothingLoosened`: a transform stream is no fuller than before,
  and lets no more through

## Main statements

- `Session.halves_write`: what a write makes of a transform stream
- `Session.NothingLoosened.write`, `Session.NothingLoosened.close`, `Session.NothingLoosened.abort`,
  `Session.NothingLoosened.cancel` and their like: what each deed leaves

## Design notes

The readable half may be gone, and the writable half may have ended or failed.
-/

namespace EdgeStreams

variable {H E : Type}

/-! ### Queues -/

namespace ReadableController

variable {controller : ReadableController}

/-- Nothing has been added to the queue. -/
structure Lightens (first second : ReadableController) : Prop where
  bytes : second.queuedBytes ≤ first.queuedBytes
  queue : first.queue = [] → second.queue = []

/-- The stream has failed. -/
def HasFailed (controller : ReadableController) : Prop := ∃ error, controller.state = .errored error

namespace Lightens

theorem refl (controller : ReadableController) : controller.Lightens controller := ⟨le_rfl, id⟩

theorem takeReady (controller : ReadableController) :
    controller.Lightens controller.takeReady.2 where
  bytes := by
    cases hstate : controller.state <;> cases hqueue : controller.queue <;>
      simp [ReadableController.takeReady, dequeue, hstate, hqueue]
  queue := controller.queue_takeReady_of_nil

theorem error (controller : ReadableController) (error : StreamError) :
    controller.Lightens (controller.error error) := by
  unfold ReadableController.error
  split
  · exact ⟨Nat.zero_le _, fun _ => rfl⟩
  · exact refl controller

theorem cancel (controller : ReadableController) : controller.Lightens controller.cancel := by
  unfold ReadableController.cancel
  split <;> exact ⟨Nat.zero_le _, fun _ => rfl⟩

theorem finish (controller : ReadableController) : controller.Lightens controller.finish := by
  unfold ReadableController.finish close
  split
  · exact refl controller
  · exact ⟨le_rfl, id⟩

end Lightens

/-- A reader fails no stream. -/
theorem hasFailed_of_takeReady (h : controller.takeReady.2.HasFailed) : controller.HasFailed := by
  obtain ⟨error, herror⟩ := h
  cases hstate : controller.state with
  | errored error => exact ⟨error, hstate⟩
  | closed => simp [takeReady, hstate] at herror
  | readable =>
    cases hqueue : controller.queue with
    | nil => simp [takeReady, dequeue, hstate, hqueue] at herror
    | cons chunk rest =>
      simp only [takeReady, dequeue, hstate, hqueue] at herror
      split at herror <;> cases herror

/-- A reader that has to wait has found nothing. -/
theorem queue_of_takeReady_none (h : controller.takeReady.1 = .ok none) :
    controller.takeReady.2.queue = [] := by
  cases hstate : controller.state with
  | errored error | closed => simp [takeReady, hstate] at h
  | readable =>
    cases hqueue : controller.queue with
    | nil => simp [takeReady, dequeue, hstate, hqueue]
    | cons chunk rest => simp [takeReady, dequeue, hstate, hqueue] at h

end ReadableController

/-! ### Transformers -/

/-- A transformer fails the readable half only by a call. -/
theorem TransformDesk.terminated_of_failed {α : Type} (program : Program TransformCall.Answer α)
    {controller : ReadableController} (hsound : ¬ controller.HasFailed)
    (h : (program.run TransformDesk.perform { controller }).2.controller.HasFailed) :
    (program.run TransformDesk.perform { controller }).2.terminated = true := by
  have hstart : ({ controller } : TransformDesk).controller.HasFailed →
      ({ controller } : TransformDesk).terminated = true := fun hf => absurd hf hsound
  refine program.run_preserves TransformDesk.perform
    (fun desk => desk.controller.HasFailed → desk.terminated = true)
      (fun call desk hdesk => ?_) _ hstart h
  cases call with
  | enqueue chunk =>
    refine fun ⟨error, herror⟩ => hdesk ⟨error, ?_⟩
    change (desk.controller.enqueue chunk).2.state = .errored error at herror
    unfold ReadableController.enqueue at herror
    split at herror
    · exact herror
    · split at herror <;> exact herror
  | error error => exact fun _ => rfl
  | terminate => exact fun _ => rfl
  | desiredSize => exact hdesk

namespace Session

/-- The writable half takes over an error if the transformer has failed the readable half. -/
theorem writableFault?_of_failed (program : Program TransformCall.Answer (GuestResult E))
    {controller : ReadableController} (hsound : ¬ controller.HasFailed)
    (h : (leftBy (program.run TransformDesk.perform { controller })).HasFailed) :
    ∃ error, writableFault? (program.run TransformDesk.perform { controller }).1.1
      (program.run TransformDesk.perform { controller }).2 = some error := by
  have hterminated := TransformDesk.terminated_of_failed program hsound
  unfold leftBy at h
  generalize program.run TransformDesk.perform { controller } = worked at h hterminated ⊢
  obtain ⟨⟨result, env'⟩, desk⟩ := worked
  cases result with
  | error error => exact ⟨error, rfl⟩
  | ok =>
    dsimp only at h hterminated
    obtain ⟨error, herror⟩ := h
    exact ⟨error, by simp [writableFault?, hterminated ⟨error, herror⟩, herror]⟩

/-- The identity transformer queues the chunk at most. -/
theorem queuedBytes_identity_le (chunk : Bytes) (env : E) (controller : ReadableController) :
    (leftBy (TransformWork.transform chunk Transformer.identity env { controller })).queuedBytes ≤
      controller.queuedBytes + chunk.length := by
  have hqueued : (controller.enqueue chunk).2.queuedBytes ≤
      controller.queuedBytes + chunk.length := by
    unfold ReadableController.enqueue
    split
    · exact Nat.le_add_right _ _
    · split
      · exact Nat.le_add_right _ _
      · exact le_rfl
  unfold leftBy
  split
  · exact (ReadableController.Lightens.error _ _).bytes.trans hqueued
  · exact hqueued

/-- The identity transformer has nothing to add at the end. -/
theorem lightens_flush_identity (env : E) (controller : ReadableController) :
    controller.Lightens (leftBy (TransformWork.flush Transformer.identity env { controller })) :=
  .finish controller

end Session

/-! ### Transform streams -/

namespace Registry

variable {streams : Registry E} {name : BridgeId} {bridge : Bridge E} {source : Source E}
variable {w other : WritableId} {r : ReadableId}

/-- A bridge with the readable half of its transform stream. -/
structure SpansBridge (streams : Registry E) (name : BridgeId) (bridge : Bridge E)
    (source : Source E) : Prop where
  joins : streams.bridge? name = some bridge
  lives : streams.source? bridge.readable = some source

/-- The readable half that a bridge refers to refers to the bridge. -/
def Mutual (streams : Registry E) : Prop :=
  ∀ name bridge source, streams.SpansBridge name bridge source → source.backing = .transform name

/-- Work on a sink reaches the bridge of its transform stream only. -/
theorem Composed.writable_of_mem (hc : streams.Composed) (hb : streams.bridge? name = some bridge)
    (hm : name ∈ (streams.sinkReach w).bridges) : bridge.writable = w := by
  rcases hm with hm | hm
  · exact hm.elim
  · cases hk : streams.sink? w with
    | none => simp [hk] at hm
    | some sink =>
      cases hback : sink.backing with
      | body handle | script guest => simp [hk, hback, drainReach] at hm
      | transform found =>
        obtain ⟨joining, hjoining, he⟩ := hc.writable hk hback
        simp only [hk, hback, drainReach, bridgeReach, hjoining, Set.mem_singleton_iff] at hm
        subst hm
        cases hb.symm.trans hjoining
        exact he

/-- Work on a source reaches the bridge of its transform stream only. -/
theorem Composed.readable_of_mem (hc : streams.Composed) (hb : streams.bridge? name = some bridge)
    (hm : name ∈ (streams.sourceReach r).bridges) : bridge.readable = r := by
  rcases hm with hm | hm
  · exact hm.elim
  · cases hs : streams.source? r with
    | none => simp [hs] at hm
    | some held =>
      cases hback : held.backing with
      | body handle size | script guest => simp [hs, hback, backingReach] at hm
      | transform found =>
        obtain ⟨joining, hjoining, he⟩ := hc.readable hs hback
        simp only [hs, hback, backingReach, bridgeReach, hjoining, Set.mem_singleton_iff] at hm
        subst hm
        cases hb.symm.trans hjoining
        exact he

/-- Work on a sink reaches no other transform stream. -/
theorem outside_sinkReach (hc : streams.Composed) (hm : streams.Mutual)
    (hspans : streams.SpansBridge name bridge source) (hne : bridge.writable ≠ other) :
    name ∉ (streams.sinkReach other).bridges ∧
      bridge.readable ∉ (streams.sinkReach other).readables := by
  have houtside : name ∉ (streams.sinkReach other).bridges :=
    fun h => hne (hc.writable_of_mem hspans.joins h)
  refine ⟨houtside, ?_⟩
  rintro (h | h)
  · exact h
  · cases hk : streams.sink? other with
    | none => simp [hk] at h
    | some sink =>
      cases hback : sink.backing with
      | body handle | script guest => simp [hk, hback, drainReach] at h
      | transform found =>
        obtain ⟨joining, hb, -⟩ := hc.writable hk hback
        simp only [hk, hback, drainReach, bridgeReach, hb, Set.mem_singleton_iff] at h
        -- the readable half belongs to one bridge only
        have hjoined : streams.SpansBridge found joining source := ⟨hb, h ▸ hspans.lives⟩
        cases (hm _ _ _ hspans).symm.trans (hm _ _ _ hjoined)
        exact houtside (.inr (by simp [hk, hback, drainReach, bridgeReach, hb]))

/-- Work on a source reaches no other transform stream. -/
theorem outside_sourceReach (hc : streams.Composed)
    (hspans : streams.SpansBridge name bridge source) (hne : bridge.readable ≠ r) :
    name ∉ (streams.sourceReach r).bridges ∧
      bridge.readable ∉ (streams.sourceReach r).readables := by
  refine ⟨fun h => hne (hc.readable_of_mem hspans.joins h), ?_⟩
  rintro (h | h)
  · exact hne h
  · cases hs : streams.source? r with
    | none => simp [hs] at h
    | some held =>
      cases hback : held.backing with
      | body handle size | script guest => simp [hs, hback, backingReach] at h
      | transform found =>
        obtain ⟨joining, hb, rfl⟩ := hc.readable hs hback
        simp only [hs, hback, backingReach, bridgeReach, hb, Set.mem_singleton_iff] at h
        exact hne h

end Registry

namespace Session

variable {s t : Session H E} {mark : UInt64} {name : BridgeId} {bridge : Bridge E}
  {source : Source E}

/-! ### What a transformer leaves of the halves -/

/-- The bridge forgets no more than an error. -/
theorem bridge?_transformed (worked : GuestResult E × TransformDesk)
    (hb : s.streams.bridge? name = some bridge) (source : Source E) :
    ∃ bridge', (transformed bridge worked s name source).streams.bridge? name = some bridge' ∧
      bridge'.pullRequested = bridge.pullRequested := by
  have hmarked : ∃ bridge', (marked bridge worked (fed bridge worked s source) name).streams.bridge?
      name = some bridge' ∧ bridge'.pullRequested = bridge.pullRequested := by
    have hfed : (fed bridge worked s source).streams.bridge? name = some bridge := hb
    unfold marked
    split
    · exact ⟨{ bridge with errored := true }, by simp [setBridge, Registry.bridge?_setBridge, hfed],
        rfl⟩
    · exact ⟨bridge, hfed, rfl⟩
  unfold transformed spread
  split
  · simpa using hmarked
  · exact hmarked

theorem bridge?_transformed_other {worked : GuestResult E × TransformDesk} {other : BridgeId}
    (hne : other ≠ name) (bridge : Bridge E) (source : Source E) :
    (transformed bridge worked s name source).streams.bridge? other = s.streams.bridge? other := by
  have hmarked : (marked bridge worked (fed bridge worked s source) name).streams.bridge? other =
      s.streams.bridge? other := by
    unfold marked
    split
    · rw [setBridge, streams_mapStreams, Registry.bridge?_setBridge, if_neg hne]
      rfl
    · rfl
  unfold transformed spread
  split
  · simpa using hmarked
  · exact hmarked

/-- The readable half takes what the transformer has left, and the bridge forgets no more than an
error. A transformer does not work on a readable half that has failed. -/
theorem halves_withTransformer (work : TransformWork E)
    (hspans : s.streams.SpansBridge name bridge source) :
    ∃ outcome t, exec (withTransformer name work) s = (outcome, t) ∧
      (∃ bridge', t.streams.bridge? name = some bridge' ∧
        bridge'.pullRequested = bridge.pullRequested) ∧
      (source.controller.HasFailed ∧ t.streams.source? bridge.readable = some source ∧
          (∃ error, outcome = .error error) ∨
        ¬ source.controller.HasFailed ∧
          t = transformed bridge (work bridge.transformer s.env { controller := source.controller })
            s name source) := by
  obtain ⟨hb, hs⟩ := hspans
  rw [exec_withTransformer, hb]
  simp only [hs]
  by_cases hfailed : source.controller.HasFailed
  · obtain ⟨error, herror⟩ := hfailed
    simp only [herror]
    exact ⟨_, _, rfl, ⟨bridge, hb, rfl⟩, .inl ⟨⟨error, herror⟩, hs, error, rfl⟩⟩
  · generalize work bridge.transformer s.env { controller := source.controller } = worked
    have hbridge : ∃ bridge', (transformed bridge worked s name source).streams.bridge? name =
        some bridge' ∧ bridge'.pullRequested = bridge.pullRequested :=
          bridge?_transformed _ hb source
    refine ⟨worked.1.1, transformed bridge worked s name source, ?_, hbridge, .inr ⟨hfailed, rfl⟩⟩
    cases hstate : source.controller.state with
    | errored error => exact absurd ⟨error, hstate⟩ hfailed
    | readable | closed => rfl

theorem lives_transformed {worked : GuestResult E × TransformDesk}
    (hs : s.streams.source? bridge.readable = some source) :
    (transformed bridge worked s name source).streams.source? bridge.readable =
      some { source with controller := leftBy worked } := by
  rw [source?_transformed, if_pos rfl, hs, Option.map_some]

/-- The writable half fails with the readable half. -/
theorem sink?_transformed_of_fault {worked : GuestResult E × TransformDesk} {error : StreamError}
    (name : BridgeId) (bridge : Bridge E) (source : Source E)
    (hfault : writableFault? worked.1.1 worked.2 = some error) {sink : Sink E}
    (hk : s.streams.sink? bridge.writable = some sink) (hw : sink.controller.state = .writable) :
    (transformed bridge worked s name source).streams.sink? bridge.writable =
      some (sink.failing error) := by
  have hmarked : (marked bridge worked (fed bridge worked s source) name).streams.sink?
    bridge.writable = some sink := by
    unfold marked
    split <;> exact hk
  simp only [transformed, spread, hfault, streams_mapStreams, Registry.sink?_modifySink, if_pos,
    hmarked, Option.map_some, hw]

section Deeds

variable [Host H]

/-- What a write makes of the transform stream: it takes the permission away, and the readable half
has not failed if the writable half still takes writes. An identity transformer adds the chunk at
most. -/
theorem halves_write (chunk : Bytes) {sink : Sink E} (hc : s.streams.Composed)
    (hspans : s.streams.SpansBridge name bridge source)
    (hk : s.streams.sink? bridge.writable = some sink) (hw : sink.controller.state = .writable)
    (hback : sink.backing = .transform name) :
    ∃ bridge' controller,
      (exec (writeUnchecked bridge.writable chunk) s).2.streams.bridge? name = some bridge' ∧
      bridge'.pullRequested = false ∧
      (exec (writeUnchecked bridge.writable chunk) s).2.streams.source? bridge.readable =
        some { source with controller } ∧
      (bridge.transformer = .identity →
        controller.queuedBytes ≤ source.controller.queuedBytes + chunk.length) ∧
      ((exec (writeUnchecked bridge.writable chunk) s).2.streams.Accepts bridge.writable →
        ¬ controller.HasFailed) := by
  obtain ⟨outcome, t, last, hwork, hlast, hwrite⟩ :=
    exec_writeUnchecked_transform hc hk hw hback hspans.joins chunk
  have hduring : (setBridge name { bridge with pullRequested := false }
      (setSink bridge.writable sink.working s)).streams.sink? bridge.writable =
        some sink.working := by
    simp [setBridge, Registry.sink?_setSink, hk]
  have hforgot : (setBridge name { bridge with pullRequested := false }
      (setSink bridge.writable sink.working s)).streams.SpansBridge name
        { bridge with pullRequested := false } source :=
    ⟨by simp [setBridge, Registry.bridge?_setBridge, hspans.joins], hspans.lives⟩
  obtain ⟨outcome', t', hwork', ⟨bridge', hb', hflag⟩, hhalf⟩ :=
    halves_withTransformer (.transform chunk) hforgot
  cases hwork.symm.trans hwork'
  rw [hwrite]
  -- whether the half ended during the call or the call failed, it takes no more writes
  have hrefuses : last.controller.state ≠ .writable ∨ (∃ error, outcome = .error error) →
      ¬ (setSink bridge.writable (last.rested outcome)
        (note (.written bridge.writable chunk outcome) t)).streams.Accepts bridge.writable := by
    rintro hended ⟨final, hfinal, hopen⟩
    simp only [streams_setSink, Registry.sink?_setSink, if_pos, streams_note, hlast,
      Option.map_some, Option.some.injEq] at hfinal
    rw [← hfinal] at hopen
    cases outcome with
    | ok =>
      obtain hne | ⟨error, ⟨⟩⟩ := hended
      exact hne hopen
    | error error =>
      have hterminal := last.terminal_rested error
      rw [hopen] at hterminal
      cases hterminal
  rcases hhalf with ⟨hfailed, hs', error, rfl⟩ | ⟨hsound, rfl⟩
  · exact ⟨bridge', source.controller, hb', hflag, hs', fun _ => Nat.le_add_right _ _,
      fun ha => absurd ha (hrefuses (.inr ⟨error, rfl⟩))⟩
  · refine ⟨bridge', _, hb', hflag, lives_transformed hforgot.lives, fun hid => ?_,
      fun ha hfailed => ?_⟩
    · simp only [hid]
      exact queuedBytes_identity_le ..
    · -- the writable half has failed as well
      obtain ⟨error, hfault⟩ := writableFault?_of_failed (bridge.transformer.transform chunk s.env)
        hsound hfailed
      have hfailing := sink?_transformed_of_fault name
        { bridge with pullRequested := false } source hfault hduring hw
      cases hlast.symm.trans hfailing
      refine hrefuses (.inl ?_) ha
      simp [Sink.failing, WritableController.error, Sink.working, hw, WritableState.isTerminal]

/-- Deeds make neither bridges nor readable halves. -/
theorem Deed.spansBridge_before {made : List (WritableId × Bytes)} (hd : Deed s made t)
    (hc : s.streams.Composed) {bridge' : Bridge E} {source' : Source E}
    (hspans : t.streams.SpansBridge name bridge' source') :
    ∃ bridge source, s.streams.SpansBridge name bridge source ∧ bridge.Keeps bridge' ∧
      source.Stays source' := by
  have hadvances := hd.advancesTo hc
  obtain ⟨bridge, hb, hkeeps⟩ := SlotMap.rel_some_right (hspans.joins ▸ hadvances.bridge name)
  obtain ⟨source, demands, hs, hproceeds⟩ := hadvances.source_before hspans.lives
  rw [hkeeps.readable] at hs
  exact ⟨bridge, source, ⟨hb, hs⟩, hkeeps, (hc.source_proceedsTo hs hproceeds).1⟩

theorem Deed.mutual {made : List (WritableId × Bytes)} (hd : Deed s made t)
    (hc : s.streams.Composed) (hm : s.streams.Mutual) : t.streams.Mutual := fun _ _ _ hspans => by
  obtain ⟨bridge, source, hbefore, -, hstays⟩ := hd.spansBridge_before hc hspans
  exact hstays.backing.trans (hm _ _ _ hbefore)

/-- By induction on the deeds. -/
theorem Course.mutual {made : List (WritableId × Bytes)} (h : Course s made t)
    (hc : s.streams.Composed) (hm : s.streams.Mutual) : t.streams.Mutual := by
  induction h with
  | refl => exact hm
  | step hbefore hdeed ih => exact hdeed.mutual (hbefore.composed hc) ih

/-! ### Transform streams that are no fuller than before -/

/-- Nothing has been added to the transform stream of a sink, unless the sink takes no more writes
and the transformer is not the identity. -/
structure NothingAdded (w : WritableId) (s t : Session H E) : Prop where
  spansBridge : ∀ {name bridge' source'}, t.streams.SpansBridge name bridge' source' →
    bridge'.writable = w →
    ∃ bridge source, s.streams.SpansBridge name bridge source ∧ bridge.Keeps bridge' ∧
      (t.streams.Accepts w ∨ bridge.transformer = .identity →
        source.controller.Lightens source'.controller)

/-- Nothing has been added, as before; and if the sink takes writes, then its stream lets no more
through than before, and has not failed. -/
structure NothingLoosened (w : WritableId) (s t : Session H E) : Prop where
  spansBridge : ∀ {name bridge' source'}, t.streams.SpansBridge name bridge' source' →
    bridge'.writable = w →
    ∃ bridge source, s.streams.SpansBridge name bridge source ∧ bridge.Keeps bridge' ∧
      (t.streams.Accepts w ∨ bridge.transformer = .identity →
        source.controller.Lightens source'.controller) ∧
      (t.streams.Accepts w → (bridge'.pullRequested = true → bridge.pullRequested = true) ∧
        (source'.controller.HasFailed → source.controller.HasFailed))

omit [Host H] in
/-- The transform stream has been asked for a chunk. -/
theorem NothingAdded.request {w : WritableId} (hb : s.streams.bridge? name = some bridge) :
    NothingAdded w s (setBridge name { bridge with pullRequested := true } s) where
  spansBridge {other bridge' source'} hspans _ := by
    have hjoins := hspans.joins
    rw [setBridge, streams_mapStreams, Registry.bridge?_setBridge] at hjoins
    split at hjoins
    · next he =>
      subst he
      rw [hb] at hjoins
      cases hjoins
      exact ⟨bridge, source', ⟨hb, hspans.lives⟩, ⟨rfl, rfl, rfl, id⟩, fun _ => .refl _⟩
    · exact ⟨bridge', source', ⟨hjoins, hspans.lives⟩, .refl _, fun _ => .refl _⟩

namespace NothingLoosened

variable {w : WritableId}

omit [Host H] in
theorem nothingAdded (h : NothingLoosened w s t) : NothingAdded w s t where
  spansBridge hspans hw := by
    obtain ⟨bridge, source, hbefore, hkeeps, hlightens, -⟩ := h.spansBridge hspans hw
    exact ⟨bridge, source, hbefore, hkeeps, hlightens⟩

omit [Host H] in
/-- The bridges are as they were, and nothing has been added to any readable half. -/
theorem of_sources (hbridge : ∀ name, t.streams.bridge? name = s.streams.bridge? name)
    (hsource : ∀ {id source'}, t.streams.source? id = some source' → source'.IsTransform →
      ∃ source, s.streams.source? id = some source ∧
        source.controller.Lightens source'.controller ∧
        (source'.controller.HasFailed → source.controller.HasFailed))
    (hm : t.streams.Mutual) : NothingLoosened w s t := by
  refine ⟨fun {name bridge source'} hspans _ => ?_⟩
  obtain ⟨source, hs, hlightens, hfailed⟩ := hsource hspans.lives ⟨name, hm _ _ _ hspans⟩
  exact ⟨bridge, source, ⟨hbridge name ▸ hspans.joins, hs⟩, .refl _, fun _ => hlightens,
    fun _ => ⟨id, hfailed⟩⟩

omit [Host H] in
theorem refl (s : Session H E) : NothingLoosened w s s where
  spansBridge {_ bridge source} hspans _ :=
    ⟨bridge, source, hspans, .refl _, fun _ => .refl _, fun _ => ⟨id, id⟩⟩

/-- The transform stream of the sink lies outside of what has been worked on. -/
theorem of_changesWithin {f : Footprint} (ht : ChangesWithin f s t)
    (houtside : ∀ {name bridge source}, s.streams.SpansBridge name bridge source →
      bridge.writable = w →
      name ∉ f.bridges ∧ bridge.readable ∉ f.readables) : NothingLoosened w s t := by
  refine ⟨fun {name bridge' source'} hspans hw => ?_⟩
  obtain ⟨bridge, hb, hkeeps⟩ := SlotMap.rel_some_right (hspans.joins ▸ ht.bridge? name)
  obtain ⟨source, hs, -⟩ := SlotMap.rel_some_right (hspans.lives ▸ ht.source? bridge'.readable)
  rw [hkeeps.readable] at hs
  obtain ⟨hjoint, hhalf⟩ := houtside ⟨hb, hs⟩ (hkeeps.writable.symm.trans hw)
  cases hspans.joins.symm.trans ((ht.bridge?_outside hjoint).trans hb)
  cases hspans.lives.symm.trans ((ht.source?_outside hhalf).trans hs)
  exact ⟨bridge', source', ⟨hb, hs⟩, .refl _, fun _ => .refl _, fun _ => ⟨id, id⟩⟩

theorem write (hc : s.streams.Composed) (hm : s.streams.Mutual) {id : WritableId} (chunk : Bytes)
    (hne : w ≠ id) : NothingLoosened w s (exec (writeUnchecked id chunk) s).2 :=
  .of_changesWithin (changesWithin_writeUnchecked .refl chunk s .refl) fun hspans hw =>
    Registry.outside_sinkReach hc hm hspans (hw ▸ hne)

/-- What ends the writable half leaves a sink that takes no more. The identity transformer has
nothing to add at the end. -/
theorem close (hc : s.streams.Composed) (hcouples : s.streams.Couples mark) (hm : s.streams.Mutual)
    (id : WritableId) : NothingLoosened w s (exec (closeUnchecked id) s).2 := by
  by_cases hne : w = id
  · subst hne
    rcases closeUnchecked_cases hc w with heq | ⟨sink, -, sink', hk, hw, -, -, hk', hended⟩
    · rw [heq]
      exact .refl s
    · have hdeed : Deed s [] (exec (closeUnchecked w) s).2 := .close w
      have hrefuses : ¬ (exec (closeUnchecked w) s).2.streams.Accepts w := by
        rw [Registry.accepts_iff hk']
        intro hopen
        simp [hopen, WritableState.isTerminal] at hended
      refine ⟨fun {name bridge' source'} hspans he => ?_⟩
      obtain ⟨bridge, source, hbefore, hkeeps, -⟩ := hdeed.spansBridge_before hc hspans
      refine ⟨bridge, source, hbefore, hkeeps, fun h => ?_, fun ha => absurd ha hrefuses⟩
      have hid := h.resolve_left hrefuses
      rw [hkeeps.writable] at he
      have hback := (hcouples.paired hbefore.lives (hm _ _ _ hbefore)
        hbefore.joins (he.symm ▸ hk)).1
      obtain ⟨outcome, t, hwork, hclose⟩ := exec_closeUnchecked_transform hc hk hw hback
      have hduring : (setSink w (sink.inState .closing).working s).streams.SpansBridge name
          bridge source :=
        ⟨hbefore.joins, hbefore.lives⟩
      obtain ⟨outcome', t', hwork', -, hhalf⟩ := halves_withTransformer .flush hduring
      cases hwork.symm.trans hwork'
      have hs' : t.streams.source? bridge.readable = some source' := by
        rw [hclose] at hspans
        exact hkeeps.readable ▸ hspans.lives
      rcases hhalf with ⟨-, hs, -⟩ | ⟨-, rfl⟩
      · cases hs'.symm.trans hs
        exact .refl _
      · cases hs'.symm.trans (lives_transformed hduring.lives)
        have hflush := lightens_flush_identity s.env source.controller
        rw [← hid] at hflush
        exact hflush
  · exact .of_changesWithin (changesWithin_closeUnchecked .refl s .refl) fun hspans hw =>
      Registry.outside_sinkReach hc hm hspans (hw ▸ hne)

/-- What aborts the writable half leaves a sink that takes no more, and drops what is queued. -/
theorem abort (hc : s.streams.Composed) (hcouples : s.streams.Couples mark) (hm : s.streams.Mutual)
    (id : WritableId) (reason : Option String) :
    NothingLoosened w s (exec (abortUnchecked id reason) s).2 := by
  by_cases hne : w = id
  · subst hne
    rcases abortUnchecked_cases hc w reason with heq | ⟨sink, -, sink', hk, hw, -, -, hk', hended⟩
    · rw [heq]
      exact .refl s
    · have hdeed : Deed s [] (exec (abortUnchecked w reason) s).2 := .abort w reason
      have hrefuses : ¬ (exec (abortUnchecked w reason) s).2.streams.Accepts w := by
        rw [Registry.accepts_iff hk']
        intro hopen
        simp [hopen, WritableState.isTerminal] at hended
      refine ⟨fun {name bridge' source'} hspans he => ?_⟩
      obtain ⟨bridge, source, hbefore, hkeeps, -⟩ := hdeed.spansBridge_before hc hspans
      refine ⟨bridge, source, hbefore, hkeeps, fun _ => ?_, fun ha => absurd ha hrefuses⟩
      rw [hkeeps.writable] at he
      have hback := (hcouples.paired hbefore.lives (hm _ _ _ hbefore)
        hbefore.joins (he.symm ▸ hk)).1
      have hduring : (setSink w (sink.failing .aborted) s).streams.sink? w =
          some (sink.failing .aborted) := by simp [Registry.sink?_setSink, hk]
      have hs' := hkeeps.readable ▸ hspans.lives
      rw [exec_abortUnchecked_of_idle hk (hc.idle hk) hw, exec_noting,
        exec_abortAlgorithm_transform reason hduring hback hbefore.joins] at hs'
      simp only [streams_note, streams_mapStreams, Registry.source?_modifySource, if_pos] at hs'
      obtain ⟨found, hfound, rfl⟩ := Option.map_eq_some_iff.mp hs'
      cases hbefore.lives.symm.trans hfound
      exact .error _ _
  · exact .of_changesWithin (changesWithin_abortUnchecked .refl reason s .refl) fun hspans hw =>
      Registry.outside_sinkReach hc hm hspans (hw ▸ hne)

/-- A cancellation drops what is queued. -/
theorem cancel (hc : s.streams.Composed) (hm : s.streams.Mutual) (id : ReadableId)
    (reason : Option String) : NothingLoosened w s (exec (cancelUnchecked id reason) s).2 := by
  refine ⟨fun {name bridge' source'} hspans he => ?_⟩
  have hdeed : Deed s [] (exec (cancelUnchecked id reason) s).2 := .cancel id reason
  obtain ⟨bridge, source, hbefore, hkeeps, -⟩ := hdeed.spansBridge_before hc hspans
  by_cases hne : bridge.readable = id
  · subst hne
    refine ⟨bridge, source, hbefore, hkeeps, ?_⟩
    have hb' := hspans.joins
    have hs' := hkeeps.readable ▸ hspans.lives
    by_cases hstate : source.controller.state = .readable ∧ source.canceled = false
    · have hduring : (setSource bridge.readable (canceledSource source) s).streams.source?
          bridge.readable = some (canceledSource source) := by
        simp [Registry.source?_setSource, hbefore.lives]
      have hcancel : exec (cancelUnchecked bridge.readable reason) s =
          exec (noting (.canceled bridge.readable) (cancelAlgorithm bridge.readable reason))
            (setSource bridge.readable (canceledSource source) s) := by
        simp [cancelUnchecked, exec_bind, hbefore.lives, hstate.1, hstate.2, canceledSource]
      have hback : (canceledSource source).backing = .transform name :=
        (rfl : _ = source.backing).trans (hm _ _ _ hbefore)
      rw [hcancel, exec_noting, exec_cancelAlgorithm_transform hduring hback hbefore.joins]
        at hb' hs'
      simp [setBridge, Registry.source?_setSource, Registry.bridge?_setBridge, hbefore.joins,
        hbefore.lives] at hb' hs'
      subst hb' hs'
      refine ⟨fun _ => .cancel _, fun _ => ⟨id, ?_⟩⟩
      rintro ⟨error, herror⟩
      simp [canceledSource, ReadableController.cancel, hstate.1] at herror
    · rcases cancelUnchecked_cases hc bridge.readable reason with
        ⟨hnone, -⟩ | ⟨found, hfound, ⟨-, heq⟩ | ⟨hreadable, hidle, -⟩⟩
      · cases hbefore.lives.symm.trans hnone
      · rw [heq] at hb' hs'
        cases hbefore.lives.symm.trans hfound
        cases hbefore.joins.symm.trans hb'
        simp only [streams_setSource, Registry.source?_setSource, if_pos, hbefore.lives,
          Option.map_some, Option.some.injEq] at hs'
        subst hs'
        exact ⟨fun _ => .refl _, fun _ => ⟨id, id⟩⟩
      · cases hbefore.lives.symm.trans hfound
        exact absurd ⟨hreadable, hidle⟩ hstate
  · obtain ⟨hjoint, hhalf⟩ := Registry.outside_sourceReach hc hbefore hne
    have ht : ChangesWithin (s.streams.sourceReach id) s (exec (cancelUnchecked id reason) s).2 :=
      changesWithin_cancelUnchecked .refl reason s .refl
    cases hspans.joins.symm.trans ((ht.bridge?_outside hjoint).trans hbefore.joins)
    cases hspans.lives.symm.trans ((ht.source?_outside hhalf).trans hbefore.lives)
    exact ⟨bridge', source', hbefore, hkeeps, fun _ => .refl _, fun _ => ⟨fun h => h, fun h => h⟩⟩

omit [Host H] in
/-- One source has been worked on. Nothing has been added to it if it is a readable half. -/
theorem revised {id : ReadableId} {source' : Source E} {calls : List StreamEvent}
    {host : H} {env : E} (hs : s.streams.source? id = some source)
    (hrev : Revised id source' calls host env s t) (hm : t.streams.Mutual)
    (h : source'.IsTransform → source.controller.Lightens source'.controller ∧
      (source'.controller.HasFailed → source.controller.HasFailed)) :
    NothingLoosened w s t := by
  refine of_sources (fun name => ?_) (fun {other found} hfound ht => ?_) hm
  · obtain ⟨new, -, rfl⟩ := hrev
    rfl
  · by_cases he : other = id
    · subst he
      cases hfound.symm.trans (hrev.source? hs)
      exact ⟨source, hs, h ht⟩
    · rw [hrev.source?_other he] at hfound
      exact ⟨found, hfound, .refl _, fun h => h⟩

/-- The source of a readable half is as it was, but for what is under way. -/
theorem setSource {id : ReadableId} {source' : Source E} {calls : List StreamEvent}
    (hs : s.streams.source? id = some source) (hd : Deed s [] t) (hc : s.streams.Composed)
    (hm : s.streams.Mutual) (hrev : Revised id source' calls s.host s.env s t)
    (hsame : source'.controller = source.controller) : NothingLoosened w s t :=
  revised hs hrev (hd.mutual hc hm) (fun _ => hsame ▸ ⟨.refl _, fun h => h⟩)

theorem takeReady {id : ReadableId} (hs : s.streams.source? id = some source)
    (ht : source.IsTransform) (hc : s.streams.Composed) (hm : s.streams.Mutual) :
    NothingLoosened w s (exec (takeReady id) s).2 := by
  have hdeed : Deed s [] (exec (Session.takeReady id) s).2 := .take hs ht
  exact revised hs ((Revised.refl hs).takeReady hs) (hdeed.mutual hc hm)
    (fun _ => ⟨.takeReady _, ReadableController.hasFailed_of_takeReady⟩)

/-- Reading a host body or a guest concerns no transform stream. -/
theorem read {fuel : Nat} {id : ReadableId} {r : Except StreamError ReadOutcome × Session H E}
    (hs : s.streams.source? id = some source) (hn : ¬ source.IsTransform)
    (hr : attempt (readUnchecked fuel id) s = some r) (hc : s.streams.Composed)
    (hm : s.streams.Mutual) : NothingLoosened w s r.2 := by
  have hdeed : Deed s [] r.2 := .read hs hn hr
  have hp := hc.native hs hn
  have hstays : ∀ {source' : Source E} {demands : List Demand}, source.ProceedsTo demands source' →
      ¬ source'.IsTransform := fun hproc ht => by
    exact hn ((hc.source_proceedsTo hs hproc).1.isTransform_iff.mp ht)
  rcases revised_readUnchecked hs hn hp (hc.notAsked hs hp) hr with
    ⟨source', hproc, hrev⟩ | ⟨outcome, source', host, env, hproc, hrev, -⟩ <;>
  exact revised hs hrev (hdeed.mutual hc hm) (fun ht => absurd ht (hstays hproc))

theorem drive {id : PipeId} {pipe : Pipe} (pumping : Bool) (hp : s.streams.pipe? id = some pipe)
    (hc : s.streams.Composed) (hm : s.streams.Mutual) :
    NothingLoosened w s (mapStreams
      (fun streams => streams.setPipe id { pipe with pumping }) s) := by
  have hdeed : Deed s [] (mapStreams (fun streams => streams.setPipe id { pipe with pumping }) s) :=
    .drive pumping hp
  exact of_sources (fun _ => rfl) (fun hs _ => ⟨_, hs, .refl _, fun h => h⟩) (hdeed.mutual hc hm)

theorem pipeFinished (id : PipeId) (state : PipeState) (hc : s.streams.Composed)
    (hm : s.streams.Mutual) : NothingLoosened w s (pipeFinished id state s) := by
  have hdeed : Deed s [] (Session.pipeFinished id state s) := .finish id state
  by_cases hrun : ∃ pipe, s.streams.pipe? id = some pipe ∧ pipe.isRunning
  · obtain ⟨pipe, hp, hr⟩ := hrun
    refine of_sources (fun name => ?_) (fun {other source'} hs' _ => ?_) (hdeed.mutual hc hm)
    · rw [Session.pipeFinished, streams_mapStreams, Registry.bridge?_finishPipe]
    · rw [Session.pipeFinished, streams_mapStreams, Registry.source?_finishPipe state hp hr] at hs'
      split at hs'
      · next he =>
        obtain ⟨source, hs, rfl⟩ := Option.map_eq_some_iff.mp hs'
        refine ⟨source, he ▸ hs, ?_⟩
        unfold Registry.unlockReader
        split <;> exact ⟨.refl _, fun h => h⟩
      · exact ⟨source', hs', .refl _, fun h => h⟩
  · rw [Session.pipeFinished, mapStreams, Registry.finishPipe_of_not_running]
    · exact refl s
    · exact fun pipe hp hr => hrun ⟨pipe, hp, hr⟩

end NothingLoosened

end Deeds

end Session

end EdgeStreams
