import EdgeStreams.Proofs.Client.Locks
import EdgeStreams.Proofs.Session.Shifting

/-!
# Operations

Between two operations no source is being pulled, no pipe is being driven, and no sink has anything
to do. Every operation changes the registry besides deeds first, if it does so at all, and the rest
are deeds.

## Main definitions

- `Session.OperationStep`: one operation, by anybody
- `Session.OperationCase`: the kinds of operation
- `Session.Reaches`, `Session.LeadsTo`: one operation after another
- `Session.Resting`: nothing is under way
- `Session.Story`: deeds and other changes, one after the other

## Main statements

- `Session.OperationStep.operationCase`: every operation is of one of these kinds
- `Session.OperationStep.turnoverThenDeeds`: every operation is a change and deeds
- `Session.OperationStep.resting`: an operation leaves nothing under way
- `Session.Reaches.story`: operations are deeds and other changes

## Design notes

Locks may be given back with any token, and hosts and guests may change in any way between two
operations. A story may be in the middle of an operation.
-/

namespace EdgeStreams

variable {H E : Type}

/-- No stream has been made, and every bridge is as it was. -/
structure Registry.MakesNone (streams streams' : Registry E) : Prop where
  source : ∀ {id}, streams.source? id = none → streams'.source? id = none
  sink : ∀ {id}, streams.sink? id = none → streams'.sink? id = none
  bridge : ∀ {id bridge}, streams'.bridge? id = some bridge → streams.bridge? id = some bridge

namespace Registry

variable {streams streams' : Registry E}

theorem MakesNone.refl (streams : Registry E) : streams.MakesNone streams := ⟨id, id, id⟩

theorem MakesNone.trans {streams'' : Registry E} (h : streams.MakesNone streams')
    (h' : streams'.MakesNone streams'') : streams.MakesNone streams'' :=
  ⟨h'.source ∘ h.source, h'.sink ∘ h.sink, h.bridge ∘ h'.bridge⟩

theorem makesNone_modifySource (id : ReadableId) (change : Source E → Source E) :
    streams.MakesNone (streams.modifySource id change) where
  source {other} hnone := by
    rw [source?_modifySource]
    split
    · next he => simp [← he, hnone]
    · exact hnone
  sink hnone := by simpa using hnone
  bridge hb := by simpa using hb

theorem makesNone_modifySink (id : WritableId) (change : Sink E → Sink E) :
    streams.MakesNone (streams.modifySink id change) where
  source hnone := by simpa using hnone
  sink {other} hnone := by
    rw [sink?_modifySink]
    split
    · next he => simp [← he, hnone]
    · exact hnone
  bridge hb := by simpa using hb

theorem makesNone_releaseReader (id : ReadableId) (token : ReaderToken) :
    streams.MakesNone (quietly (releaseReader id token) streams) where
  source {other} hnone := by
    rw [source?_releaseReader]
    split
    · next he => simp [← he, hnone]
    · exact hnone
  sink hnone := by simpa using hnone
  bridge hb := by simpa using hb

theorem makesNone_releaseWriter (id : WritableId) (token : WriterToken) :
    streams.MakesNone (quietly (releaseWriter id token) streams) where
  source hnone := by simpa using hnone
  sink {other} hnone := by
    rw [sink?_releaseWriter]
    split
    · next he => simp [← he, hnone]
    · exact hnone
  bridge hb := by simpa using hb

theorem makesNone_getReader (id : ReadableId) :
    streams.MakesNone (exec (getReader id) streams).2 := by
  cases hs : streams.source? id with
  | none => simpa [getReader, exec_bind, hs] using .refl streams
  | some source =>
    cases hl : source.readerLock with
    | some token => simpa [getReader, exec_bind, hs, hl] using .refl streams
    | none =>
      rw [exec_getReader streams hs hl]
      refine ⟨fun {other} hnone => ?_, fun {other} hnone => hnone, fun hb => hb⟩
      have hlocked := source?_readerLocked hs other
      split at hlocked
      · next he =>
        rw [he, hs] at hnone
        cases hnone
      · exact hlocked.trans hnone

theorem makesNone_getWriter (id : WritableId) :
    streams.MakesNone (exec (getWriter id) streams).2 := by
  cases hs : streams.sink? id with
  | none => simpa [getWriter, exec_bind, hs] using .refl streams
  | some sink =>
    cases hl : sink.writerLock with
    | some token => simpa [getWriter, exec_bind, hs, hl] using .refl streams
    | none =>
      rw [exec_getWriter streams hs hl]
      refine ⟨fun {other} hnone => hnone, fun {other} hnone => ?_, fun hb => hb⟩
      rw [sink?_setSink]
      split
      · next he =>
        rw [he, hs] at hnone
        cases hnone
      · exact hnone

theorem makesNone_sweep : streams.MakesNone streams.sweep.2 where
  source hnone := by rw [source?_sweep, hnone, Option.filter_none]
  sink hnone := by rw [sink?_sweep, hnone, Option.filter_none]
  bridge hb := by
    rw [bridge?_sweep] at hb
    exact (Option.filter_eq_some_iff.mp hb).1

theorem makesNone_clear : streams.MakesNone streams.clear where
  source _ := SlotMap.get?_clear ..
  sink _ := SlotMap.get?_clear ..
  bridge hb := by cases (SlotMap.get?_clear ..).symm.trans hb

theorem makesNone_openPipe (streams : Registry E) (source : ReadableId) (destination : WritableId)
    (options : PipeOptions) :
    streams.MakesNone (exec (openPipe source destination options) streams).2 := by
  rcases exec_openPipe_cases streams source destination options with
    ⟨entry, sink, hs, -, hk, -, hopen⟩ | ⟨error, streams', hopen, hgives⟩
  · rw [hopen]
    refine ⟨fun {id} hnone => ?_, fun {id} hnone => ?_, fun hb => hb⟩
    · rw [source?_withPipe destination sink options hs]
      split
      · next he => rw [he, hs] at hnone; cases hnone
      · exact hnone
    · rw [sink?_withPipe source entry options hk]
      split
      · next he => rw [he, hk] at hnone; cases hnone
      · exact hnone
  · rw [hopen]
    cases hgives with
    | refused => exact .refl streams
    | unlocked hs hl =>
      refine ⟨fun {id} hnone => ?_, fun {id} hnone => ?_, fun {id bridge} hb => ?_⟩
      · have hne : id ≠ source := by
          rintro rfl
          rw [hs] at hnone
          cases hnone
        rwa [source?_releaseReader, if_neg hne, source?_readerLocked hs, if_neg hne]
      · rw [sink?_releaseReader]
        exact hnone
      · rw [bridge?_releaseReader] at hb
        exact hb

end Registry

namespace Session

variable {s t u : Session H E}

/-! ### Nothing is under way -/

/-- No source is being pulled, no pipe is being driven, and no sink has anything to do. -/
structure Resting (s : Session H E) : Prop where
  wellFormed : s.streams.WellFormed
  composed : s.streams.Composed
  unpulled : ∀ {id source}, s.streams.source? id = some source → source.pulling = false
  undriven : ∀ {id pipe}, s.streams.pipe? id = some pipe → pipe.pumping = false

theorem resting_new (host : H) (env : E) (config : StreamConfig) :
    Resting { host, env, streams := .new config } := by
  have hsource : ∀ id, (Registry.new config : Registry E).source? id = none :=
    fun _ => SlotMap.get?_empty _
  have hsink : ∀ id, (Registry.new config : Registry E).sink? id = none :=
    fun _ => SlotMap.get?_empty _
  have hpipe : ∀ id, (Registry.new config : Registry E).pipe? id = none :=
    fun _ => SlotMap.get?_empty _
  refine ⟨Registry.wellFormed_new config, ⟨?_, ?_, ?_, ?_, ?_⟩, ?_, ?_⟩
  all_goals
    intros
    simp_all

/-- A change besides deeds puts nothing under way. -/
theorem Resting.turnover (h : s.Resting) (hs : s.Turnover t) (wf : t.streams.WellFormed) :
    t.Resting where
  wellFormed := wf
  composed := hs.streams.composed h.composed
  unpulled {id source} hsource := by
    have hshift := hs.streams.source id
    rw [hsource] at hshift
    generalize hold : s.streams.source? id = old at hshift
    cases hshift with
    | kept hsame => exact hsame.pulling.trans (h.unpulled hold)
    | made hnew => exact hnew.pulling
  undriven {id pipe} hpipe := by
    rcases hs.streams.pipe hpipe with hparked | ⟨old, hold, hsame⟩
    · exact hparked
    · exact hsame.trans (h.undriven hold)

section Deeds

variable [Host H]

theorem Resting.flowsTo (h : s.Resting) (hf : s.FlowsTo t)
    (wf : t.streams.WellFormed) : t.Resting where
  wellFormed := wf
  composed := hf.composed h.composed
  unpulled {id source} hsource := by
    obtain ⟨old, hold, hsame⟩ := SlotMap.rel_some_right (hsource ▸ hf.level.source id)
    exact hsame.trans (h.unpulled hold)
  undriven {id pipe} hpipe := by
    obtain ⟨old, hold, hsame⟩ := SlotMap.rel_some_right (hpipe ▸ hf.level.pipe id)
    exact hsame.trans (h.undriven hold)

theorem MovesTo.wellFormed (h : MovesTo s t) (wf : s.streams.WellFormed) :
    t.streams.WellFormed := by
  induction h with
  | refl => exact wf
  | touch _ ht ih => exact ht.sameLocks.wellFormed ih
  | note _ _ ih => exact ih
  | drive pumping _ hp ih => exact (Registry.SameLocks.setPipe hp pumping).wellFormed ih
  | finish id _ _ ih => exact Registry.WellFormed.finishPipe ih id _

/-! ### Operations -/

/-- One operation on streams, or something that is done elsewhere. -/
inductive OperationStep (s : Session H E) : Session H E → Prop
  | operate (op : StreamOp E) (fuel : Nat) {t : Session H E} : op.after fuel s = some t →
      OperationStep s t
  | getReader (id : ReadableId) :
    OperationStep s { s with streams := (exec (Registry.getReader id) s.streams).2 }
  | getWriter (id : WritableId) :
    OperationStep s { s with streams := (exec (Registry.getWriter id) s.streams).2 }
  | releaseReader (id : ReadableId) (token : ReaderToken) :
    OperationStep s (s.mapStreams (Registry.quietly (Registry.releaseReader id token)))
  | releaseWriter (id : WritableId) (token : WriterToken) :
    OperationStep s (s.mapStreams (Registry.quietly (Registry.releaseWriter id token)))
  | elsewhere (host : H) (env : E) (nextOwner : Nat) :
      OperationStep s { s with host, env, nextOwner }

/-- One operation after another. -/
inductive Reaches (allowed : Session H E → Session H E → Prop) (s : Session H E) :
    Session H E → Prop
  | refl : Reaches allowed s s
  | step {t u : Session H E} : Reaches allowed s t → OperationStep t u → allowed t u →
      Reaches allowed s u

/-- What an operation is, where all that makes no stream and does no deed is one kind. -/
inductive OperationCase (s : Session H E) : Session H E → Prop
  /-- The registry changes without any new stream. -/
  | turnover {t : Session H E} : s.Turnover t → t.streams.WellFormed →
      s.streams.MakesNone t.streams → t.journal = s.journal → OperationCase s t
  | read {fuel : Nat} {id : ReadableId} {token : Option ReaderToken}
    {r : Except StreamError ReadOutcome × Session H E} : attempt (read fuel id token) s = some r →
      OperationCase s r.2
  | cancel (id : ReadableId) (reason : Option String) (token : Option ReaderToken) :
    OperationCase s (exec (cancel id reason token) s).2
  | write (id : WritableId) (chunk : Bytes) (token : Option WriterToken) :
    OperationCase s (exec (write id chunk token) s).2
  | close (id : WritableId) (token : Option WriterToken) :
      OperationCase s (exec (close id token) s).2
  | abort (id : WritableId) (reason : Option String) (token : Option WriterToken) :
    OperationCase s (exec (abort id reason token) s).2
  | pipeTo {fuel : Nat} {source : ReadableId} {destination : WritableId} {options : PipeOptions}
    {r : Except StreamError PipeId × Session H E} :
      attempt (pipeTo fuel source destination options) s = some r → OperationCase s r.2
  | pump {fuel : Nat} {r : Nat × Session H E} : drive (pump fuel) s = some r → OperationCase s r.2
  | abortCorrelated (source : ReadableId) (reason : Option String) :
    OperationCase s (exec (abortCorrelated source reason) s).2
  | bodySource (handle : BodyHandle) :
    OperationCase s (s.mapStreams fun streams => (streams.bodySource handle).2)
  | scriptSource (guest : UnderlyingSource E) (highWaterMark : UInt64) :
    OperationCase s (scriptSource guest highWaterMark s).2
  | bodySink (handle : BodyHandle) :
    OperationCase s (s.mapStreams fun streams => (streams.bodySink handle).2)
  | scriptSink (guest : UnderlyingSink E) : OperationCase s (scriptSink guest s).2
  | createTransform (transformer : Transformer E) :
      OperationCase s (createTransform transformer s).2

theorem OperationCase.of_turnover {streams : Registry E} (h : s.streams.Turnover streams)
    (wf : streams.WellFormed) (hm : s.streams.MakesNone streams) :
    s.OperationCase { s with streams } := by
  have hturnover : s.Turnover { s with streams } := ⟨h, rfl⟩
  exact .turnover hturnover wf hm rfl

theorem operationCase_of_after (wf : s.streams.WellFormed) {op : StreamOp E} {fuel : Nat}
    (h : op.after fuel s = some t) : s.OperationCase t := by
  cases op with
  | bodySource handle => cases h; exact .bodySource handle
  | scriptSource guest highWaterMark => cases h; exact .scriptSource guest highWaterMark
  | bodySink handle => cases h; exact .bodySink handle
  | scriptSink guest => cases h; exact .scriptSink guest
  | createTransform transformer => cases h; exact .createTransform transformer
  | setReadableOwner id owner =>
    cases h
    simp only [exec_onStreams, Registry.exec_setReadableOwner_snd]
    exact .of_turnover (.modifySource id fun _ => ⟨rfl, rfl, rfl, rfl, rfl, rfl⟩)
      (wf.modifySource _ _) (Registry.makesNone_modifySource _ _)
  | setWritableOwner id owner =>
    cases h
    simp only [exec_onStreams, Registry.exec_setWritableOwner_snd]
    exact .of_turnover (.modifySink id fun _ => ⟨rfl, rfl, rfl⟩) (wf.modifySink _ _)
      (Registry.makesNone_modifySink _ _)
  | releaseReadable id =>
    cases h
    exact .of_turnover (.releaseReadable id) (wf.modifySource _ _)
      (Registry.makesNone_modifySource _ _)
  | releaseWritable id =>
    cases h
    exact .of_turnover (.releaseWritable id) (wf.modifySink _ _) (Registry.makesNone_modifySink _ _)
  | releaseTransform stream =>
    cases h
    exact .of_turnover (.releaseTransform stream) ((wf.modifySource _ _).modifySink _ _)
      ((Registry.makesNone_modifySource _ _).trans (Registry.makesNone_modifySink _ _))
  | read id token =>
    obtain ⟨r, hread, rfl⟩ := Option.map_eq_some_iff.mp h
    exact .read hread
  | cancel id reason token => cases h; exact .cancel id reason token
  | write id chunk token => cases h; exact .write id chunk token
  | close id token => cases h; exact .close id token
  | abort id reason token => cases h; exact .abort id reason token
  | pipeTo source destination options =>
    obtain ⟨r, hpipe, rfl⟩ := Option.map_eq_some_iff.mp h
    exact .pipeTo hpipe
  | pipeThrough source stream options =>
    obtain ⟨r, hpipe, rfl⟩ := Option.map_eq_some_iff.mp h
    rw [attempt_pipeThrough] at hpipe
    obtain ⟨piped, hpiped, rfl⟩ := Option.map_eq_some_iff.mp hpipe
    exact .pipeTo hpiped
  | pump =>
    obtain ⟨r, hpump, rfl⟩ := Option.map_eq_some_iff.mp h
    exact .pump hpump
  | abortCorrelated source reason => cases h; exact .abortCorrelated source reason
  | sweep =>
    cases h
    exact .of_turnover .sweep (Registry.SameLocks.sweep.wellFormed wf) Registry.makesNone_sweep
  | clear =>
    cases h
    exact .of_turnover .clear ⟨wf.sources.clear, wf.sinks.clear, wf.bridges.clear, wf.pipes.clear⟩
      Registry.makesNone_clear

theorem OperationStep.operationCase (h : OperationStep s t) (wf : s.streams.WellFormed) :
    s.OperationCase t := by
  cases h with
  | operate op fuel h => exact operationCase_of_after wf h
  | getReader id =>
    exact .of_turnover (.getReader id) (wf.getReader id) (Registry.makesNone_getReader id)
  | getWriter id =>
    exact .of_turnover (.getWriter id) (wf.getWriter id) (Registry.makesNone_getWriter id)
  | releaseReader id token =>
    exact .of_turnover (.releaseReader id token) (wf.releaseReader id token)
      (Registry.makesNone_releaseReader id token)
  | releaseWriter id token =>
    exact .of_turnover (.releaseWriter id token) (wf.releaseWriter id token)
      (Registry.makesNone_releaseWriter id token)
  | elsewhere host env nextOwner =>
    have hturnover : s.Turnover { s with host, env, nextOwner } := ⟨.refl _, rfl⟩
    exact .turnover hturnover wf (.refl _) rfl

/-- What an operation comes to: another change of the registry, and then deeds. An operation with
deeds makes no stream, and calls the host for its deeds only. -/
def TurnoverThenDeeds (s t : Session H E) : Prop :=
  ∃ between, s.Turnover between ∧ between.streams.WellFormed ∧ between.FlowsTo t ∧
    t.streams.WellFormed ∧
      (between = t ∨ between.host = s.host ∧ s.streams.MakesNone between.streams)

theorem TurnoverThenDeeds.of_flowsTo (hf : s.FlowsTo t) (hm : MovesTo s t) (hr : s.Resting) :
    s.TurnoverThenDeeds t :=
  ⟨s, ⟨.refl _, rfl⟩, hr.wellFormed, hf, hm.wellFormed hr.wellFormed, .inr ⟨rfl, .refl _⟩⟩

theorem TurnoverThenDeeds.of_changesWithin {f : Footprint} (hf : s.FlowsTo t)
    (ht : ChangesWithin f s t) (hr : s.Resting) :
    s.TurnoverThenDeeds t := .of_flowsTo hf (.of_changesWithin ht) hr

theorem TurnoverThenDeeds.of_turnover (hs : s.Turnover t) (wf : t.streams.WellFormed) :
    s.TurnoverThenDeeds t :=
  ⟨t, hs, wf, .refl t, wf, .inl rfl⟩

omit [Host H] in
/-- A pipe that has been opened is not being driven yet. -/
theorem Resting.openPipe (hr : s.Resting) (source : ReadableId) (destination : WritableId)
    (options : PipeOptions) :
    Resting { s with
      streams := (exec (Registry.openPipe source destination options) s.streams).2 } := by
  refine hr.turnover ⟨Registry.Turnover.openPipe hr.wellFormed source destination options, rfl⟩ ?_
  rcases Registry.exec_openPipe_cases s.streams source destination options with
    ⟨entry, sink, -, -, -, -, hopen⟩ | ⟨error, streams', hopen, hgives⟩
  · rw [hopen]
    exact ⟨hr.wellFormed.sources.set _ _, hr.wellFormed.sinks.set _ _, hr.wellFormed.bridges,
      hr.wellFormed.pipes.insert _⟩
  · rw [hopen]
    exact hgives.sameLocks.wellFormed hr.wellFormed

/-- A pipe is driven as far as it goes once it has been opened. -/
theorem flowsTo_pipeTo (hr : s.Resting) {fuel : Nat} {source : ReadableId}
    {destination : WritableId} {options : PipeOptions} {r : Except StreamError PipeId × Session H E}
    (h : attempt (pipeTo fuel source destination options) s = some r) :
    FlowsTo { s with streams := (exec (Registry.openPipe source destination options) s.streams).2 }
      r.2 := by
  have hopened := (hr.openPipe source destination options).composed
  rw [attempt_pipeTo] at h
  generalize exec (Registry.openPipe source destination options) s.streams = opened at h hopened
  obtain ⟨result, streams⟩ := opened
  cases result with
  | error error =>
    simp only [Option.some.injEq] at h
    exact h ▸ .refl _
  | ok id =>
    obtain ⟨pumped, hpump, rfl⟩ := Option.map_eq_some_iff.mp h
    exact flowsTo_pumpPipe hopened hpump

theorem turnoverThenDeeds_pipeTo (hr : s.Resting) {fuel : Nat} {source : ReadableId}
    {destination : WritableId} {options : PipeOptions} {r : Except StreamError PipeId × Session H E}
    (h : attempt (pipeTo fuel source destination options) s = some r) :
    s.TurnoverThenDeeds r.2 := by
  have wf := (hr.openPipe source destination options).wellFormed
  have hopened := Registry.Turnover.openPipe hr.wellFormed source destination options
  exact ⟨{ s with streams := _ }, ⟨hopened, rfl⟩, wf, flowsTo_pipeTo hr h,
    (movesTo_pipeTo h).wellFormed wf,
      .inr ⟨rfl, Registry.makesNone_openPipe s.streams source destination options⟩⟩

namespace OperationStep

/-- An operation changes the registry besides deeds first, if at all. -/
theorem turnoverThenDeeds (h : OperationStep s t) (hr : s.Resting) : s.TurnoverThenDeeds t := by
  have wf := hr.wellFormed
  have hc := hr.composed
  cases h.operationCase wf with
  | turnover hturnover hbetween => exact .of_turnover hturnover hbetween
  -- operations that make streams
  | bodySource handle =>
    exact .of_turnover
      ⟨.addSource wf ⟨nofun, rfl, rfl, rfl, fun _ => rfl⟩ (by rintro ⟨name, h⟩; cases h), rfl⟩
      (wf.addSource _)
  | scriptSource guest highWaterMark =>
    refine .of_turnover (turnover_scriptSource wf guest highWaterMark) ?_
    rw [streams_scriptSource]
    exact wf.addSource _
  | bodySink handle =>
    exact .of_turnover ⟨.addSink wf ⟨rfl, rfl, rfl, nofun, fun _ => rfl⟩ nofun, rfl⟩ (wf.addSink _)
  | scriptSink guest => exact .of_turnover (turnover_scriptSink wf guest) (wf.addSink _)
  | createTransform transformer =>
    refine .of_turnover (turnover_createTransform wf transformer) ?_
    obtain ⟨f, result, started, hstarted, hrun⟩ := createTransform_run transformer s
    rw [hrun, streams_mapStreams, streams_note]
    have hentered := hstarted.sameLocks.wellFormed (wf.enterTransform transformer)
    cases result with
    | ok => exact (hentered.modifySource _ _).modifySink _ _
    | error error => exact ((hentered.modifySource _ _).modifySink _ _).modifySink _ _
  -- operations that come to deeds alone
  | read hread => exact .of_flowsTo (flowsTo_read hc hread) (movesTo_read hread) hr
  | cancel id reason token =>
    exact .of_changesWithin (flowsTo_cancel hc id reason token)
      (changesWithin_cancel s id reason token) hr
  | write id chunk token =>
    exact .of_changesWithin (flowsTo_write hc id chunk token)
      (changesWithin_write s id chunk token) hr
  | close id token =>
    exact .of_changesWithin (flowsTo_close hc id token) (changesWithin_close s id token) hr
  | abort id reason token =>
    exact .of_changesWithin (flowsTo_abort hc id reason token)
      (changesWithin_abort s id reason token) hr
  | pump hpump => exact .of_flowsTo (flowsTo_pump hc hpump) (movesTo_pump hpump) hr
  | abortCorrelated source reason =>
    exact .of_flowsTo (flowsTo_abortCorrelated hc source reason)
      (movesTo_abortCorrelated source reason s) hr
  -- a pipe is entered first, and driven after that
  | pipeTo hpipe => exact turnoverThenDeeds_pipeTo hr hpipe

/-- An operation leaves nothing under way. -/
theorem resting (h : OperationStep s t) (hr : s.Resting) : t.Resting := by
  obtain ⟨between, hturnover, hbetween, hflows, wf, -⟩ := h.turnoverThenDeeds hr
  exact (hr.turnover hturnover hbetween).flowsTo hflows wf

end OperationStep

variable {allowed : Session H E → Session H E → Prop}

/-- By induction on the operations. -/
theorem Reaches.resting (h : Reaches allowed s t) (hr : s.Resting) : t.Resting := by
  induction h with
  | refl => exact hr
  | step _ hoperation _ ih => exact hoperation.resting ih

theorem Reaches.trans (h : Reaches allowed s t) (h' : Reaches allowed t u) :
    Reaches allowed s u := by
  induction h' with
  | refl => exact h
  | step _ hoperation hallowed ih => exact ih.step hoperation hallowed

/-- Operations on streams lead from one session to another. -/
abbrev LeadsTo (s t : Session H E) : Prop := Reaches (fun _ _ => True) s t

theorem LeadsTo.operationStep (h : OperationStep s t) : s.LeadsTo t := .step .refl h trivial

/-- An operation on streams. -/
theorem LeadsTo.operate (op : StreamOp E) (fuel : Nat)
    (h : op.after fuel s = some t) : s.LeadsTo t := .operationStep (.operate op fuel h)

/-! ### Stories -/

/-- Deeds and other changes, one after the other, with the writes that have been made, last
first. -/
inductive Story (allowed : Session H E → Session H E → Prop) (s : Session H E) :
    List (WritableId × Bytes) → Session H E → Prop
  | refl : Story allowed s [] s
  | deed {t u : Session H E} {made more : List (WritableId × Bytes)} :
    Story allowed s made t → Deed t more u → Story allowed s (more ++ made) u
  | shift {t u : Session H E} {made : List (WritableId × Bytes)} :
    Story allowed s made t → t.Turnover u → allowed t u → Story allowed s made u

namespace Story

variable {made more : List (WritableId × Bytes)}

theorem mono {allowed' : Session H E → Session H E → Prop} (h : Story allowed s made t)
    (hallowed : ∀ {s t : Session H E}, allowed s t → allowed' s t) : Story allowed' s made t := by
  induction h with
  | refl => exact .refl
  | deed _ hdeed ih => exact ih.deed hdeed
  | shift _ hturnover hstep ih => exact ih.shift hturnover (hallowed hstep)

theorem course (h : Story allowed s made t) (h' : Course t more u) :
    Story allowed s (more ++ made) u := by
  induction h' with
  | refl => exact h
  | step _ hdeed ih =>
    rw [List.append_assoc]
    exact ih.deed hdeed

/-- By induction on the deeds and changes. -/
theorem composed (h : Story allowed s made t) (hc : s.streams.Composed) : t.streams.Composed := by
  induction h with
  | refl => exact hc
  | deed _ hdeed ih => exact ih.advancesTo (hdeed.advancesTo ih)
  | shift _ hturnover _ ih => exact hturnover.streams.composed ih

end Story

/-- Operations are deeds and other changes. -/
theorem Reaches.story {during : Session H E → Session H E → Prop} (h : Reaches allowed s t)
    (hr : s.Resting)
    (hallowed : ∀ {s t u : Session H E}, s.streams.Composed → s.Turnover t → t.FlowsTo u →
      t = u ∨ t.host = s.host → allowed s u → during s t) :
    ∃ made, Story during s made t := by
  induction h with
  | refl => exact ⟨[], .refl⟩
  | step hbefore hoperation hstep ih =>
    obtain ⟨made, hstory⟩ := ih
    have hresting := hbefore.resting hr
    obtain ⟨between, hturnover, -, hflows, -, hkind⟩ := hoperation.turnoverThenDeeds hresting
    obtain ⟨more, hcourse⟩ := hflows.course
    have hduring := hallowed hresting.composed hturnover hflows (hkind.imp id And.left) hstep
    exact ⟨_, (hstory.shift hturnover hduring).course hcourse⟩

/-! ### Streams that have been made -/

/-- An operation that makes a sink asks nothing of any stream. -/
theorem OperationStep.turnover_of_sink (h : OperationStep s t) (hr : s.Resting) {id : WritableId}
    {sink : Sink E}
    (hs : s.streams.sink? id = none) (ht : t.streams.sink? id = some sink) : s.Turnover t := by
  obtain ⟨between, hturnover, -, hflows, -, rfl | ⟨-, hmakes⟩⟩ := h.turnoverThenDeeds hr
  · exact hturnover
  · have hgone := (hflows.sink?_eq_none_iff (hturnover.streams.composed hr.composed)).mpr
      (hmakes.sink hs)
    rw [ht] at hgone
    cases hgone

/-- An operation that makes a source asks nothing of any stream. -/
theorem OperationStep.turnover_of_source (h : OperationStep s t) (hr : s.Resting) {id : ReadableId}
    {source : Source E}
    (hs : s.streams.source? id = none) (ht : t.streams.source? id = some source) :
    s.Turnover t := by
  obtain ⟨between, hturnover, -, hflows, -, rfl | ⟨-, hmakes⟩⟩ := h.turnoverThenDeeds hr
  · exact hturnover
  · have hgone := (hflows.source?_eq_none_iff (hturnover.streams.composed hr.composed)).mpr
      (hmakes.source hs)
    rw [ht] at hgone
    cases hgone

end Deeds

end Session

/-! ### Clients -/

namespace Client

variable [Host H] {uses : H → List UInt32 → H → Prop} {allowed : Client H E → Client H E → Prop}
variable {client later : Client H E}

theorem Step.operationStep (h : Step uses client later) :
    client.session.OperationStep later.session := by
  cases h with
  | operate op fuel hop => exact .operate op fuel hop
  | @getReader id token streams hget =>
    have hoperation := Session.OperationStep.getReader (s := client.session) id
    rwa [hget] at hoperation
  | @getWriter id token streams hget =>
    have hoperation := Session.OperationStep.getWriter (s := client.session) id
    rwa [hget] at hoperation
  | releaseReader id => exact .releaseReader id _
  | releaseWriter id => exact .releaseWriter id _
  | @callHost handles host =>
    exact .elsewhere host client.session.env client.session.nextOwner
  | visitGuest env => exact .elsewhere client.session.host env client.session.nextOwner
  | nextOwner number => exact .elsewhere client.session.host client.session.env number

/-- By induction on the operations. -/
theorem LeadsTo.resting (h : LeadsTo uses allowed client later) (hr : client.session.Resting) :
    later.session.Resting := by
  induction h with
  | refl => exact hr
  | step _ hstep _ ih => exact hstep.operationStep.resting ih

end Client

end EdgeStreams
