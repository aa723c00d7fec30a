import EdgeStreams.Proofs.Client.Names
import EdgeStreams.Proofs.Piping.Halves
import EdgeStreams.Proofs.Queue.Passing

/-!
# Transform streams, whatever clients do

The two halves of every transform stream belong together in every state that clients can reach. A
bridge may be left with one half only; the name of the other is not given to another stream, unless
a generation runs over.

## Main definitions

- `Session.Coupled`: what holds of the streams between two operations

## Main statements

- `Session.OperationStep.coupled`, `Client.LeadsTo.coupled`: it remains so
-/

namespace EdgeStreams

variable {H E : Type}

namespace Registry

variable {streams streams' : Registry E} {mark : UInt64}

/-- Where no source is made, a source was there before. -/
theorem Turnover.source_before (h : streams.Turnover streams') (hm : streams.MakesNone streams')
    {id : ReadableId} {source' : Source E} (hs' : streams'.source? id = some source') :
    ∃ source, streams.source? id = some source ∧ source.Same source' := by
  have hshift := h.source id
  rw [hs'] at hshift
  generalize hold : streams.source? id = old at hshift
  cases hshift with
  | kept hsame => exact ⟨_, rfl, hsame⟩
  | made => cases hs'.symm.trans (hm.source hold)

theorem Turnover.sink_before (h : streams.Turnover streams') (hm : streams.MakesNone streams')
    {id : WritableId} {sink' : Sink E} (hk' : streams'.sink? id = some sink') :
    ∃ sink, streams.sink? id = some sink ∧ sink.Same sink' := by
  have hshift := h.sink id
  rw [hk'] at hshift
  generalize hold : streams.sink? id = old at hshift
  cases hshift with
  | kept hsame => exact ⟨_, rfl, hsame⟩
  | made => cases hk'.symm.trans (hm.sink hold)

/-- Nothing has been made, and what is left is as it was. -/
theorem Couples.turnover (h : streams.Couples mark) (hs : streams.Turnover streams')
    (hm : streams.MakesNone streams') : streams'.Couples mark := by
  refine ⟨fun hs' => ?_, fun hs' ht' => ?_, fun hs' hback' hb' hk' => ?_⟩
  · obtain ⟨source, hsource, hsame⟩ := hs.source_before hm hs'
    rw [hsame.start, hsame.controller]
    exact h.started hsource
  · obtain ⟨source, hsource, hsame⟩ := hs.source_before hm hs'
    rw [hsame.controller]
    exact h.marked hsource (ht'.imp fun _ hback => hsame.backing.symm.trans hback)
  · obtain ⟨source, hsource, hsame⟩ := hs.source_before hm hs'
    obtain ⟨sink, hk, hsameSink⟩ := hs.sink_before hm hk'
    rw [hsameSink.backing, hsameSink.controller, hsame.controller]
    exact h.paired hsource (hsame.backing.symm.trans hback') (hm.bridge hb') hk

/-- A stream has been made that is not a transform stream. -/
theorem Couples.growsTo (h : streams.Couples mark)
    (hsource : ∀ {id source}, streams'.source? id = some source → streams.source? id = some source ∨
      source.start = .resolved ∧ ¬ source.IsTransform)
    (hbridge : ∀ name, streams'.bridge? name = streams.bridge? name)
    (hsink : ∀ {name bridge}, streams.bridge? name = some bridge →
      streams'.sink? bridge.writable = streams.sink? bridge.writable) : streams'.Couples mark := by
  refine ⟨fun hs' => ?_, fun hs' ht' => ?_, fun hs' hback' hb' hk' => ?_⟩
  · rcases hsource hs' with hs | ⟨hstart, -⟩
    · exact h.started hs
    · exact .inl hstart
  · rcases hsource hs' with hs | ⟨-, hnative⟩
    · exact h.marked hs ht'
    · exact absurd ht' hnative
  · rcases hsource hs' with hs | ⟨-, hnative⟩
    · rw [hbridge] at hb'
      rw [hsink hb'] at hk'
      exact h.paired hs hback' hb' hk'
    · exact absurd ⟨_, hback'⟩ hnative

end Registry

namespace Session

variable {s t : Session H E}

/-- What holds of the streams between two operations: nothing is under way, the halves of transform
streams belong together, bridges have names that have been given out, and streams hand on their
chunks. -/
structure Coupled (s : Session H E) : Prop where
  resting : s.Resting
  couples : s.streams.Couples s.streams.config.transformHighWaterMark
  issued : ∀ {name bridge}, s.streams.bridge? name = some bridge →
    s.streams.sinks.Issued bridge.writable.key
  passedInOrder : ∀ {id source}, s.streams.source? id = some source →
    ∃ first, PassedInOrder id first s

theorem coupled_new (host : H) (env : E) (config : StreamConfig) :
    Coupled { host, env, streams := .new config } := by
  have hsource : ∀ id, (Registry.new config : Registry E).source? id = none :=
    fun _ => SlotMap.get?_empty _
  have hbridge : ∀ id, (Registry.new config : Registry E).bridge? id = none :=
    fun _ => SlotMap.get?_empty _
  refine ⟨resting_new host env config, ⟨?_, ?_, ?_⟩, ?_, ?_⟩
  all_goals
    intros
    simp_all

/-! ### New transform streams -/

section Transform

variable (wf : s.streams.WellFormed) (transformer : Transformer E)

theorem writable_nextStream :
    (nextStream transformer s).writable.key = s.streams.sinks.nextKey := by
  rw [nextStream, Registry.enterTransform_eq]

/-- A new readable half has the mark of the settings. -/
theorem marked_newHalf :
    (newHalf transformer s).controller.highWaterMark = s.streams.config.transformHighWaterMark ∧
      (newHalf transformer s).controller.Measured := by
  have hproceeds : ReadableController.ProceedsTo
      { highWaterMark := s.streams.config.transformHighWaterMark }
      (newHalf transformer s).controller :=
    proceedsTo_leftBy (TransformWork.keepsEnded_start transformer s.env
      { controller := { highWaterMark := s.streams.config.transformHighWaterMark } })
  exact ⟨hproceeds.mark, hproceeds.measured ⟨rfl, nofun⟩⟩

/-- A stream whose start has failed has failed. -/
theorem started_newHalf :
    (newHalf transformer s).start = .resolved ∨ (∃ error, (newHalf transformer s).start =
      .rejected error) ∧ (newHalf transformer s).controller.state ≠ .readable := by
  unfold newHalf settledBy leftBy
  cases (startWork transformer s).1.1 with
  | ok => exact .inl rfl
  | error error => exact .inr ⟨⟨error, rfl⟩, ReadableController.state_error _ error⟩

include wf

/-- The writable half of a new transform stream takes writes if its readable half takes chunks. -/
theorem paired_newHalf {sink : Sink E}
    (hk : ((createTransform transformer : Step H E TransformStream) s).2.streams.sink?
      (nextStream transformer s).writable = some sink) :
    sink.backing = .transform (nextStream transformer s).bridge ∧
      (sink.controller.state ≠ .writable → ¬ (newHalf transformer s).controller.IsOpen) := by
  rw [createTransform_eq wf, streams_mapStreams, streams_note, sink?_settleTransform,
    if_pos rfl] at hk
  obtain ⟨half, hhalf, rfl⟩ := Option.map_eq_some_iff.mp hk
  refine ⟨?_, fun hended hopen => hended ?_⟩
  · obtain ⟨found, hfound, hripples⟩ := sink?_startedTransform_new wf transformer
    cases hhalf.symm.trans hfound
    refine Eq.trans ?_ hripples.keeps.backing
    cases (startWork transformer s).1.1 <;> rfl
  · have hstops : (startWork transformer s).2.terminated = true →
        ¬ (startWork transformer s).2.controller.IsOpen :=
      TransformWork.stops_start transformer s.env _
    obtain ⟨hok, hfault⟩ := writableFault?_of_open hstops hopen
    rw [startedTransform, sink?_transformed_of_open hfault, Registry.sink?_enterTransform wf,
      if_pos rfl] at hhalf
    cases hhalf
    rw [hok]
    rfl

end Transform

/-- The name of a writable half is not given to another stream. -/
theorem Coupled.ne_nextStream (h : s.Coupled) (transformer : Transformer E) {name : BridgeId}
    {bridge : Bridge E} (hb : s.streams.bridge? name = some bridge) :
    bridge.writable ≠ (nextStream transformer s).writable := fun he =>
  (h.issued hb).ne_nextKey h.resting.wellFormed.sinks
    ((congrArg EntryId.key he).trans (writable_nextStream transformer))

theorem Coupled.sink?_addSink (h : s.Coupled) (sink : Sink E) {name : BridgeId} {bridge : Bridge E}
    (hb : s.streams.bridge? name = some bridge) :
    (s.streams.addSink sink).2.sink? bridge.writable = s.streams.sink? bridge.writable := by
  have wf := h.resting.wellFormed
  have hkey : (s.streams.addSink sink).1.key = s.streams.sinks.nextKey := SlotMap.insert_fst ..
  rw [Registry.sink?_addSink wf, if_neg]
  exact fun he => (h.issued hb).ne_nextKey wf.sinks ((congrArg EntryId.key he).trans hkey)

theorem couples_createTransform (h : s.Coupled) (transformer : Transformer E) :
    ((createTransform transformer : Step H E TransformStream) s).2.streams.Couples
      s.streams.config.transformHighWaterMark := by
  have wf := h.resting.wellFormed
  have hsource : ∀ id,
    ((createTransform transformer : Step H E TransformStream) s).2.streams.source? id =
      if id = (nextStream transformer s).readable then some (newHalf transformer s)
      else s.streams.source? id := fun id => by
    rw [createTransform_eq wf, streams_mapStreams, streams_note, source?_startSettled wf]
  have hbridge : ∀ name,
    ((createTransform transformer : Step H E TransformStream) s).2.streams.bridge?
      name = (startedTransform transformer s).streams.bridge? name := fun name => by
    rw [createTransform_eq wf, streams_mapStreams, streams_note, bridge?_settleTransform]
  refine ⟨fun {id source} hs => ?_, fun {id source} hs ht => ?_,
    fun {id source name bridge sink} hs hback hb hk => ?_⟩
  · rw [hsource] at hs
    split at hs
    · cases hs
      exact started_newHalf transformer
    · exact h.couples.started hs
  · rw [hsource] at hs
    split at hs
    · cases hs
      exact marked_newHalf transformer
    · exact h.couples.marked hs ht
  · rw [hsource] at hs
    rw [hbridge] at hb
    split at hs
    · cases hs
      cases hback
      obtain ⟨found, hfound, hkeeps⟩ := bridge?_startedTransform_new wf transformer
      cases hb.symm.trans hfound
      rw [hkeeps.writable] at hk
      exact paired_newHalf wf transformer hk
    · obtain ⟨old, hold, -⟩ := h.resting.composed.readable hs hback
      obtain ⟨found, hfound, hkeeps⟩ := bridge?_startedTransform_old wf transformer hold
      cases hb.symm.trans hfound
      have hne := h.ne_nextStream transformer hold
      rw [hkeeps.writable, createTransform_eq wf, streams_mapStreams, streams_note,
        sink?_settleTransform, if_neg hne, sink?_startedTransform_old wf transformer hne] at hk
      exact h.couples.paired hs hback hold hk

/-- A new native sink leaves the halves of transform streams together. -/
theorem couples_addSink (h : s.Coupled) (sink : Sink E) :
    (s.streams.addSink sink).2.Couples s.streams.config.transformHighWaterMark :=
  h.couples.growsTo .inl (fun _ => rfl) (h.sink?_addSink sink)

/-- A new native source leaves the halves of transform streams together. -/
theorem couples_addSource (h : s.Coupled) {source : Source E} (hstart : source.start = .resolved)
    (hn : ¬ source.IsTransform) :
    (s.streams.addSource source).2.Couples s.streams.config.transformHighWaterMark := by
  refine h.couples.growsTo (fun hs => ?_) (fun _ => rfl) fun _ => rfl
  rw [Registry.source?_addSource h.resting.wellFormed] at hs
  split at hs
  · cases hs
    exact .inr ⟨hstart, hn⟩
  · exact .inl hs

/-! ### Operations -/

section Operations

variable [Host H]

/-- A bridge was there before, or its writable half is there. -/
theorem OperationStep.bridge_before (hd : OperationStep s t) (hr : s.Resting) {name : BridgeId}
    {bridge : Bridge E}
    (hb : t.streams.bridge? name = some bridge) :
    (∃ old, s.streams.bridge? name = some old ∧ old.writable = bridge.writable) ∨
      ∃ sink, t.streams.sink? bridge.writable = some sink := by
  have wf := hr.wellFormed
  cases hd.operationEffect hr with
  | @deeds between t hturnover _ hnone _ hflows =>
    obtain ⟨made, hcourse⟩ := hflows.course
    obtain ⟨old, hold, hkeeps⟩ := SlotMap.rel_some_right
      (hb ▸ hcourse.bridge (hturnover.streams.composed hr.composed) name)
    exact .inl ⟨old, hnone.bridge hold, hkeeps.writable.symm⟩
  | bodySource | bodySink | scriptSink => exact .inl ⟨bridge, hb, rfl⟩
  | scriptSource guest mark =>
    rw [streams_scriptSource] at hb
    exact .inl ⟨bridge, hb, rfl⟩
  | createTransform transformer =>
    have hrel := (asksNothing_startedTransform wf transformer).bridge name
    rw [createTransform_eq wf, streams_mapStreams, streams_note, bridge?_settleTransform] at hb
    rw [hb, Registry.bridge?_enterTransform wf] at hrel
    obtain ⟨old, hold, hkeeps⟩ := SlotMap.rel_some_right hrel
    split at hold
    · cases hold
      obtain ⟨half, hhalf, -⟩ := sink?_startedTransform_new wf transformer
      refine .inr ⟨startedHalf (startWork transformer s).1.1 half, ?_⟩
      rw [createTransform_eq wf, streams_mapStreams, streams_note, sink?_settleTransform,
        hkeeps.writable, if_pos rfl]
      exact congrArg (Option.map _) hhalf
    · exact .inl ⟨old, hold, hkeeps.writable.symm⟩

theorem OperationStep.couples (hd : OperationStep s t) (h : s.Coupled) :
    t.streams.Couples s.streams.config.transformHighWaterMark := by
  cases hd.operationEffect h.resting with
  | @deeds between t hturnover _ hnone _ hflows =>
    exact hflows.couples (hturnover.streams.composed h.resting.composed)
      (h.couples.turnover hturnover.streams hnone)
  | bodySource handle => exact couples_addSource h rfl (by rintro ⟨name, hback⟩; cases hback)
  | scriptSource guest mark =>
    rw [streams_scriptSource]
    exact couples_addSource h rfl (by rintro ⟨name, hback⟩; cases hback)
  | bodySink handle => exact couples_addSink h _
  | scriptSink guest => exact couples_addSink h _
  | createTransform transformer => exact couples_createTransform h transformer

/-- An operation leaves the halves of transform streams together, unless a generation runs over. -/
theorem OperationStep.coupled (hd : OperationStep s t) (h : s.Coupled)
    (hages : s.streams.sinks.Ages t.streams.sinks) : t.Coupled := by
  have hkeeps := hd.keepsNames h.resting.wellFormed
  refine ⟨hd.resting h.resting, ?_, fun {name bridge} hb => ?_, fun {id source'} hs' => ?_⟩
  · rw [hkeeps.config]
    exact hd.couples h
  · rcases hd.bridge_before h.resting hb with ⟨old, hold, he⟩ | ⟨sink, hk⟩
    · exact he ▸ hkeeps.issued (h.issued hold) hages
    · exact SlotMap.issued_of_get? hk
  · cases hs : s.streams.source? id with
    | none => exact ⟨s, hd.passedInOrder_made h.resting hs hs'⟩
    | some source =>
      obtain ⟨first, hinOrder⟩ := h.passedInOrder hs
      refine ⟨first, hd.passedInOrder h.resting (fun hnone => ?_) hinOrder⟩
      cases hs.symm.trans hnone

end Operations

end Session

/-! ### Clients -/

namespace Client

variable [Host H] {uses : H → List UInt32 → H → Prop} {client later : Client H E}

/-- Between two states the generations of the slots for sinks have not gone back, which they would
do only where one runs over. -/
def SinksAge (before after : Client H E) : Prop :=
  before.session.streams.sinks.Ages after.session.streams.sinks

/-- By induction on the operations. -/
theorem LeadsTo.coupled (h : LeadsTo uses SinksAge client later) (hc : client.session.Coupled) :
    later.session.Coupled := by
  induction h with
  | refl => exact hc
  | step _ hstep hages ih => exact hstep.operationStep.coupled ih hages

end Client

end EdgeStreams
