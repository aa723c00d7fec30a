import EdgeStreams.Proofs.Registry.Adding
import EdgeStreams.Proofs.Session.Algorithms

/-!
# Making transform streams

A transform stream that passes every chunk on has started as soon as it is made.

## Main definitions

- `Session.Gains`: a session has gained a transform stream
- `Session.createIdentities`: makes several of them
- `Session.GainsAll`: a session has gained several of them

## Main statements

- `Session.gains_createIdentity`, `Session.gainsAll_createIdentities`
-/

namespace EdgeStreams

variable {H E : Type}

namespace Session

variable {s s' s'' : Session H E} {stage : TransformStream} {stages : List TransformStream}

/-- The identity transformer has nothing to do at its start. -/
theorem exec_start_identity (id : BridgeId) {bridge : Bridge E} (source : Source E)
    (hb : s.streams.bridge? id = some bridge) (hid : bridge.transformer = .identity)
    (hr : s.streams.source? bridge.readable = some source)
    (hs : source.controller.state = .readable) :
    exec (withTransformer id .start) s = (.ok (), setSource bridge.readable source s) := by
  simp [withTransformer, exec_bind, hb, hr, hs, hid, Transformer.identity, TransformWork.start,
    Program.run, bridgeFails, writableFault?, noteEnqueued, setSource]

/-- A session has gained a transform stream that passes every chunk on. -/
structure Gains (stage : TransformStream) (s s' : Session H E) : Prop where
  new_readable : s.streams.source? stage.readable = none
  new_writable : s.streams.sink? stage.writable = none
  new_bridge : s.streams.bridge? stage.bridge = none
  source : ∀ id, s'.streams.source? id =
    if id = stage.readable then some (s.streams.newReadable stage.bridge .resolved)
    else s.streams.source? id
  sink : ∀ id, s'.streams.sink? id =
    if id = stage.writable then some (Registry.newWritable stage.bridge .resolved)
    else s.streams.sink? id
  bridge : ∀ id, s'.streams.bridge? id =
    if id = stage.bridge then
      some { readable := stage.readable, writable := stage.writable, transformer := .identity }
    else s.streams.bridge? id
  pipes : s'.streams.pipes = s.streams.pipes
  config : s'.streams.config = s.streams.config
  host : s'.host = s.host
  wellFormed : s'.streams.WellFormed

/-- What making a transform stream that passes every chunk on comes to. -/
theorem createIdentity_run (wf : s.streams.WellFormed) :
    (createIdentity : Step H E TransformStream).run s =
      ((enterTransform .identity s.streams).1,
        mapStreams (settleStart (enterTransform .identity s.streams).1 StartState.resolve)
          (note (.sinkStarted (enterTransform .identity s.streams).1.writable (.ok ()))
            (setSource (enterTransform .identity s.streams).1.readable
              (s.streams.newReadable (enterTransform .identity s.streams).1.bridge .pending)
              { s with streams := (enterTransform .identity s.streams).2 }))) := by
  have hstart := exec_start_identity
      (s := { s with streams := (enterTransform .identity s.streams).2 })
    (enterTransform .identity s.streams).1.bridge
    (s.streams.newReadable (enterTransform .identity s.streams).1.bridge .pending)
    ((Registry.bridge?_enterTransform wf .identity _).trans (if_pos rfl)) rfl
    ((Registry.source?_enterTransform wf .identity _).trans (if_pos rfl)) rfl
  have hrun : ∀ (action : Action H E StreamError Unit) (s : Session H E),
      StateT.run (outcome action) s = pure (exec action s) := fun _ _ => rfl
  simp only [createIdentity, createTransform, changeStreams, StateT.run_bind, StateT.run_modifyGet,
    pure_bind, hrun, hstart, StateT.run_modify, StateT.run_pure]
  rfl

theorem gains_createIdentity (wf : s.streams.WellFormed) :
    Gains ((createIdentity : Step H E TransformStream).run s).1 s
      ((createIdentity : Step H E TransformStream).run s).2 := by
  rw [createIdentity_run wf]
  have wf' : (enterTransform .identity s.streams).2.WellFormed := wf.enterTransform .identity
  obtain ⟨hreadable, hwritable, hbridge⟩ := Registry.none_enterTransform wf (.identity (E := E))
  refine ⟨hreadable, hwritable, hbridge, fun id => ?_, fun id => ?_, fun id => ?_, ?_, ?_, ?_, ?_⟩
  · simp only [streams_mapStreams, streams_note, setSource, settleStart,
      Registry.source?_modifySink, Registry.source?_modifySource, Registry.source?_setSource,
      Registry.source?_enterTransform wf, if_true, Option.map_some]
    split <;> rfl
  · simp only [streams_mapStreams, streams_note, setSource, settleStart,
      Registry.sink?_modifySink, Registry.sink?_modifySource, Registry.sink?_setSource,
      Registry.sink?_enterTransform wf, if_true, Option.map_some]
    split <;> rfl
  · simp only [streams_mapStreams, streams_note, setSource, settleStart,
      Registry.bridge?_modifySink, Registry.bridge?_modifySource, Registry.bridge?_setSource,
      Registry.bridge?_enterTransform wf]
  · simp [setSource, settleStart, Registry.pipes_enterTransform]
  · simp only [streams_mapStreams, streams_note, setSource, settleStart,
      Registry.config_modifySink, Registry.config_modifySource, Registry.config_setSource,
      Registry.config_enterTransform]
  · simp only [host_mapStreams, host_note, setSource]
  · simp only [streams_mapStreams, streams_note, setSource, settleStart]
    exact ((wf'.setSource _ _).modifySource _ _).modifySink _ _

/-! ### Several transform streams -/

/-- Makes transform streams that pass every chunk on. -/
def createIdentities : Nat → Step H E (List TransformStream)
  | 0 => return []
  | count + 1 => do
    let stage ← createIdentity
    let stages ← createIdentities count
    return stage :: stages

theorem createIdentities_run_succ (s : Session H E) (count : Nat) :
    (createIdentities (count + 1)).run s =
      ((createIdentity.run s).1 :: ((createIdentities count).run (createIdentity.run s).2).1,
        ((createIdentities count).run (createIdentity.run s).2).2) := by
  simp only [createIdentities, StateT.run_bind, StateT.run_pure]
  rfl

/-- A session has gained transform streams that pass every chunk on, and has kept what it had. -/
structure GainsAll (stages : List TransformStream) (s s' : Session H E) : Prop where
  source : ∀ id source, s.streams.source? id = some source → s'.streams.source? id = some source
  sink : ∀ id sink, s.streams.sink? id = some sink → s'.streams.sink? id = some sink
  bridge : ∀ id bridge, s.streams.bridge? id = some bridge → s'.streams.bridge? id = some bridge
  new : ∀ stage ∈ stages, s.streams.sink? stage.writable = none ∧
    s.streams.bridge? stage.bridge = none ∧
    s'.streams.source? stage.readable = some (s.streams.newReadable stage.bridge .resolved) ∧
    s'.streams.sink? stage.writable = some (Registry.newWritable stage.bridge .resolved) ∧
    s'.streams.bridge? stage.bridge =
      some { readable := stage.readable, writable := stage.writable, transformer := .identity }
  nodup : (stages.map TransformStream.bridge).Nodup
  pipes : s'.streams.pipes = s.streams.pipes
  config : s'.streams.config = s.streams.config
  host : s'.host = s.host
  wellFormed : s'.streams.WellFormed

theorem GainsAll.nil (wf : s.streams.WellFormed) : GainsAll [] s s :=
  ⟨fun _ _ h => h, fun _ _ h => h, fun _ _ h => h, fun _ h => absurd h List.not_mem_nil,
    List.nodup_nil, rfl, rfl, rfl, wf⟩

theorem GainsAll.cons (h : Gains stage s s') (h' : GainsAll stages s' s'') :
    GainsAll (stage :: stages) s s'' := by
  have hsource : s'.streams.source? stage.readable = _ := (h.source _).trans (if_pos rfl)
  have hsink : s'.streams.sink? stage.writable = _ := (h.sink _).trans (if_pos rfl)
  have hbridge : s'.streams.bridge? stage.bridge = _ := (h.bridge _).trans (if_pos rfl)
  have holdSink : ∀ id sink, s.streams.sink? id = some sink → s'.streams.sink? id = some sink := by
    intro id sink hs
    have hne : id ≠ stage.writable := fun he => by rw [he, h.new_writable] at hs; cases hs
    rw [h.sink, if_neg hne, hs]
  have holdBridge : ∀ id bridge, s.streams.bridge? id = some bridge →
      s'.streams.bridge? id = some bridge := by
    intro id bridge hs
    have hne : id ≠ stage.bridge := fun he => by rw [he, h.new_bridge] at hs; cases hs
    rw [h.bridge, if_neg hne, hs]
  refine ⟨fun id source hs => h'.source _ _ ?_, fun id sink hs => h'.sink _ _ (holdSink id sink hs),
    fun id bridge hs => h'.bridge _ _ (holdBridge id bridge hs), fun other hmem => ?_, ?_,
    h'.pipes.trans h.pipes, h'.config.trans h.config, h'.host.trans h.host, h'.wellFormed⟩
  · have hne : id ≠ stage.readable := fun he => by rw [he, h.new_readable] at hs; cases hs
    rw [h.source, if_neg hne, hs]
  · rcases List.mem_cons.mp hmem with rfl | hmem
    · exact ⟨h.new_writable, h.new_bridge, h'.source _ _ hsource, h'.sink _ _ hsink,
        h'.bridge _ _ hbridge⟩
    · obtain ⟨hwritable, hnew, hr, hw, hb⟩ := h'.new other hmem
      refine ⟨Option.eq_none_iff_forall_ne_some.mpr fun sink hs => ?_,
        Option.eq_none_iff_forall_ne_some.mpr fun bridge hs => ?_, ?_, hw, hb⟩
      · rw [holdSink _ _ hs] at hwritable
        cases hwritable
      · rw [holdBridge _ _ hs] at hnew
        cases hnew
      · rw [hr]
        simp only [Registry.newReadable, h.config]
  · rw [List.map_cons, List.nodup_cons]
    refine ⟨fun hmem => ?_, h'.nodup⟩
    obtain ⟨other, hother, he⟩ := List.mem_map.mp hmem
    obtain ⟨-, hnew, -⟩ := h'.new other hother
    rw [he, hbridge] at hnew
    cases hnew

theorem gainsAll_createIdentities (wf : s.streams.WellFormed) (count : Nat) :
    GainsAll ((createIdentities count : Step H E (List TransformStream)).run s).1 s
        ((createIdentities count : Step H E (List TransformStream)).run s).2 ∧
      ((createIdentities count : Step H E (List TransformStream)).run s).1.length = count := by
  induction count generalizing s with
  | zero => exact ⟨.nil wf, rfl⟩
  | succ count ih =>
    have hfirst := gains_createIdentity wf
    obtain ⟨hrest, hlength⟩ := ih hfirst.wellFormed
    rw [createIdentities_run_succ]
    exact ⟨.cons hfirst hrest, congrArg (· + 1) hlength⟩

end Session

end EdgeStreams
