import EdgeStreams.Proofs.Registry.Lookup
import EdgeStreams.Stream.Transform

/-!
# Adding to the registry

A new entry gets a name that nothing has had, and leaves all other entries as they are.

## Main definitions

- `Registry.WellFormed`: every table of a registry is well-formed

## Main statements

- `Registry.source?_addSource`, `Registry.sink?_addSink`: a new stream
- `Registry.source?_enterTransform` and its like: a new transform stream
-/

namespace EdgeStreams

variable {E : Type}

namespace Registry

/-- Every table of a registry is well-formed. -/
structure WellFormed (streams : Registry E) : Prop where
  sources : streams.sources.WellFormed
  sinks : streams.sinks.WellFormed
  bridges : streams.bridges.WellFormed
  pipes : streams.pipes.WellFormed

theorem wellFormed_new (config : StreamConfig) : (new config : Registry E).WellFormed :=
  ⟨SlotMap.wellFormed_empty, SlotMap.wellFormed_empty, SlotMap.wellFormed_empty,
    SlotMap.wellFormed_empty⟩

variable {streams : Registry E} (wf : streams.WellFormed)

theorem WellFormed.modifySource (wf : streams.WellFormed) (id : ReadableId)
    (f : Source E → Source E) : (streams.modifySource id f).WellFormed := by
  unfold Registry.modifySource
  split
  · exact ⟨wf.sources.set _ _, wf.sinks, wf.bridges, wf.pipes⟩
  · exact wf

theorem WellFormed.modifySink (wf : streams.WellFormed) (id : WritableId) (f : Sink E → Sink E) :
    (streams.modifySink id f).WellFormed := by
  unfold Registry.modifySink
  split
  · exact ⟨wf.sources, wf.sinks.set _ _, wf.bridges, wf.pipes⟩
  · exact wf

theorem WellFormed.setSource (wf : streams.WellFormed) (id : ReadableId) (source : Source E) :
    (streams.setSource id source).WellFormed :=
  ⟨wf.sources.set _ _, wf.sinks, wf.bridges, wf.pipes⟩

include wf

/-! ### New streams -/

section Streams

variable (source : Source E) (sink : Sink E)

theorem source?_addSource_fst : streams.source? (streams.addSource source).1 = none := by
  simp only [source?, addSource, SlotMap.insert_fst]
  exact wf.sources.get?_nextKey

theorem source?_addSource (id : ReadableId) :
    (streams.addSource source).2.source? id =
      if id = (streams.addSource source).1 then some source else streams.source? id := by
  simp only [source?, addSource, wf.sources.get?_insert, SlotMap.insert_fst,
    ← EntryId.key_inj]

theorem source?_bodySource (handle : BodyHandle) (id : ReadableId) :
    (streams.bodySource handle).2.source? id =
      if id = (streams.bodySource handle).1 then
        some { backing := .body handle streams.config.bodyChunkSize
               controller := { highWaterMark := streams.config.bodyHighWaterMark } }
      else streams.source? id := source?_addSource wf _ id

theorem WellFormed.addSource : (streams.addSource source).2.WellFormed :=
  ⟨wf.sources.insert source, wf.sinks, wf.bridges, wf.pipes⟩

theorem sink?_addSink_fst : streams.sink? (streams.addSink sink).1 = none := by
  simp only [sink?, addSink, SlotMap.insert_fst]
  exact wf.sinks.get?_nextKey

theorem sink?_addSink (id : WritableId) :
    (streams.addSink sink).2.sink? id =
      if id = (streams.addSink sink).1 then some sink else streams.sink? id := by
  simp only [sink?, addSink, wf.sinks.get?_insert, SlotMap.insert_fst, ← EntryId.key_inj]

theorem WellFormed.addSink : (streams.addSink sink).2.WellFormed :=
  ⟨wf.sources, wf.sinks.insert sink, wf.bridges, wf.pipes⟩

end Streams

/-! ### New transform streams -/

section Transform

variable (transformer : Transformer E)

/-- The readable half of a new transform stream. -/
def newReadable (streams : Registry E) (bridge : BridgeId) (start : StartState) : Source E where
  backing := .transform bridge
  controller := { highWaterMark := streams.config.transformHighWaterMark }
  start := start

/-- The writable half of a new transform stream. -/
def newWritable (bridge : BridgeId) (start : StartState) : Sink E where
  backing := .transform bridge
  controller := { highWaterMark := 0 }
  start := start

omit wf in
theorem enterTransform_eq :
    Session.enterTransform transformer streams =
      let stream : TransformStream :=
        ⟨⟨streams.bridges.nextKey⟩, ⟨streams.sources.nextKey⟩, ⟨streams.sinks.nextKey⟩⟩
      (stream,
        { streams with
          sources := (streams.sources.insert (streams.newReadable stream.bridge .pending)).2
          sinks := (streams.sinks.insert (newWritable stream.bridge .pending)).2
          bridges := (streams.bridges.insert
            { readable := stream.readable, writable := stream.writable, transformer }).2 }) := by
  simp [Session.enterTransform, addSource, addSink, newReadable, newWritable]

omit wf in
theorem pipes_enterTransform :
    (Session.enterTransform transformer streams).2.pipes = streams.pipes := by
  rw [enterTransform_eq]

omit wf in
theorem config_enterTransform :
    (Session.enterTransform transformer streams).2.config = streams.config := by
  rw [enterTransform_eq]

theorem WellFormed.enterTransform : (Session.enterTransform transformer streams).2.WellFormed := by
  rw [enterTransform_eq]
  exact ⟨wf.sources.insert _, wf.sinks.insert _, wf.bridges.insert _, wf.pipes⟩

/-- The names of a new transform stream are new. -/
theorem none_enterTransform :
    streams.source? (Session.enterTransform transformer streams).1.readable = none ∧
      streams.sink? (Session.enterTransform transformer streams).1.writable = none ∧
      streams.bridge? (Session.enterTransform transformer streams).1.bridge = none := by
  rw [enterTransform_eq]
  exact ⟨wf.sources.get?_nextKey, wf.sinks.get?_nextKey, wf.bridges.get?_nextKey⟩

theorem source?_enterTransform (id : ReadableId) :
    (Session.enterTransform transformer streams).2.source? id =
      if id = (Session.enterTransform transformer streams).1.readable then
        some (streams.newReadable (Session.enterTransform transformer streams).1.bridge .pending)
      else streams.source? id := by
  rw [enterTransform_eq]
  simp only [source?, wf.sources.get?_insert, ← EntryId.key_inj]

theorem sink?_enterTransform (id : WritableId) :
    (Session.enterTransform transformer streams).2.sink? id =
      if id = (Session.enterTransform transformer streams).1.writable then
        some (newWritable (Session.enterTransform transformer streams).1.bridge .pending)
      else streams.sink? id := by
  rw [enterTransform_eq]
  simp only [sink?, wf.sinks.get?_insert, ← EntryId.key_inj]

theorem bridge?_enterTransform (id : BridgeId) :
    (Session.enterTransform transformer streams).2.bridge? id =
      if id = (Session.enterTransform transformer streams).1.bridge then
        some
          { readable := (Session.enterTransform transformer streams).1.readable
            writable := (Session.enterTransform transformer streams).1.writable
            transformer }
      else streams.bridge? id := by
  rw [enterTransform_eq]
  simp only [bridge?, wf.bridges.get?_insert, ← EntryId.key_inj]

end Transform

end Registry

end EdgeStreams
