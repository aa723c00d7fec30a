import EdgeStreams.Stream.Session

/-!
# Transform streams

A transform stream is a writable and a readable half. What is written to the one goes through a
transformer and comes out of the other. The halves share their start, and an error of either half
is an error of the other.

## Main definitions

- `Session.withTransformer`: lets the transformer work on the readable half
- `Session.createTransform`: makes a transform stream and starts its transformer

## Design notes

A transformer whose start fails leaves two halves with its error, so that their owner can still see
and release them.
-/

namespace EdgeStreams

variable {H E : Type}

/-- What a transformer does at its desk. -/
abbrev TransformWork (E : Type) :=
  Transformer E → E → TransformDesk → GuestResult E × TransformDesk

namespace TransformWork

/-- The transformer is started. -/
def start : TransformWork E := fun transformer env desk =>
  (transformer.start env).run TransformDesk.perform desk

/-- The transformer is handed a chunk. -/
def transform (chunk : Bytes) : TransformWork E := fun transformer env desk =>
  (transformer.transform chunk env).run TransformDesk.perform desk

/-- The transformer is told that no more chunks come; then the readable half ends. -/
def flush : TransformWork E := fun transformer env desk =>
  match (transformer.flush env).run TransformDesk.perform desk with
  | ((.ok (), env), desk) => ((.ok (), env), desk.finish)
  | failure => failure

end TransformWork

namespace Session

/-- The error that the writable half takes over after the transformer has worked. -/
def writableFault? (outcome : Except StreamError Unit) (desk : TransformDesk) :
    Option StreamError :=
  match outcome with
  | .error error => some error
  | .ok () =>
    if desk.terminated then
      match desk.controller.state with
      | .errored error => some error
      | _ => some .closed
    else none

/-- Whether the transformer has failed the stream. -/
def bridgeFails (outcome : Except StreamError Unit) (desk : TransformDesk) : Bool :=
  match outcome, desk.controller.state with
  | .error _, _ => true
  | .ok (), .errored _ => desk.terminated
  | .ok (), _ => false

/-- Lets the transformer work on the readable half. A failure fails both halves. -/
def withTransformer (id : BridgeId) (work : TransformWork E) : Action H E StreamError Unit := do
  let bridge ← bridge id
  let source ← source bridge.readable
  match source.controller.state with
  | .errored error => throw error
  | _ =>
    let ((result, env), desk) :=
      work bridge.transformer (← get).env { controller := source.controller }
    modify fun session => { session with env }
    modify (noteEnqueued bridge.readable desk.accepted)
    let controller := match result with
      | .error error => desk.controller.error error
      | .ok () => desk.controller
    modify (setSource bridge.readable { source with controller })
    if bridgeFails result desk then modify (setBridge id { bridge with errored := true })
    match writableFault? result desk with
    | some error =>
      modify (mapStreams fun streams => streams.modifySink bridge.writable fun sink =>
        if sink.controller.state = .writable then
          { sink with controller := sink.controller.error error }
        else sink)
    | none => pure ()
    settled result

/-- Enters a bridge and its two halves, which are not yet started. -/
def enterTransform (transformer : Transformer E) (streams : Registry E) :
    TransformStream × Registry E :=
  let id : BridgeId := ⟨streams.bridges.nextKey⟩
  let (readable, streams) := streams.addSource
    { backing := .transform id
      controller := { highWaterMark := streams.config.transformHighWaterMark }
      start := .pending }
  let (writable, streams) := streams.addSink
    { backing := .transform id
      controller := { highWaterMark := 0 }
      start := .pending }
  let (_, bridges) := streams.bridges.insert { readable, writable, transformer }
  (⟨id, readable, writable⟩, { streams with bridges })

/-- Settles the start that two halves share. -/
def settleStart (stream : TransformStream) (settle : StartState → StartState)
    (streams : Registry E) : Registry E :=
  (streams.modifySource stream.readable fun source =>
      { source with start := settle source.start }).modifySink
    stream.writable fun sink => { sink with start := settle sink.start }

/-- Makes a transform stream and starts its transformer. -/
def createTransform (transformer : Transformer E) : Step H E TransformStream := do
  let stream ← modifyGet (changeStreams (enterTransform transformer))
  let result ← outcome (withTransformer stream.bridge .start)
  modify (note (.sinkStarted stream.writable result))
  match result with
  | .ok () => modify (mapStreams (settleStart stream StartState.resolve))
  | .error error =>
    modify (mapStreams (settleStart stream fun start => start.reject error))
    modify (mapStreams fun streams => streams.modifySink stream.writable fun sink =>
      { sink with controller := sink.controller.error error })
  return stream

/-- Makes a transform stream that passes every chunk on. -/
def createIdentity : Step H E TransformStream := createTransform Transformer.identity

end Session

end EdgeStreams
