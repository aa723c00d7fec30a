import EdgeStreams.Host.Handle
import EdgeStreams.Stream.Config
import EdgeStreams.Stream.Guest
import EdgeStreams.Stream.Identifier
import EdgeStreams.Stream.StartSignal

/-!
# The registry of streams

The registry holds every source, sink, bridge and pipe. The outside holds identifiers only, and the
entries refer to each other by identifiers, so that no reference keeps an entry alive.

## Main definitions

- `Source`, `Sink`, `Bridge`, `Pipe`: the entries
- `Registry`: all entries, the settings, and the next token
- `RegistryCall`: a computation that changes a registry and may fail
- locks: `Registry.getReader`, `Registry.releaseReader`, `Registry.checkReader`, and the same for
  writers
- `Registry.finishPipe`, `Registry.sweep`, `Registry.clear`

## Design notes

Nothing in this module reaches the host or a guest.
-/

namespace EdgeStreams

variable {E : Type}

/-! ### Entries -/

/-- Where the chunks of a readable stream come from. -/
inductive SourceBacking (E : Type) where
  /-- A host body, read in chunks of at most the given size. -/
  | body (handle : BodyHandle) (chunkSize : UInt64)
  | script (guest : UnderlyingSource E)
  /-- The writable half of a transform stream. -/
  | transform (bridge : BridgeId)

/-- What backs a readable or writable stream. -/
inductive Backing where
  | body
  | script
  | transform
deriving DecidableEq, Repr

/-- The name of the kind, as reports give it. -/
def Backing.label : Backing → String
  | .body => "Body"
  | .script => "Script"
  | .transform => "Transform"

/-- A readable stream. -/
structure Source (E : Type) where
  backing : SourceBacking E
  controller : ReadableController
  start : StartState := .resolved
  owner : Option OwnerKey := none
  readerLock : Option ReaderToken := none
  /-- Where the stream is piped to. It counts only while that stream lives. -/
  pipedTo : Option WritableId := none
  /-- A pull is under way. -/
  pulling : Bool := false
  /-- A pull was wanted while one was under way. -/
  pullAgain : Bool := false
  canceled : Bool := false
  /-- The stream has been read, piped or cancelled. -/
  disturbed : Bool := false
  /-- The owner is done with the stream. -/
  released : Bool := false

namespace Source

def kind (source : Source E) : Backing :=
  match source.backing with
  | .body _ _ => .body
  | .script _ => .script
  | .transform _ => .transform

def bodyHandle? (source : Source E) : Option BodyHandle :=
  match source.backing with
  | .body handle _ => some handle
  | _ => none

/-- Whether a pull would be of use: the stream is open for more, and the queue has room or a reader
waits. -/
def wantsPull (source : Source E) (readerWaits : Bool) : Bool :=
  source.start.isResolved && !source.canceled && !source.controller.closeRequested &&
    source.controller.state == .readable &&
    (readerWaits || decide (0 < source.controller.desiredSize.getD 0))

end Source

/-- Where the chunks of a writable stream go. -/
inductive SinkBacking (E : Type) where
  | body (handle : BodyHandle)
  | script (guest : UnderlyingSink E)
  /-- The readable half of a transform stream. -/
  | transform (bridge : BridgeId)

/-- A writable stream. -/
structure Sink (E : Type) where
  backing : SinkBacking E
  controller : WritableController
  start : StartState := .resolved
  owner : Option OwnerKey := none
  writerLock : Option WriterToken := none
  /-- The owner is done with the stream. -/
  released : Bool := false

namespace Sink

def kind (sink : Sink E) : Backing :=
  match sink.backing with
  | .body _ => .body
  | .script _ => .script
  | .transform _ => .transform

def bodyHandle? (sink : Sink E) : Option BodyHandle :=
  match sink.backing with
  | .body handle => some handle
  | _ => none

end Sink

/-- What joins the two halves of a transform stream. -/
structure Bridge (E : Type) where
  readable : ReadableId
  writable : WritableId
  transformer : Transformer E
  errored : Bool := false
  /-- The readable half has been pulled since the last write. Then one chunk is let through however
  full the readable half is. -/
  pullRequested : Bool := false

/-- The names of a transform stream's parts. -/
structure TransformStream where
  bridge : BridgeId
  readable : ReadableId
  writable : WritableId
deriving DecidableEq, Repr

/-- The state of a transform stream as it can be observed. -/
inductive BridgeState where
  | opened
  /-- The readable half has been ended and still holds chunks. -/
  | readableClosing
  | readableClosed
  | errored
deriving DecidableEq, Repr

/-- The name of the state, as reports give it. -/
def BridgeState.label : BridgeState → String
  | .opened => "Open"
  | .readableClosing => "ReadableClosing"
  | .readableClosed => "ReadableClosed"
  | .errored => "Errored"

/-- What a pipe does to one end when the other ends. -/
structure PipeOptions where
  /-- Leave the destination open when the source ends. -/
  preventClose : Bool := false
  /-- Leave the destination alone when the source fails. -/
  preventAbort : Bool := false
  /-- Leave the source alone when the destination fails. -/
  preventCancel : Bool := false
deriving DecidableEq, Repr

/-- The state of a pipe. A finished pipe never runs again. -/
inductive PipeState where
  | running
  | done
  | failed (error : StreamError)
deriving DecidableEq, Repr

/-- The name of the state, or the error that the pipe has failed with. -/
def PipeState.label : PipeState → Except StreamError String
  | .running => .ok "running"
  | .done => .ok "done"
  | .failed error => .error error

/-- A pipe. It holds the locks of both ends until it is finished. -/
structure Pipe where
  source : ReadableId
  destination : WritableId
  reader : ReaderToken
  writer : WriterToken
  options : PipeOptions
  state : PipeState := .running
  /-- The pipe is being driven. -/
  pumping : Bool := false
deriving DecidableEq, Repr

def Pipe.isRunning (pipe : Pipe) : Bool := pipe.state == .running

/-- All entries, with the settings that new ones are made with. -/
structure Registry (E : Type) where
  config : StreamConfig := {}
  sources : SlotMap (Source E) := {}
  sinks : SlotMap (Sink E) := {}
  bridges : SlotMap (Bridge E) := {}
  pipes : SlotMap Pipe := {}
  /-- The number of the next token. -/
  nextToken : Nat := 1

/-- A computation that changes a registry and may fail. -/
abbrev RegistryCall (E α : Type) := ExceptT StreamError (StateM (Registry E)) α

namespace Registry

def new (config : StreamConfig) : Registry E := { config := config.effective }

/-! ### Entries by name -/

def source? (streams : Registry E) (id : ReadableId) : Option (Source E) :=
  streams.sources.get? id.key

def sink? (streams : Registry E) (id : WritableId) : Option (Sink E) := streams.sinks.get? id.key

def bridge? (streams : Registry E) (id : BridgeId) : Option (Bridge E) :=
  streams.bridges.get? id.key

def pipe? (streams : Registry E) (id : PipeId) : Option Pipe := streams.pipes.get? id.key

def setSource (streams : Registry E) (id : ReadableId) (source : Source E) : Registry E :=
  { streams with sources := streams.sources.set id.key source }

def setSink (streams : Registry E) (id : WritableId) (sink : Sink E) : Registry E :=
  { streams with sinks := streams.sinks.set id.key sink }

def setBridge (streams : Registry E) (id : BridgeId) (bridge : Bridge E) : Registry E :=
  { streams with bridges := streams.bridges.set id.key bridge }

def setPipe (streams : Registry E) (id : PipeId) (pipe : Pipe) : Registry E :=
  { streams with pipes := streams.pipes.set id.key pipe }

/-- Changes a readable stream that lives. -/
def modifySource (streams : Registry E) (id : ReadableId) (f : Source E → Source E) : Registry E :=
  match streams.source? id with
  | some source => streams.setSource id (f source)
  | none => streams

/-- Changes a writable stream that lives. -/
def modifySink (streams : Registry E) (id : WritableId) (f : Sink E → Sink E) : Registry E :=
  match streams.sink? id with
  | some sink => streams.setSink id (f sink)
  | none => streams

def addSource (streams : Registry E) (source : Source E) : ReadableId × Registry E :=
  let (key, sources) := streams.sources.insert source
  (⟨key⟩, { streams with sources })

def addSink (streams : Registry E) (sink : Sink E) : WritableId × Registry E :=
  let (key, sinks) := streams.sinks.insert sink
  (⟨key⟩, { streams with sinks })

def addPipe (streams : Registry E) (pipe : Pipe) : PipeId × Registry E :=
  let (key, pipes) := streams.pipes.insert pipe
  (⟨key⟩, { streams with pipes })

/-! ### Streams over host bodies -/

/-- A readable stream over a host body. The body is read only when the stream is pulled. -/
def bodySource (streams : Registry E) (handle : BodyHandle) : ReadableId × Registry E :=
  streams.addSource
    { backing := .body handle streams.config.bodyChunkSize
      controller := { highWaterMark := streams.config.bodyHighWaterMark } }

/-- A writable stream over a host body that can be written. -/
def bodySink (streams : Registry E) (handle : BodyHandle) : WritableId × Registry E :=
  streams.addSink
    { backing := .body handle
      controller := { highWaterMark := streams.config.bodyChunkSize } }

/-! ### Queries -/

def containsReadable (streams : Registry E) (id : ReadableId) : Bool := (streams.source? id).isSome

def containsWritable (streams : Registry E) (id : WritableId) : Bool := (streams.sink? id).isSome

def sourceKind? (streams : Registry E) (id : ReadableId) : Option Backing :=
  (streams.source? id).map Source.kind

def sinkKind? (streams : Registry E) (id : WritableId) : Option Backing :=
  (streams.sink? id).map Sink.kind

/-- Whether a stream's chunks come from the runtime and not from a guest. -/
def hasNativeSource (streams : Registry E) (id : ReadableId) : Bool :=
  match streams.sourceKind? id with
  | some kind => kind != .script
  | none => false

/-- Whether a stream's chunks come straight from a host body. -/
def isBody (streams : Registry E) (id : ReadableId) : Bool :=
  streams.sourceKind? id == some .body

def bodyHandle? (streams : Registry E) (id : ReadableId) : Option BodyHandle :=
  (streams.source? id).bind Source.bodyHandle?

def sinkBodyHandle? (streams : Registry E) (id : WritableId) : Option BodyHandle :=
  (streams.sink? id).bind Sink.bodyHandle?

def isLocked (streams : Registry E) (id : ReadableId) : Bool :=
  ((streams.source? id).bind Source.readerLock).isSome

def isWritableLocked (streams : Registry E) (id : WritableId) : Bool :=
  ((streams.sink? id).bind Sink.writerLock).isSome

def isDisturbed (streams : Registry E) (id : ReadableId) : Bool :=
  ((streams.source? id).map Source.disturbed).getD false

def readableState? (streams : Registry E) (id : ReadableId) : Option ReadableState :=
  (streams.source? id).map fun source => source.controller.state

def writableState? (streams : Registry E) (id : WritableId) : Option WritableState :=
  (streams.sink? id).map fun sink => sink.controller.state

def desiredSize? (streams : Registry E) (id : WritableId) : Option Int :=
  (streams.sink? id).bind fun sink => sink.controller.desiredSize

def readableOwner? (streams : Registry E) (id : ReadableId) : Option OwnerKey :=
  (streams.source? id).bind Source.owner

def writableOwner? (streams : Registry E) (id : WritableId) : Option OwnerKey :=
  (streams.sink? id).bind Sink.owner

/-- Where a stream is piped to, if both ends live. -/
def pipedTo? (streams : Registry E) (id : ReadableId) : Option WritableId :=
  ((streams.source? id).bind Source.pipedTo).filter streams.containsWritable

def pipeState? (streams : Registry E) (id : PipeId) : Option PipeState :=
  (streams.pipe? id).map Pipe.state

/-- The running pipes, in slot order. -/
def runningPipes (streams : Registry E) : List (PipeId × Pipe) :=
  (streams.pipes.toList.filter fun entry => entry.2.isRunning).map
    fun (key, pipe) => (⟨key⟩, pipe)

/-- The running pipe into a stream. -/
def pipeInto? (streams : Registry E) (destination : WritableId) : Option PipeId :=
  (streams.runningPipes.find? fun entry => entry.2.destination == destination).map Prod.fst

/-- The running pipe out of a stream. -/
def pipeFrom? (streams : Registry E) (source : ReadableId) : Option (PipeId × Pipe) :=
  streams.runningPipes.find? fun entry => entry.2.source == source

def bridgeState? (streams : Registry E) (id : BridgeId) : Option BridgeState :=
  (streams.bridge? id).map fun bridge =>
    if bridge.errored then .errored
    else match streams.source? bridge.readable with
      | none => .readableClosed
      | some source =>
        match source.controller.state with
        | .errored _ => .errored
        | .closed => .readableClosed
        | .readable => if source.controller.closeRequested then .readableClosing else .opened

/-- Whether writes to a transform stream should wait until its readable half has been read. -/
def backpressure (streams : Registry E) (id : BridgeId) : Bool :=
  match streams.bridge? id with
  | none => false
  | some bridge =>
    !bridge.pullRequested &&
      match (streams.source? bridge.readable).bind fun source => source.controller.desiredSize with
      | some size => decide (size ≤ 0)
      | none => false

/-- Whether a pipe may hand a chunk to its destination. A destination that is gone is ready, so
that the pipe finds out. -/
def sinkReady (streams : Registry E) (id : WritableId) : Bool :=
  match streams.sink? id with
  | none => true
  | some sink =>
    if sink.controller.inFlight || !sink.controller.pending.isEmpty then false
    else match sink.backing with
      | .transform bridge => !streams.backpressure bridge
      | _ => true

/-! ### Entries that must live -/

def source (id : ReadableId) : RegistryCall E (Source E) := do
  match (← get).source? id with
  | some source => pure source
  | none => throw .released

def sink (id : WritableId) : RegistryCall E (Sink E) := do
  match (← get).sink? id with
  | some sink => pure sink
  | none => throw .released

def bridge (id : BridgeId) : RegistryCall E (Bridge E) := do
  match (← get).bridge? id with
  | some bridge => pure bridge
  | none => throw .released

def putSource (id : ReadableId) (source : Source E) : RegistryCall E Unit :=
  modify fun streams => streams.setSource id source

def putSink (id : WritableId) (sink : Sink E) : RegistryCall E Unit :=
  modify fun streams => streams.setSink id sink

/-! ### Ownership -/

def setReadableOwner (id : ReadableId) (owner : OwnerKey) : RegistryCall E Unit := do
  let source ← source id
  putSource id { source with owner := some owner }

def setWritableOwner (id : WritableId) (owner : OwnerKey) : RegistryCall E Unit := do
  let sink ← sink id
  putSink id { sink with owner := some owner }

/-- Lets go of a stream. It goes with the first sweep that finds it unlocked. -/
def releaseReadable (streams : Registry E) (id : ReadableId) : Registry E :=
  streams.modifySource id fun source => { source with released := true, owner := none }

def releaseWritable (streams : Registry E) (id : WritableId) : Registry E :=
  streams.modifySink id fun sink => { sink with released := true, owner := none }

def releaseTransform (streams : Registry E) (stream : TransformStream) : Registry E :=
  (streams.releaseReadable stream.readable).releaseWritable stream.writable

/-! ### Locks -/

/-- Whether a lock lets a caller pass who holds the given token, or none. -/
def admits {τ : Type} [DecidableEq τ] (lock token : Option τ) : Except StreamError Unit :=
  match lock, token with
  | none, none => .ok ()
  | some _, none => .error .locked
  | held, some token => if held = some token then .ok () else .error .notLockHolder

/-- Passes the callers that a readable stream's lock admits. -/
def checkReader (id : ReadableId) (token : Option ReaderToken) : RegistryCall E Unit := do
  let source ← source id
  MonadExcept.ofExcept (admits source.readerLock token)

/-- Passes the callers that a writable stream's lock admits. -/
def checkWriter (id : WritableId) (token : Option WriterToken) : RegistryCall E Unit := do
  let sink ← sink id
  MonadExcept.ofExcept (admits sink.writerLock token)

/-- The number of a new token. -/
def freshToken : RegistryCall E Nat :=
  modifyGet fun streams => (streams.nextToken, { streams with nextToken := streams.nextToken + 1 })

/-- Takes the lock of a readable stream. -/
def getReader (id : ReadableId) : RegistryCall E ReaderToken := do
  let source ← source id
  if source.readerLock.isSome then throw .locked
  else
    let token : ReaderToken := ⟨← freshToken⟩
    putSource id { source with readerLock := some token }
    pure token

/-- Takes the lock of a writable stream. -/
def getWriter (id : WritableId) : RegistryCall E WriterToken := do
  let sink ← sink id
  if sink.writerLock.isSome then throw .locked
  else
    let token : WriterToken := ⟨← freshToken⟩
    putSink id { sink with writerLock := some token }
    pure token

/-- Gives the lock of a readable stream back. -/
def releaseReader (id : ReadableId) (token : ReaderToken) : RegistryCall E Unit := do
  checkReader id (some token)
  let source ← source id
  putSource id { source with readerLock := none }

/-- Gives the lock of a writable stream back. -/
def releaseWriter (id : WritableId) (token : WriterToken) : RegistryCall E Unit := do
  checkWriter id (some token)
  let sink ← sink id
  putSink id { sink with writerLock := none }

/-- Does what it can: what has been changed before a failure stays. -/
def quietly {α : Type} (call : RegistryCall E α) (streams : Registry E) : Registry E :=
  (call.run.run streams).2

/-! ### Pipes -/

/-- Locks both ends of a new pipe and enters it. If the destination cannot be locked, the source is
unlocked again. -/
def openPipe (source : ReadableId) (destination : WritableId) (options : PipeOptions) :
    RegistryCall E PipeId := do
  let reader ← getReader source
  let writer ← tryCatch (getWriter destination) fun error => do
    modify (quietly (releaseReader source reader))
    throw error
  let entry ← Registry.source source
  putSource source { entry with pipedTo := some destination, disturbed := true }
  modifyGet fun streams => streams.addPipe { source, destination, reader, writer, options }

/-- Finishes a running pipe: its ends are unlocked. -/
def finishPipe (streams : Registry E) (id : PipeId) (state : PipeState) : Registry E :=
  match streams.pipe? id with
  | none => streams
  | some pipe =>
    if pipe.isRunning then
      let streams := streams.setPipe id { pipe with state }
      let streams := quietly (releaseReader pipe.source pipe.reader) streams
      let streams := quietly (releaseWriter pipe.destination pipe.writer) streams
      streams.modifySource pipe.source fun source => { source with pipedTo := none }
    else streams

/-! ### Lifecycle -/

/-- Takes out finished pipes, streams that are released and unlocked, and then bridges without
halves; the answer is their number. -/
def sweep (streams : Registry E) : Nat × Registry E :=
  let (finished, pipes) := streams.pipes.retain fun _ pipe => pipe.isRunning
  let (readables, sources) :=
    streams.sources.retain fun _ source => !(source.released && source.readerLock.isNone)
  let (writables, sinks) :=
    streams.sinks.retain fun _ sink => !(sink.released && sink.writerLock.isNone)
  let (orphans, bridges) := streams.bridges.retain fun _ bridge =>
    sources.contains bridge.readable.key || sinks.contains bridge.writable.key
  (finished + readables + writables + orphans, { streams with pipes, sources, sinks, bridges })

/-- Takes out every entry. -/
def clear (streams : Registry E) : Registry E :=
  { streams with
    pipes := streams.pipes.clear
    bridges := streams.bridges.clear
    sources := streams.sources.clear
    sinks := streams.sinks.clear }

end Registry

end EdgeStreams
