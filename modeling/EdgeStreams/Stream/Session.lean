import EdgeStreams.Host.Basic
import EdgeStreams.Stream.Registry

/-!
# Sessions

A session holds everything that an operation on streams may touch: the host, the environment of the
guests and the registry. It also keeps a journal of what was asked of the ends of each stream.

## Main definitions

- `StreamEvent`: an entry of the journal
- `Session`: host, environment, registry and journal
- `Step`, `Action`: computations on a session that always end; an action may fail
- `Run`, `Attempt`: computations on a session that are given a bound on their depth and have no
  outcome when it does not suffice; an attempt may fail

## Design notes

No operation looks at the journal. What an operation changed before it failed stays changed.
-/

namespace EdgeStreams

/-- What was asked of the ends of a stream, and what came of it. -/
inductive StreamEvent where
  /-- The guest of a new source has been started. -/
  | sourceStarted (id : ReadableId) (outcome : Except StreamError Unit)
  /-- The guest of a new sink, or the transformer of a new transform stream, has been started. -/
  | sinkStarted (id : WritableId) (outcome : Except StreamError Unit)
  | pullBegan (id : ReadableId)
  | pullEnded (id : ReadableId) (outcome : Except StreamError Unit)
  | canceled (id : ReadableId) (outcome : Except StreamError Unit)
  /-- A chunk was queued. -/
  | enqueued (id : ReadableId) (chunk : Bytes)
  /-- A reader took a chunk. -/
  | delivered (id : ReadableId) (chunk : Bytes)
  | written (id : WritableId) (chunk : Bytes) (outcome : Except StreamError Unit)
  | closed (id : WritableId) (outcome : Except StreamError Unit)
  | aborted (id : WritableId) (outcome : Except StreamError Unit)

/-- Everything that an operation may touch. -/
structure Session (H E : Type) where
  host : H
  env : E
  streams : Registry E := {}
  /-- What has happened, last first. -/
  journal : List StreamEvent := []
  /-- The number of the next owner of a stream. -/
  nextOwner : Nat := 1

/-- A computation that always ends and cannot fail. -/
abbrev Step (H E α : Type) := StateM (Session H E) α

/-- A computation that always ends and may fail. -/
abbrev Action (H E ε α : Type) := ExceptT ε (StateM (Session H E)) α

/-- A computation without outcome if its bound does not suffice. -/
abbrev Run (H E α : Type) := StateT (Session H E) Option α

/-- A computation that may fail, without outcome if its bound does not suffice. -/
abbrev Attempt (H E ε α : Type) := ExceptT ε (StateT (Session H E) Option) α

namespace Session

variable {H E ε φ α : Type}

/-! ### Changes -/

/-- Changes the registry. -/
def mapStreams (f : Registry E → Registry E) (session : Session H E) : Session H E :=
  { session with streams := f session.streams }

/-- Changes the registry with a result. -/
def changeStreams (f : Registry E → α × Registry E) (session : Session H E) :
    α × Session H E :=
  let (result, streams) := f session.streams
  (result, { session with streams })

def setSource (id : ReadableId) (source : Source E) : Session H E → Session H E :=
  mapStreams fun streams => streams.setSource id source

def setSink (id : WritableId) (sink : Sink E) : Session H E → Session H E :=
  mapStreams fun streams => streams.setSink id sink

def setBridge (id : BridgeId) (bridge : Bridge E) : Session H E → Session H E :=
  mapStreams fun streams => streams.setBridge id bridge

/-- Enters an event in the journal. -/
def note (event : StreamEvent) (session : Session H E) : Session H E :=
  { session with journal := event :: session.journal }

/-- Enters in the journal the chunks that a stream has queued, given last first. -/
def noteEnqueued (id : ReadableId) (chunks : List Bytes) (session : Session H E) : Session H E :=
  { session with journal := chunks.map (StreamEvent.enqueued id) ++ session.journal }

/-! ### Actions -/

/-- Does something with the host. -/
def onHost (call : HostCall H α) : Action H E HostError α :=
  ExceptT.mk fun session =>
    let (outcome, host) := call.run.run session.host
    (outcome, { session with host })

/-- Calls the host for a stream. -/
def streamCall (operation : HostOperation) (call : HostCall H α) : Action H E StreamError α :=
  (onHost call).adapt (StreamError.host operation)

/-- Does something with the registry. -/
def onStreams (call : RegistryCall E α) : Action H E StreamError α :=
  ExceptT.mk (changeStreams fun streams => call.run.run streams)

/-- Lets a guest work in the environment. -/
def onGuest (work : E → GuestResult E) : Action H E StreamError Unit :=
  ExceptT.mk fun session =>
    let (outcome, env) := work session.env
    (outcome, { session with env })

/-- The readable stream of a name, which must live. -/
def source (id : ReadableId) : Action H E StreamError (Source E) := onStreams (Registry.source id)

/-- The writable stream of a name, which must live. -/
def sink (id : WritableId) : Action H E StreamError (Sink E) := onStreams (Registry.sink id)

/-- The bridge of a name, which must live. -/
def bridge (id : BridgeId) : Action H E StreamError (Bridge E) := onStreams (Registry.bridge id)

/-- The outcome of an action, as a result. -/
def outcome (action : Action H E ε α) : Step H E (Except ε α) := action.run

/-- The outcome of an action, as the result of another. -/
def caught (action : Action H E ε α) : Action H E φ (Except ε α) := ExceptT.lift (outcome action)

/-- Succeeds or fails as a result says. -/
def settled (result : Except ε α) : Action H E ε α := ExceptT.mk (pure result)

/-- Does an action and enters its outcome in the journal. -/
def noting (event : Except StreamError Unit → StreamEvent) (action : Action H E StreamError Unit) :
    Action H E StreamError Unit := do
  let result ← caught action
  modify (note (event result))
  settled result

/-! ### Attempts -/

/-- An action needs no bound. -/
def finite (action : Action H E ε α) : Attempt H E ε α :=
  ExceptT.mk fun session => some (action.run session)

/-- A run cannot fail. -/
def sure (run : Run H E α) : Attempt H E ε α := ExceptT.lift run

/-- The bound did not suffice. -/
def outOfFuel : Run H E α := fun _ => none

end Session

end EdgeStreams
