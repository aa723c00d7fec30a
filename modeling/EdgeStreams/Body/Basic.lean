import EdgeStreams.Body.Error
import EdgeStreams.Stream.Flow

/-!
# Bodies

The body of a request or response is a host body, a stream, or both: the stream over a host body is
made when it is first asked for. A body can be consumed once.

## Main definitions

- `Body`: a request or response body
- `Body.ofHandle`, `Body.ofStream`, `Body.ofBytes`: making one
- `Body.stream`: the body's stream
- `Body.pipeThroughIdentity`: puts a transform stream between the body and its reader
- `Body.isHostBacked`, `Body.release`
-/

namespace EdgeStreams

/-- A request or response body. It can be consumed once. -/
structure Body where
  /-- The owner under which the body's stream is entered. -/
  owner : OwnerKey
  /-- The host body behind this body. -/
  handle : Option BodyHandle
  /-- The body's stream. -/
  readable : Option ReadableId
  /-- The body has let go of its stream. -/
  released : Bool := false
  /-- The body has been consumed. -/
  used : Bool := false
deriving DecidableEq, Repr

namespace Body

variable {H E : Type}

/-- Makes a body with an owner of its own. -/
def make (handle : Option BodyHandle) (readable : Option ReadableId) : Step H E Body :=
  modifyGet fun session =>
    ({ owner := ⟨session.nextOwner⟩, handle, readable },
      { session with nextOwner := session.nextOwner + 1 })

/-- A body over a host body. -/
def ofHandle (handle : BodyHandle) : Step H E Body := make (some handle) none

/-- A body over a stream. -/
def ofStream (id : ReadableId) : Action H E BodyError Body := do
  let body ← modifyGet (make none (some id))
  (Session.onStreams (Registry.setReadableOwner id body.owner)).adapt BodyError.stream
  return body

/-- Calls the host for a body. -/
def hostCall {α : Type} (operation : HostOperation) (call : HostCall H α) :
    Action H E BodyError α :=
  (Session.onHost call).adapt (BodyError.host operation)

/-- A body over a new host body that holds some octets. -/
def ofBytes [Host H] (data : Bytes) : Action H E BodyError Body := do
  let handle ← hostCall .bodyNew Host.bodyNew
  if !data.isEmpty then hostCall .bodyWrite (Host.bodyWrite handle data)
  modifyGet (ofHandle handle)

/-- A body over a new host body that holds a text. -/
def ofText [Host H] (text : String) : Action H E BodyError Body := ofBytes (utf8 text)

def markUsed (body : Body) : Body := { body with used := true }

/-- Whether the body's octets still stand in its host body from the beginning, so that the host can
move them by itself. -/
def isHostBacked (body : Body) (streams : Registry E) : Bool :=
  !body.released &&
    match body.handle, body.readable with
    | some _, none => true
    | some _, some id => streams.isBody id && !streams.isDisturbed id
    | none, _ => false

/-- The error of a body that has let go of its stream. -/
def releasedError (body : Body) (streams : Registry E) : BodyError :=
  match body.readable with
  | some id => if streams.isLocked id then .locked else .alreadyUsed
  | none => .alreadyUsed

/-- The body's stream, made when it is first asked for. A stream that is gone is not replaced. -/
def stream (body : Body) : Action H E BodyError (ReadableId × Body) := do
  let streams := (← get).streams
  if body.released then throw (body.releasedError streams)
  else
    match body.readable, body.handle with
    | some id, _ =>
      if streams.containsReadable id then return (id, body) else throw (.stream .released)
    | none, none => throw (.stream .released)
    | none, some handle =>
      let id ← modifyGet (Session.changeStreams fun streams => streams.bodySource handle)
      (Session.onStreams (Registry.setReadableOwner id body.owner)).adapt BodyError.stream
      return (id, { body with readable := some id })

/-- Lets go of the body's stream. The body cannot be read again. -/
def release (body : Body) (session : Session H E) : Body × Session H E :=
  if body.released then (body, session)
  else
    ({ body with released := true },
      match body.readable with
      | some id => session.mapStreams fun streams => streams.releaseReadable id
      | none => session)

/-- Pipes the body's stream into a new transform stream that passes every chunk on; the readable
half is the body's stream from then on. If the pipe is refused, the body keeps its stream. -/
def pipeThroughIdentity [Host H] (fuel : Nat) (body : Body) :
    Run H E (Except BodyError ReadableId × Body) := do
  match ← modifyGet (Session.outcome body.stream) with
  | .error error => return (.error error, body)
  | .ok (source, body) =>
    let transform ← modifyGet Session.createIdentity
    match ← (Session.pipeThrough fuel source transform).run with
    | .error error =>
      modify (Session.mapStreams fun streams => streams.releaseTransform transform)
      return (.error (.stream error), body)
    | .ok readable =>
      match ← modifyGet (Session.outcome
          (Session.onStreams (Registry.setReadableOwner readable body.owner))) with
      | .error error => return (.error (.stream error), body)
      | .ok () =>
        modify (Session.mapStreams fun streams =>
          (streams.releaseReadable source).releaseWritable transform.writable)
        return (.ok readable, { body with readable := some readable })

end Body

end EdgeStreams
