import EdgeStreams.Stream.Writing

/-!
# Sources

What a source does when it is asked for more or told that nothing more is wanted, as far as no
other stream takes part.

## Main definitions

- `Session.scriptSource`: a readable stream over a guest
- `Session.pullBody`, `Session.pullScript`: one pull of a source
- `Session.takeReady`: what a reader finds at once
- `Session.cancel`: the operation of a reader that wants no more, with the reader's token or none
-/

namespace EdgeStreams

variable {H E : Type}

namespace Session

/-- A readable stream over a guest. If the guest's start fails, the stream has failed. -/
def scriptSource (guest : UnderlyingSource E) (highWaterMark : UInt64) : Step H E ReadableId := do
  let ((result, env), desk) :=
    (guest.start (← get).env).run SourceDesk.perform { controller := { highWaterMark } }
  modify fun session => { session with env }
  let id ← modifyGet (changeStreams fun streams =>
    streams.addSource
      { backing := .script guest
        controller := match result with
          | .error error => desk.controller.error error
          | .ok () => desk.controller })
  modify (noteEnqueued id desk.accepted)
  modify (note (.sourceStarted id result))
  return id

/-- Lets a source change its controller. -/
def atDesk (id : ReadableId) (source : Source E) (desk : SourceDesk) (session : Session H E) :
    Session H E :=
  noteEnqueued id desk.accepted
    (setSource id { source with controller := desk.controller } session)

/-- One pull of a source over a host body. An empty read is the end of the body. -/
def pullBody [Host H] (id : ReadableId) (handle : BodyHandle) (chunkSize : UInt64) :
    Action H E StreamError Unit := do
  let chunk ← streamCall .bodyRead (Host.bodyRead handle chunkSize)
  let source ← source id
  if chunk.isEmpty then
    let (result, controller) := source.controller.close
    modify (setSource id { source with controller })
    settled result
  else
    let (result, desk) := SourceDesk.enqueue { controller := source.controller } chunk
    modify (atDesk id source desk)
    settled result

/-- One pull of a source over a guest. -/
def pullScript (id : ReadableId) (guest : UnderlyingSource E) : Action H E StreamError Unit := do
  let source ← source id
  let ((result, env), desk) :=
    (guest.pull (← get).env).run SourceDesk.perform { controller := source.controller }
  modify fun session => { session with env }
  modify (atDesk id source desk)
  settled result

/-- Tells the source that nothing more is wanted. A body is abandoned; the writable half of a
transform stream fails. -/
def cancelAlgorithm [Host H] (id : ReadableId) (reason : Option String) :
    Action H E StreamError Unit := do
  let source ← source id
  match source.backing with
  | .body handle _ => streamCall .bodyAbandon (Host.bodyAbandon handle)
  | .script guest => onGuest (guest.cancel reason)
  | .transform bridgeId =>
    let bridge ← bridge bridgeId
    modify (setBridge bridgeId { bridge with errored := true })
    modify (mapStreams fun streams => streams.modifySink bridge.writable fun sink =>
      { sink with controller := sink.controller.error .canceled })

/-- Cancels the stream, whoever holds the lock. -/
def cancelUnchecked [Host H] (id : ReadableId) (reason : Option String) :
    Action H E StreamError Unit := do
  let source ← source id
  let source := { source with disturbed := true }
  match source.controller.state with
  | .closed => modify (setSource id source)
  | .errored error =>
    modify (setSource id source)
    throw error
  | .readable =>
    if source.canceled then modify (setSource id source)
    else
      modify (setSource id
        { source with canceled := true, controller := source.controller.cancel })
      noting (.canceled id) (cancelAlgorithm id reason)

/-- Cancels the stream. A stream that has ended is left alone. -/
def cancel [Host H] (id : ReadableId) (reason : Option String)
    (token : Option ReaderToken := none) : Action H E StreamError Unit := do
  onStreams (Registry.checkReader id token)
  cancelUnchecked id reason

/-- What a reader finds at once; nothing if it has to wait. -/
def takeReady (id : ReadableId) : Action H E StreamError (Option ReadOutcome) := do
  let source ← source id
  let (result, controller) := source.controller.takeReady
  modify (setSource id { source with controller })
  match result with
  | .ok (some (.chunk data)) => modify (note (.delivered id data))
  | _ => pure ()
  settled result

end Session

end EdgeStreams
