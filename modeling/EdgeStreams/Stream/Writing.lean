import EdgeStreams.Stream.Transform

/-!
# Writing

Writes wait in the queue of a writable stream until its sink takes them, one at a time and in
order. Ending the stream waits for the writes before it; aborting does not.

## Main definitions

- `Session.scriptSink`: a writable stream over a guest
- `Session.writeAlgorithm`, `Session.closeAlgorithm`, `Session.abortAlgorithm`: what reaches the
  sink
- `Session.advance`: hands the sink what waits for it
- `Session.write`, `Session.close`, `Session.abort`: the operations of a writer, with the writer's
  token or none
-/

namespace EdgeStreams

variable {H E : Type}

namespace Session

/-- A writable stream over a guest. If the guest's start fails, the stream has failed. -/
def scriptSink (guest : UnderlyingSink E) : Step H E WritableId := do
  let result ← outcome (onGuest guest.start)
  let id ← modifyGet (changeStreams fun streams =>
    let controller : WritableController := { highWaterMark := streams.config.bodyChunkSize }
    streams.addSink
      { backing := .script guest
        controller := match result with
          | .error error => controller.error error
          | .ok () => controller })
  modify (note (.sinkStarted id result))
  return id

section Algorithms

variable [Host H]

/-- Hands a chunk to the sink. A write lets a transform stream forget that it was pulled. -/
def writeAlgorithm (id : WritableId) (chunk : Bytes) : Action H E StreamError Unit := do
  let sink ← sink id
  match sink.backing with
  | .body handle => streamCall .bodyWrite (Host.bodyWrite handle chunk)
  | .script guest => onGuest (guest.write chunk)
  | .transform bridgeId =>
    let bridge ← bridge bridgeId
    modify (setBridge bridgeId { bridge with pullRequested := false })
    withTransformer bridgeId (.transform chunk)

/-- Tells the sink that the stream has ended. -/
def closeAlgorithm (id : WritableId) : Action H E StreamError Unit := do
  let sink ← sink id
  match sink.backing with
  | .body handle => streamCall .bodyClose (Host.bodyClose handle)
  | .script guest => onGuest guest.close
  | .transform bridgeId => withTransformer bridgeId .flush

/-- Tells the sink that the stream is aborted. -/
def abortAlgorithm (id : WritableId) (reason : Option String) : Action H E StreamError Unit := do
  let sink ← sink id
  match sink.backing with
  | .body handle => streamCall .bodyAbandon (Host.bodyAbandon handle)
  | .script guest => onGuest (guest.abort reason)
  | .transform bridgeId =>
    let bridge ← bridge bridgeId
    modify (setBridge bridgeId { bridge with errored := true })
    modify (mapStreams fun streams => streams.modifySource bridge.readable fun source =>
      { source with controller := source.controller.error .aborted })

/-- Ends the work of a sink: does the abort that came meanwhile, or keeps the failure. -/
def settle (id : WritableId) (result : Except StreamError Unit) : Action H E StreamError Unit := do
  let sink ← sink id
  let controller := { sink.controller with inFlight := false }
  if controller.abortRequested then
    modify (setSink id { sink with controller := { controller with abortRequested := false } })
    let _ ← caught (noting (.aborted id) (abortAlgorithm id none))
    throw .aborted
  else
    match result with
    | .ok () => modify (setSink id { sink with controller })
    | .error error =>
      modify (setSink id { sink with controller := controller.error error })
      throw error

/-- Sets the sink to work. -/
def engage (id : WritableId) (sink : Sink E) (controller : WritableController)
    (work : Action H E StreamError Unit) : Action H E StreamError Unit := do
  modify (setSink id { sink with controller := { controller with inFlight := true } })
  let result ← caught work
  settle id result

/-- Hands the sink the writes that wait, one at a time, and then a requested end. Every round but
the last takes one write. -/
def advanceRounds (id : WritableId) : Nat → Action H E StreamError Unit
  | 0 => pure ()
  | rounds + 1 => do
    let sink ← sink id
    if sink.controller.inFlight || !sink.start.isResolved then pure ()
    else match sink.controller.state with
      | .errored error => throw error
      | .closed => pure ()
      | state =>
        match sink.controller.pop with
        | some (chunk, controller) =>
          engage id sink controller (noting (.written id chunk) (writeAlgorithm id chunk))
          advanceRounds id rounds
        | none =>
          if state = .closing then
            engage id sink sink.controller (noting (.closed id) (closeAlgorithm id))
            let sink ← Session.sink id
            if sink.controller.state = .closing then
              let controller := { sink.controller with state := .closed }
              modify (setSink id { sink with controller })
          else pure ()

/-- Hands the sink what waits for it. -/
def advance (id : WritableId) : Action H E StreamError Unit := do
  let sink ← sink id
  advanceRounds id (sink.controller.pending.length + 1)

/-- Writes, whoever holds the lock. -/
def writeUnchecked (id : WritableId) (chunk : Bytes) : Action H E StreamError Unit := do
  let sink ← sink id
  match sink.controller.state with
  | .closing | .closed => throw .closed
  | .errored error => throw error
  | .writable =>
    match sink.start with
    | .rejected error => throw error
    | _ =>
      modify (setSink id { sink with controller := sink.controller.push chunk })
      advance id

/-- Ends the stream, whoever holds the lock. -/
def closeUnchecked (id : WritableId) : Action H E StreamError Unit := do
  let sink ← sink id
  match sink.controller.state with
  | .closing | .closed | .errored .aborted => pure ()
  | .errored error => throw error
  | .writable =>
    modify (setSink id { sink with controller := { sink.controller with state := .closing } })
    advance id

/-- Aborts the stream, whoever holds the lock. -/
def abortUnchecked (id : WritableId) (reason : Option String) : Action H E StreamError Unit := do
  let sink ← sink id
  if sink.controller.state.isTerminal then pure ()
  else
    let controller := sink.controller.error .aborted
    if controller.inFlight then
      modify (setSink id { sink with controller := { controller with abortRequested := true } })
    else
      modify (setSink id { sink with controller })
      noting (.aborted id) (abortAlgorithm id reason)

/-- Writes a chunk. It has reached the sink when the write succeeds. -/
def write (id : WritableId) (chunk : Bytes) (token : Option WriterToken := none) :
    Action H E StreamError Unit := do
  onStreams (Registry.checkWriter id token)
  writeUnchecked id chunk

/-- Ends the stream after the writes that wait. A stream that is ending or has ended is left
alone. -/
def close (id : WritableId) (token : Option WriterToken := none) :
    Action H E StreamError Unit := do
  onStreams (Registry.checkWriter id token)
  closeUnchecked id

/-- Aborts the stream, dropping the writes that wait. A stream that has ended or failed is left
alone. -/
def abort (id : WritableId) (reason : Option String) (token : Option WriterToken := none) :
    Action H E StreamError Unit := do
  onStreams (Registry.checkWriter id token)
  abortUnchecked id reason

end Algorithms

end Session

end EdgeStreams
