import EdgeStreams.Stream.Reading

/-!
# Flow

Reading may pull a source, pulling the readable half of a transform stream drives the pipe into its
writable half, and driving a pipe reads its source. These three make data flow.

## Main definitions

- `Session.readUnchecked`, `Session.pullIfNeeded`, `Session.pull`, `Session.pumpPipe`,
  `Session.pumpSteps`: reading, pulling and driving a pipe, one calling the other
- `Session.read`: the operation of a reader, with the reader's token or none
- `Session.pipeTo`, `Session.pipeThrough`, `Session.pump`, `Session.abortCorrelated`: operations on
  pipes
- `Session.withReader`: work under a reader's lock

## Design notes

The first argument of these functions bounds how deep they call each other and how long their loops
run. Where it does not suffice there is no outcome; where it does, a greater one changes nothing.
-/

namespace EdgeStreams

variable {H E ε α : Type}

namespace Session

/-- The reader's outcome where the source had nothing at once even after a pull. -/
def orPending (found : Option ReadOutcome) : ReadOutcome := found.getD .pending

/-- Notes that a stream has been read, piped or cancelled. -/
def disturb (id : ReadableId) (source : Source E) : Session H E → Session H E :=
  setSource id { source with disturbed := true }

/-- How a pipe ends when its destination takes no more; nothing while it does. -/
def destinationFault? (streams : Registry E) (destination : WritableId) : Option StreamError :=
  match streams.writableState? destination with
  | none => some .released
  | some (.errored error) => some error
  | some .closing | some .closed => some .closed
  | some .writable => none

/-- Cancels the source of a pipe whose destination has failed, unless it is to be left alone. -/
def cancelSource [Host H] (pipe : Pipe) : Step H E Unit := do
  if pipe.options.preventCancel then pure ()
  else
    let _ ← outcome (cancel pipe.source none (some pipe.reader))

/-- Aborts the destination of a pipe whose source has failed, unless it is to be left alone. -/
def abortDestination [Host H] (pipe : Pipe) : Step H E Unit := do
  if pipe.options.preventAbort then pure ()
  else
    let _ ← outcome (abort pipe.destination none (some pipe.writer))

/-- Ends the destination of a pipe whose source has ended, unless it is to be left open. -/
def closeDestination [Host H] (pipe : Pipe) : Step H E PipeState := do
  if pipe.options.preventClose then return .done
  else
    match ← outcome (close pipe.destination (some pipe.writer)) with
    | .ok () => return .done
    | .error error => return .failed error

/-- Finishes a pipe whose destination takes no more. A destination that is gone has no say about
the source. -/
def failPipe [Host H] (id : PipeId) (pipe : Pipe) (error : StreamError) : Step H E Unit := do
  if (← get).streams.containsWritable pipe.destination then cancelSource pipe
  modify (mapStreams fun streams => streams.finishPipe id (.failed error))

mutual

/-- Reads, whoever holds the lock: takes what is there, or pulls the source and takes what has
come. -/
def readUnchecked [Host H] (fuel : Nat) (id : ReadableId) :
    Attempt H E StreamError ReadOutcome :=
  match fuel with
  | 0 => sure outOfFuel
  | fuel + 1 => do
    let source ← finite (source id)
    match source.start with
    | .pending => return .pending
    | .rejected error => throw error
    | .resolved =>
      modify (disturb id source)
      match ← finite (takeReady id) with
      | some (.chunk data) =>
        sure (pullIfNeeded fuel id false)
        return .chunk data
      | some found => return found
      | none =>
        sure (pullIfNeeded fuel id true)
        return orPending (← finite (takeReady id))
termination_by structural fuel

/-- Pulls a source if that is of use. A pull that is wanted while one is under way comes after
it. -/
def pullIfNeeded [Host H] (fuel : Nat) (id : ReadableId) (readerWaits : Bool) : Run H E Unit :=
  match fuel with
  | 0 => outOfFuel
  | fuel + 1 => do
    match (← get).streams.source? id with
    | none => return
    | some source =>
      if !source.wantsPull readerWaits then return
      else if source.pulling then modify (setSource id { source with pullAgain := true })
      else
        modify (setSource id { source with pulling := true })
        modify (note (.pullBegan id))
        let result ← (pull fuel id).run
        modify (note (.pullEnded id result))
        match (← get).streams.source? id with
        | none => return
        | some source =>
          let source := { source with pulling := false }
          match result with
          | .error error =>
            modify (setSource id { source with controller := source.controller.error error })
          | .ok () =>
            if source.pullAgain then
              modify (setSource id { source with pullAgain := false })
              pullIfNeeded fuel id false
            else modify (setSource id source)
termination_by structural fuel

/-- One pull. The readable half of a transform stream gets its chunks when its writable half is
written, so a pull of it drives the pipe into its writable half. -/
def pull [Host H] (fuel : Nat) (id : ReadableId) : Attempt H E StreamError Unit :=
  match fuel with
  | 0 => sure outOfFuel
  | fuel + 1 => do
    let source ← finite (source id)
    match source.backing with
    | .body handle chunkSize => finite (pullBody id handle chunkSize)
    | .script guest => finite (pullScript id guest)
    | .transform bridgeId =>
      let bridge ← finite (bridge bridgeId)
      modify (setBridge bridgeId { bridge with pullRequested := true })
      match (← get).streams.pipeInto? bridge.writable with
      | some pipe =>
        let _ ← sure (pumpPipe fuel pipe)
        return
      | none => return
termination_by structural fuel

/-- Drives a pipe until it finishes or has to wait, unless it is being driven already; the answer
is the number of its steps. -/
def pumpPipe [Host H] (fuel : Nat) (id : PipeId) : Run H E Nat :=
  match fuel with
  | 0 => outOfFuel
  | fuel + 1 => do
    match (← get).streams.pipe? id with
    | none => return 0
    | some pipe =>
      if !pipe.isRunning || pipe.pumping then return 0
      else
        modify (mapStreams fun streams => streams.setPipe id { pipe with pumping := true })
        let steps ← pumpSteps fuel id pipe 0
        modify (mapStreams fun streams =>
          match streams.pipe? id with
          | some pipe => streams.setPipe id { pipe with pumping := false }
          | none => streams)
        return steps
termination_by structural fuel

/-- The steps of a pipe that is driven, after those already made. -/
def pumpSteps [Host H] (fuel : Nat) (id : PipeId) (pipe : Pipe) (steps : Nat) : Run H E Nat :=
  match fuel with
  | 0 => outOfFuel
  | fuel + 1 => do
    let streams := (← get).streams
    match destinationFault? streams pipe.destination with
    | some error =>
      modifyGet (failPipe id pipe error)
      return steps + 1
    | none =>
      if !streams.sinkReady pipe.destination then return steps
      else
        let found ← (do
          finite (onStreams (Registry.checkReader pipe.source (some pipe.reader)))
          readUnchecked fuel pipe.source : Attempt H E StreamError ReadOutcome).run
        match found with
        | .ok (.chunk data) =>
          match ← modifyGet (outcome (write pipe.destination data (some pipe.writer))) with
          | .error error =>
            modifyGet (cancelSource pipe)
            modify (mapStreams fun streams => streams.finishPipe id (.failed error))
            return steps + 1
          | .ok () =>
            pumpSteps fuel id pipe (steps + 1)
        | .ok .done =>
          let state ← modifyGet (closeDestination pipe)
          modify (mapStreams fun streams => streams.finishPipe id state)
          return steps + 1
        | .ok .pending => return steps
        | .error error =>
          modifyGet (abortDestination pipe)
          modify (mapStreams fun streams => streams.finishPipe id (.failed error))
          return steps + 1
termination_by structural fuel

end

section Operations

variable [Host H]

/-- Reads. -/
def read (fuel : Nat) (id : ReadableId) (token : Option ReaderToken := none) :
    Attempt H E StreamError ReadOutcome := do
  finite (onStreams (Registry.checkReader id token))
  readUnchecked fuel id

/-- Pipes a readable into a writable stream. Both are locked until the pipe is finished. The pipe
is driven as far as it goes. -/
def pipeTo (fuel : Nat) (source : ReadableId) (destination : WritableId)
    (options : PipeOptions := {}) : Attempt H E StreamError PipeId := do
  let id ← finite (onStreams (Registry.openPipe source destination options))
  let _ ← sure (pumpPipe fuel id)
  return id

/-- Pipes a readable stream into a transform stream; the answer is the readable half. -/
def pipeThrough (fuel : Nat) (source : ReadableId) (stream : TransformStream)
    (options : PipeOptions := {}) : Attempt H E StreamError ReadableId := do
  let _ ← pipeTo fuel source stream.writable options
  return stream.readable

/-- Drives some pipes, one after the other. -/
def pumpEach (fuel : Nat) : List PipeId → Run H E Nat
  | [] => return 0
  | id :: rest => do
    let steps ← pumpPipe fuel id
    let others ← pumpEach fuel rest
    return steps + others

/-- Drives the running pipes until none of them makes a step; the answer is the number of steps. -/
def pump : Nat → Run H E Nat
  | 0 => outOfFuel
  | fuel + 1 => do
    let steps ← pumpEach fuel ((← get).streams.runningPipes.map Prod.fst)
    if steps = 0 then return 0
    else
      let others ← pump fuel
      return steps + others

/-- Aborts what a stream is piped into and cancels the stream, for when what produced it is
aborted. -/
def abortCorrelated (source : ReadableId) (reason : Option String) :
    Action H E StreamError Unit := do
  match (← get).streams.pipeFrom? source with
  | some (id, pipe) =>
    let _ ← caught (abort pipe.destination reason (some pipe.writer))
    let _ ← caught (cancel source reason (some pipe.reader))
    modify (mapStreams fun streams => streams.finishPipe id (.failed .aborted))
  | none =>
    match (← get).streams.pipedTo? source with
    | some destination => abortUnchecked destination reason
    | none => pure ()
    if (← get).streams.isLocked source then pure ()
    else cancelUnchecked source reason

/-- Works under the lock of a readable stream. The lock is given back whatever comes of the
work. -/
def withReader (id : ReadableId) (work : ReaderToken → Attempt H E StreamError α) :
    Attempt H E StreamError α := do
  let token ← finite (onStreams (Registry.getReader id))
  let result ← sure (work token).run
  modify (mapStreams (Registry.quietly (Registry.releaseReader id token)))
  finite (settled result)

/-- Sweeps the registry; the answer is the number of entries taken out. -/
def sweep : Step H E Nat := modifyGet (changeStreams Registry.sweep)

end Operations

end Session

end EdgeStreams
