import EdgeStreams.Bytes
import EdgeStreams.Stream.Error

/-!
# Controllers

A controller is the queue of a stream together with the stream's state. The queue is measured in
octets; the high-water mark says how much may wait in it before the producer should pause.

## Main definitions

- `ReadableController`: the queue between a source and its reader
- `WritableController`: the writes that wait for a sink, and the one it is working on
- `takeReady`: what a reader finds

## Design notes

The mark is a 64-bit word and is read as a signed one when it is compared with the queue. From
`2 ^ 63` on it counts as negative.
-/

namespace EdgeStreams

/-- How much room a mark leaves over a queue of the given size. No queue holds `2 ^ 63` octets, so
the difference leaves the words with a sign only if the mark counts as negative. There it comes
round to a positive number, or ends the program where overflow is checked for. -/
def room (highWaterMark : UInt64) (queued : Nat) : Int :=
  let left := highWaterMark.toInt64.toInt - queued
  if highWaterMark.toInt64 < 0 ∧ left < Int64.minValue.toInt then left + UInt64.size else left

/-- The state of a readable stream. -/
inductive ReadableState where
  | readable
  | closed
  | errored (error : StreamError)
deriving DecidableEq, Repr

/-- The name of the state, or the error that the stream has failed with. -/
def ReadableState.label : ReadableState → Except StreamError String
  | .readable => .ok "readable"
  | .closed => .ok "closed"
  | .errored error => .error error

/-- The queue between a source and its reader. -/
structure ReadableController where
  highWaterMark : UInt64
  /-- The chunks that wait for a reader, first first. -/
  queue : List Bytes := []
  queuedBytes : Nat := 0
  /-- The source has ended; the chunks in the queue are still delivered. -/
  closeRequested : Bool := false
  state : ReadableState := .readable
deriving DecidableEq, Repr

/-- The outcome of a read. -/
inductive ReadOutcome where
  | chunk (data : Bytes)
  /-- The stream has ended and every chunk has been delivered. -/
  | done
  /-- There is nothing yet. -/
  | pending
deriving DecidableEq, Repr

namespace ReadableController

/-- Why nothing can be added to the stream any more. -/
def refusal? (controller : ReadableController) : Option StreamError :=
  match controller.state with
  | .errored error => some error
  | .closed => some .closed
  | .readable => if controller.closeRequested then some .closed else none

/-- Queues a chunk. An empty chunk is dropped. -/
def enqueue (controller : ReadableController) (chunk : Bytes) :
    Except StreamError Unit × ReadableController :=
  match controller.refusal? with
  | some error => (.error error, controller)
  | none =>
    if chunk.isEmpty then (.ok (), controller)
    else
      (.ok (),
        { controller with
          queue := controller.queue ++ [chunk]
          queuedBytes := controller.queuedBytes + chunk.length })

/-- Ends the stream once the queue has been delivered. -/
def close (controller : ReadableController) : Except StreamError Unit × ReadableController :=
  match controller.refusal? with
  | some error => (.error error, controller)
  | none =>
    (.ok (),
      { controller with
        closeRequested := true
        state := if controller.queue.isEmpty then .closed else .readable })

/-- Drops the queue. -/
def clear (controller : ReadableController) : ReadableController :=
  { controller with queue := [], queuedBytes := 0 }

/-- Fails the stream and drops the queue. A stream that has ended stays as it is. -/
def error (controller : ReadableController) (error : StreamError) : ReadableController :=
  match controller.state with
  | .readable => { controller.clear with state := .errored error }
  | _ => controller

/-- How much more the source may add before it should pause: nothing once closed, and no answer
once failed. -/
def desiredSize (controller : ReadableController) : Option Int :=
  match controller.state with
  | .errored _ => none
  | .closed => some 0
  | .readable => some (room controller.highWaterMark controller.queuedBytes)

/-- Takes the first chunk out. The last chunk completes a requested close. -/
def dequeue (controller : ReadableController) : Option (Bytes × ReadableController) :=
  match controller.queue with
  | [] => none
  | chunk :: rest =>
    some (chunk,
      { controller with
        queue := rest
        queuedBytes := controller.queuedBytes - chunk.length
        state :=
          if controller.closeRequested && rest.isEmpty then .closed else controller.state })

/-- Ends the stream on behalf of its consumer. -/
def cancel (controller : ReadableController) : ReadableController :=
  match controller.state with
  | .readable => { controller.clear with state := .closed }
  | _ => controller.clear

/-- Ends the stream unless it has ended or failed. -/
def finish (controller : ReadableController) : ReadableController := controller.close.2

/-- What a reader finds at once: the stream's error, its end, or a chunk. -/
def takeReady (controller : ReadableController) :
    Except StreamError (Option ReadOutcome) × ReadableController :=
  match controller.state with
  | .errored error => (.error error, controller)
  | .closed => (.ok (some .done), controller)
  | .readable =>
    match controller.dequeue with
    | some (chunk, rest) => (.ok (some (.chunk chunk)), rest)
    | none => (.ok none, controller)

end ReadableController

/-- The state of a writable stream. -/
inductive WritableState where
  | writable
  /-- The producer has ended the stream; the writes that wait come first. -/
  | closing
  | closed
  | errored (error : StreamError)
deriving DecidableEq, Repr

/-- The name of the state, or the error that the stream has failed with. -/
def WritableState.label : WritableState → Except StreamError String
  | .writable => .ok "writable"
  | .closing => .ok "closing"
  | .closed => .ok "closed"
  | .errored error => .error error

/-- Whether nothing can change any more. -/
def WritableState.isTerminal : WritableState → Bool
  | .closed | .errored _ => true
  | .writable | .closing => false

/-- The writes that wait for a sink, and whether it is at work. -/
structure WritableController where
  highWaterMark : UInt64
  /-- The writes that wait, first first. -/
  pending : List Bytes := []
  pendingBytes : Nat := 0
  /-- The sink is at work. -/
  inFlight : Bool := false
  /-- An abort came while the sink was at work. -/
  abortRequested : Bool := false
  state : WritableState := .writable
deriving DecidableEq, Repr

namespace WritableController

/-- How much more may be written before the producer should pause. -/
def desiredSize (controller : WritableController) : Option Int :=
  match controller.state with
  | .errored _ => none
  | .closed | .closing => some 0
  | .writable => some (room controller.highWaterMark controller.pendingBytes)

def push (controller : WritableController) (chunk : Bytes) : WritableController :=
  { controller with
    pending := controller.pending ++ [chunk]
    pendingBytes := controller.pendingBytes + chunk.length }

/-- Takes the first write out. -/
def pop (controller : WritableController) : Option (Bytes × WritableController) :=
  match controller.pending with
  | [] => none
  | chunk :: rest =>
    some (chunk,
      { controller with
        pending := rest
        pendingBytes := controller.pendingBytes - chunk.length })

/-- Fails the stream and drops the writes that wait. A stream that has ended stays as it is. -/
def error (controller : WritableController) (error : StreamError) : WritableController :=
  if controller.state.isTerminal then controller
  else { controller with pending := [], pendingBytes := 0, state := .errored error }

end WritableController

end EdgeStreams
