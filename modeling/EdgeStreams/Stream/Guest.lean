import EdgeStreams.Stream.Controller
import EdgeStreams.Stream.Program

/-!
# Guests

Guest code supplies sources, sinks and transformers. A guest works in an environment of its own,
which all guests share, and reaches its stream only through calls on a controller.

## Main definitions

- `SourceCall`, `SourceDesk`: what a source may ask for, and what answers it
- `TransformCall`, `TransformDesk`: the same for a transformer
- `UnderlyingSource`, `UnderlyingSink`, `Transformer`: the three kinds of guest
- `Transformer.identity`: passes every chunk on unchanged

## Design notes

`E` is the environment of the guests: whatever they remember. A desk keeps, besides the controller,
the chunks that the controller took, so that a stream's history can be told.
-/

namespace EdgeStreams

/-- The outcome of a guest's work: success or failure, and the environment it leaves. -/
abbrev GuestResult (E : Type) := Except StreamError Unit × E

/-! ### Sources -/

/-- What a source may ask of its controller. -/
inductive SourceCall where
  | enqueue (chunk : Bytes)
  | close
  | error (error : StreamError)
  | desiredSize
deriving Repr

def SourceCall.Answer : SourceCall → Type
  | .enqueue _ | .close => Except StreamError Unit
  | .error _ => Unit
  | .desiredSize => Option Int

/-- The controller that a source acts on. -/
structure SourceDesk where
  controller : ReadableController
  /-- The chunks that were queued, last first. -/
  accepted : List Bytes := []

namespace SourceDesk

/-- Queues a chunk and notes it, unless it is empty or refused. -/
def enqueue (desk : SourceDesk) (chunk : Bytes) : Except StreamError Unit × SourceDesk :=
  let (outcome, controller) := desk.controller.enqueue chunk
  let accepted :=
    if outcome.isOk && !chunk.isEmpty then chunk :: desk.accepted else desk.accepted
  (outcome, { controller, accepted })

def perform (call : SourceCall) (desk : SourceDesk) : call.Answer × SourceDesk :=
  match call with
  | .enqueue chunk => desk.enqueue chunk
  | .close =>
    let (outcome, controller) := desk.controller.close
    (outcome, { desk with controller })
  | .error error => ((), { desk with controller := desk.controller.error error })
  | .desiredSize => (desk.controller.desiredSize, desk)

end SourceDesk

/-- What a guest does when a source is called upon. -/
abbrev SourceProgram (E : Type) := Program SourceCall.Answer (GuestResult E)

/-- A producer of chunks. -/
structure UnderlyingSource (E : Type) where
  /-- Called once when the stream is made. -/
  start : E → SourceProgram E := fun env => .done (.ok (), env)
  /-- Called whenever the stream wants more. -/
  pull : E → SourceProgram E
  /-- Called when the consumer cancels. -/
  cancel : Option String → E → GuestResult E := fun _ env => (.ok (), env)

/-! ### Sinks -/

/-- A consumer of chunks. -/
structure UnderlyingSink (E : Type) where
  /-- Called once when the stream is made. -/
  start : E → GuestResult E := fun env => (.ok (), env)
  /-- Called with each chunk, one at a time. -/
  write : Bytes → E → GuestResult E
  /-- Called when the producer ends the stream. -/
  close : E → GuestResult E := fun env => (.ok (), env)
  /-- Called when the stream is aborted. -/
  abort : Option String → E → GuestResult E := fun _ env => (.ok (), env)

/-! ### Transformers -/

/-- What a transformer may ask of its controller. -/
inductive TransformCall where
  | enqueue (chunk : Bytes)
  /-- Fails both halves. -/
  | error (error : StreamError)
  /-- Ends the readable half and fails the writable half. -/
  | terminate
  | desiredSize
deriving Repr

def TransformCall.Answer : TransformCall → Type
  | .enqueue _ => Except StreamError Unit
  | .error _ | .terminate => Unit
  | .desiredSize => Option Int

/-- The readable half that a transformer acts on. -/
structure TransformDesk extends SourceDesk where
  /-- The transformer has ended or failed the stream. -/
  terminated : Bool := false

namespace TransformDesk

/-- Ends the readable half, unless it has ended or failed. -/
def finish (desk : TransformDesk) : TransformDesk :=
  { desk with controller := desk.controller.finish }

def perform (call : TransformCall) (desk : TransformDesk) : call.Answer × TransformDesk :=
  match call with
  | .enqueue chunk =>
    let (outcome, source) := desk.toSourceDesk.enqueue chunk
    (outcome, { desk with toSourceDesk := source })
  | .error error =>
    ((), { desk with controller := desk.controller.error error, terminated := true })
  | .terminate => ((), { desk.finish with terminated := true })
  | .desiredSize => (desk.controller.desiredSize, desk)

end TransformDesk

/-- What a guest does when a transformer is called upon. -/
abbrev TransformProgram (E : Type) := Program TransformCall.Answer (GuestResult E)

/-- Turns the chunks of one stream into the chunks of another. -/
structure Transformer (E : Type) where
  /-- Called once when the stream is made. -/
  start : E → TransformProgram E := fun env => .done (.ok (), env)
  /-- Called with each chunk that is written. -/
  transform : Bytes → E → TransformProgram E
  /-- Called when the writable half is closed, before the readable half is. -/
  flush : E → TransformProgram E := fun env => .done (.ok (), env)

/-- Passes every chunk on unchanged. -/
def Transformer.identity {E : Type} : Transformer E where
  transform chunk env := .call (.enqueue chunk) fun outcome => .done (outcome, env)

end EdgeStreams
