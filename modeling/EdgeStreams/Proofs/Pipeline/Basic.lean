import EdgeStreams.Proofs.Session.Frame
import Mathlib.Data.List.Forall2

/-!
# Pipelines

A pipeline leads from a host body, through transform streams that pass every chunk on, into another
host body. This module says what the streams and pipes of a pipeline look like while the octets of
the first body travel along it, whatever host calls fail on the way.

## Main definitions

- `Pipeline`: the names of all parts
- `Supply`, `LinkStatus`, `Cell`: what a readable stream still has to give, how far the pipe out of
  it has come, and both together with the octets taken so far
- `Intake`: what a writable stream has taken in
- `Passage`: a pipeline with the octets that travel along it
- `Passage.Upto`: everything up to one of the readable streams is as it should be

## Design notes

The readable streams are numbered from the source, which has number zero; the writable stream of
the same number is the one that it is piped into. A `Cell` keeps the octets that have been taken,
which no entry of the registry remembers.
-/

namespace EdgeStreams

variable {E : Type}

/-- The names of the parts of a pipeline. -/
structure Pipeline where
  /-- The host body that is read. -/
  origin : BodyHandle
  source : ReadableId
  stages : List TransformStream
  sink : WritableId
  /-- The host body that is written. -/
  destination : BodyHandle

namespace Pipeline

variable (p : Pipeline)

/-- The number of the last link, which leads into the sink. -/
def length : Nat := p.stages.length

def stage (i : Nat) : TransformStream := p.stages.getD i ⟨default, default, default⟩

/-- The source, and then the readable halves. -/
def readable : Nat → ReadableId
  | 0 => p.source
  | i + 1 => (p.stage i).readable

/-- The writable halves, and then the sink. -/
def writable (i : Nat) : WritableId :=
  if i < p.length then (p.stage i).writable else p.sink

/-- The bridge between the writable stream of a number and the readable stream of the next. -/
def bridge (i : Nat) : BridgeId := (p.stage i).bridge

theorem writable_of_lt {i : Nat} (h : i < p.length) : p.writable i = (p.stage i).writable :=
  if_pos h

@[simp] theorem writable_length : p.writable p.length = p.sink := if_neg (Nat.lt_irrefl _)

/-- The running pipe of a number. -/
def pipe (i : Nat) (reader : ReaderToken) (writer : WriterToken) : Pipe where
  source := p.readable i
  destination := p.writable i
  reader := reader
  writer := writer
  options := {}

/-- The parts of a pipeline are different from each other. -/
structure Distinct : Prop where
  readable : ∀ i j, i ≤ p.length → j ≤ p.length → p.readable i = p.readable j → i = j
  writable : ∀ i j, i ≤ p.length → j ≤ p.length → p.writable i = p.writable j → i = j
  bridge : ∀ i j, i < p.length → j < p.length → p.bridge i = p.bridge j → i = j
  ends : p.origin ≠ p.destination

/-- The host bodies that are not written: the one that is read, and those that have nothing to do
with the pipeline. -/
def unwritten : Set BodyHandle := {handle | handle = p.origin ∨ handle ≠ p.destination}

/-- What lies before the readable stream of a number. -/
def before (i : Nat) : Footprint where
  readables := {id | ∃ j, j < i ∧ id = p.readable j}
  writables := {id | ∃ j, j < i ∧ id = p.writable j}
  bridges := {id | ∃ j, j < i ∧ id = p.bridge j}
  pipes := {id | ∃ j, j < i ∧ id = p.writable j}
  bodies := p.unwritten

/-- What may change when the readable stream of a number is read. -/
def upstream (i : Nat) : Footprint where
  readables := {id | ∃ j, j ≤ i ∧ id = p.readable j}
  writables := {id | ∃ j, j < i ∧ id = p.writable j}
  bridges := {id | ∃ j, j < i ∧ id = p.bridge j}
  pipes := {id | ∃ j, j < i ∧ id = p.writable j}
  bodies := p.unwritten

/-- What lies between the writable stream of a number and the next readable stream. -/
def crossing (i : Nat) : Footprint where
  readables := {p.readable (i + 1)}
  writables := {p.writable i}
  bridges := {p.bridge i}

/-- What is behind the writable stream of a number. -/
def far (i : Nat) : Footprint where
  readables := {p.readable (i + 1)}
  bridges := {p.bridge i}

/-- The end of a pipeline. -/
def mouth : Footprint where
  writables := {p.sink}
  bodies := {p.destination}

/-- The pipe of a number. -/
def link (i : Nat) : Footprint where
  readables := {p.readable i}
  writables := {p.writable i}
  pipes := {p.writable i}

end Pipeline

/-! ### Readable streams -/

/-- What a readable stream still has for its reader. -/
inductive Supply where
  /-- Open for more. -/
  | flowing (queue : List Bytes)
  /-- Only what is queued, and that is not nothing. -/
  | draining (queue : List Bytes)
  | ended
  /-- The reader wanted no more. -/
  | canceled
  | failed (error : StreamError)

namespace Supply

def queue : Supply → List Bytes
  | flowing queue | draining queue => queue
  | ended | canceled | failed _ => []

/-- Whether more may come. -/
def IsOpen : Supply → Prop
  | flowing _ => True
  | draining _ | ended | canceled | failed _ => False

/-- Whether nothing is to be had any more. -/
def IsTerminal : Supply → Prop
  | flowing _ | draining _ => False
  | ended | canceled | failed _ => True

/-- Whether nothing was lost. -/
def IsHealthy : Supply → Prop
  | flowing _ | draining _ | ended => True
  | canceled | failed _ => False

/-- What a controller looks like. -/
def Shows (controller : ReadableController) : Supply → Prop
  | flowing queue =>
    controller.state = .readable ∧ controller.closeRequested = false ∧ controller.queue = queue
  | draining queue =>
    controller.state = .readable ∧ controller.closeRequested = true ∧ controller.queue = queue ∧
      queue ≠ []
  | ended | canceled => controller.state = .closed ∧ controller.queue = []
  | failed error => controller.state = .errored error ∧ controller.queue = []

/-- Of what came in, how much has been taken. -/
def Accounts (taken incoming : Bytes) : Supply → Prop
  | flowing queue | draining queue => incoming = taken ++ queue.flatten
  | ended => incoming = taken
  | canceled | failed _ => taken <+: incoming

end Supply

/-- How far a pipe has come. -/
inductive LinkStatus where
  /-- It has not been started. -/
  | idle
  | running (pipe : PipeId) (reader : ReaderToken) (writer : WriterToken)
  | finished (outcome : PipeState)

namespace LinkStatus

def pipe? : LinkStatus → Option PipeId
  | running pipe _ _ => some pipe
  | idle | finished _ => none

def reader? : LinkStatus → Option ReaderToken
  | running _ reader _ => some reader
  | idle | finished _ => none

def writer? : LinkStatus → Option WriterToken
  | running _ _ writer => some writer
  | idle | finished _ => none

def IsIdle : LinkStatus → Prop
  | idle => True
  | running _ _ _ | finished _ => False

def IsRunning : LinkStatus → Prop
  | running _ _ _ => True
  | idle | finished _ => False

def IsFinished : LinkStatus → Prop
  | finished _ => True
  | idle | running _ _ _ => False

instance : DecidablePred IsRunning := fun status =>
  match status with
  | running _ _ _ => isTrue trivial
  | idle | finished _ => isFalse id

end LinkStatus

/-- A readable stream and the pipe out of it. -/
structure Cell where
  /-- The octets that readers have taken. -/
  taken : Bytes
  supply : Supply
  link : LinkStatus
  /-- A pull is under way. -/
  pulling : Bool := false

/-- The cell is that of a readable stream between two operations; `below` are the cells before it.
The source keeps nothing in its queue between two operations. -/
structure Cell.Rests (cell : Cell) (below : List Cell) : Prop where
  pulling : cell.pulling = false
  dry : below = [] → cell.supply.queue = []

/-- A readable stream of a pipeline between two operations, or while it is pulled. -/
structure Source.Stands (source : Source E) (cell : Cell) : Prop where
  started : source.start = .resolved
  kept : source.released = false
  pulling : source.pulling = cell.pulling
  unasked : source.pullAgain = false
  lock : source.readerLock = cell.link.reader?
  uncanceled : ∀ queue, cell.supply = .flowing queue ∨ cell.supply = .draining queue →
    source.canceled = false
  shows : cell.supply.Shows source.controller
  nonempty : ∀ chunk ∈ cell.supply.queue, chunk ≠ []

/-! ### Writable streams -/

/-- What a writable stream has taken in. -/
structure Intake where
  state : WritableState
  octets : Bytes

/-- The readable half of a transform stream with the given supply belongs to a writable half in the
given state. -/
def Supply.Answers (state : WritableState) : Supply → Prop
  | flowing _ => state = .writable
  | draining _ | ended => state = .closed
  | canceled => state.isTerminal = true
  | failed _ => ∃ error, state = .errored error

/-! ### The whole -/

/-- The octets of one host body on their way into another. -/
structure Passage extends Pipeline where
  content : Bytes
  /-- No host call fails. -/
  faultless : Prop
  /-- Besides, nothing on the way is given up. -/
  calm : Prop
  faultless_of_calm : calm → faultless
  /-- No read goes too far. -/
  modest : Prop
  /-- Pipes that are finished may have been swept. -/
  swept : Prop

namespace Passage

variable (p : Passage)

/-- The writable stream that a pipe leads into has taken in what the pipe has carried, and the pipe
is finished just when both its ends are. -/
structure Joins (cell : Cell) (intake : Intake) : Prop where
  settled : cell.link.IsFinished → cell.supply.IsTerminal
  released : cell.supply = .canceled → cell.link.IsFinished
  calm : p.calm → ∀ outcome, cell.link = .finished outcome → outcome = .done
  carried :
    match intake.state with
    | .writable => intake.octets = cell.taken ∧ ¬ cell.link.IsFinished
    | .closing => False
    | .closed => intake.octets = cell.taken ∧ cell.link = .finished .done ∧ cell.supply = .ended
    | .errored _ => intake.octets <+: cell.taken ∧ cell.link ≠ .finished .done

/-- The readable stream of a number. -/
def SourceAt (i : Nat) (backing : SourceBacking E) (cell : Cell)
    (s : Session MemoryHost E) : Prop :=
  ∃ source, s.streams.source? (p.readable i) = some source ∧ source.backing = backing ∧
    source.Stands cell

/-- The writable stream of a number, between two operations. -/
def SinkAt (i : Nat) (backing : SinkBacking E) (state : WritableState) (lock : Option WriterToken)
    (s : Session MemoryHost E) : Prop :=
  ∃ sink, s.streams.sink? (p.writable i) = some sink ∧ sink.backing = backing ∧
    sink.Rests state lock

/-- The entries of pipes into the writable stream of a number. -/
def PipeAt (i : Nat) (link : LinkStatus) (pumping : Bool) (s : Session MemoryHost E) : Prop :=
  match link with
  | .idle => ∀ id pipe, s.streams.pipe? id = some pipe → pipe.destination ≠ p.writable i
  | .running id reader writer =>
    s.streams.pipe? id = some { p.pipe i reader writer with pumping } ∧
      ∀ other pipe, s.streams.pipe? other = some pipe → pipe.destination = p.writable i → other = id
  | .finished outcome =>
    (∀ id pipe, s.streams.pipe? id = some pipe → pipe.destination = p.writable i →
        pipe.source = p.readable i ∧ pipe.state = outcome ∧ outcome ≠ .running) ∧
      (p.swept ∨ ∃ id pipe, s.streams.pipe? id = some pipe ∧ pipe.destination = p.writable i)

/-- The host body that is read. What has been read is accounted for by the source. -/
def OriginAt (cell : Cell) (s : Session MemoryHost E) : Prop :=
  ∃ body entered, s.host.bodies.find? p.origin.raw = some body ∧
    (p.content = entered ++ body.unread ∧
      body.position + body.unread.length ≤ p.content.length) ∧
    cell.supply.Accounts cell.taken entered ∧
    (cell.supply.IsOpen → body.state ≠ .abandoned) ∧
    (cell.supply.IsHealthy → ¬ cell.supply.IsOpen → body.unread = [])

/-- A read of so many octets takes something and, wherever it begins, does not go too far. -/
structure AdmitsReads (size : UInt64) (host : MemoryHost) : Prop where
  pos : 0 < size
  within : p.modest → p.content.length + host.readLimit size < UInt64.size

/-- The source and the host body behind it. -/
structure Spring (cell : Cell) (s : Session MemoryHost E) : Prop where
  source : ∃ size, p.AdmitsReads size s.host ∧ p.SourceAt 0 (.body p.origin size) cell s
  origin : p.OriginAt cell s
  healthy : p.calm → cell.supply.IsHealthy
  chunkSize : 0 < s.host.chunkSize
  faultless : p.faultless → s.host.faults = {}
  /-- No read has gone too far, also none of a body that has nothing to do with the pipeline. -/
  intact : p.modest → ∀ handle ∈ p.unwritten, s.host.overrun ≠ some handle

/-- A transform stream: the writable stream of a number and the next readable stream. -/
structure Crossing (i : Nat) (cell : Cell) (intake : Intake) (lock : Option WriterToken)
    (s : Session MemoryHost E) : Prop where
  source : p.SourceAt (i + 1) (.transform (p.bridge i)) cell s
  sink : p.SinkAt i (.transform (p.bridge i)) intake.state lock s
  bridge : ∃ bridge, s.streams.bridge? (p.bridge i) = some bridge ∧
    bridge.readable = p.readable (i + 1) ∧ bridge.writable = p.writable i ∧
    bridge.transformer = .identity
  answers : cell.supply.Answers intake.state
  accounts : cell.supply.Accounts cell.taken intake.octets
  healthy : p.calm → cell.supply.IsHealthy

/-- Everything up to the readable stream of a number is as it should be: its own cell is `cell`, and
`below` are the cells before it, the nearest first. The number is the length of `below`. -/
def Upto : List Cell → Cell → Session MemoryHost E → Prop
  | [], cell, s => p.Spring cell s
  | last :: below, cell, s =>
    Upto below last s ∧ last.Rests below ∧ p.PipeAt below.length last.link false s ∧
      ∃ intake, p.Crossing below.length cell intake last.link.writer? s ∧ p.Joins last intake

/-- The host body behind the sink. Only a fault keeps it from being abandoned when the sink
fails. -/
structure Basin (intake : Intake) (s : Session MemoryHost E) : Prop where
  body : ∃ body, s.host.bodies.find? p.destination.raw = some body ∧
    body.contents.toList = intake.octets ∧
    (intake.state = .writable → body.state = .opened) ∧
    (body.state = .closed ↔ intake.state = .closed) ∧
    (p.faultless → ∀ error, intake.state = .errored error → body.state = .abandoned)
  unbroken : p.calm → ∀ error, intake.state ≠ .errored error
  faultless : p.faultless → s.host.faults = {}
  intact : p.modest → s.host.overrun ≠ some p.destination

/-- The sink and the host body behind it. -/
structure Mouth (intake : Intake) (lock : Option WriterToken)
    (s : Session MemoryHost E) : Prop where
  sink : p.SinkAt p.length (.body p.destination) intake.state lock s
  basin : p.Basin intake s

/-- A session in which a pipeline is under way. -/
structure Holds (below : List Cell) (last : Cell) (s : Session MemoryHost E) : Prop where
  length : below.length = p.length
  upto : p.Upto below last s
  resting : last.Rests below
  pipe : p.PipeAt p.length last.link false s
  mouth : ∃ intake, p.Mouth intake last.link.writer? s ∧ p.Joins last intake
  /-- No other pipe is running. -/
  alone : ∀ id pipe, s.streams.pipe? id = some pipe → pipe.isRunning →
    ∃ i, i ≤ p.length ∧ pipe.destination = p.writable i
  wellFormed : s.streams.pipes.WellFormed

end Passage

end EdgeStreams
