import EdgeStreams.Proofs.Session.Ripples
import EdgeStreams.Proofs.Session.Untouched

/-!
# Deeds

Whatever is done to streams that exist is done in a few kinds of deeds. Reading a host body or a
guest is one deed; a pull of a transform stream is not, since other deeds may come before its end.
Ending, aborting, cancelling and writing are one deed each.

## Main definitions

- `Demand`, `SinkCall`: what is asked of a source and of a sink
- `Registry.Composed`: what holds of the registry before and after every deed
- `Session.Deed`: one deed, with the writes that it has made
- `Source.ProceedsTo`, `Sink.ProceedsTo`: what a deed does to a source and to a sink

## Design notes

A write counts as made if it passes the lock and finds the stream taking writes.
-/

namespace EdgeStreams

variable {H E : Type}

/-! ### What is asked of sources and sinks -/

/-- What is asked of a source. -/
inductive Demand where
  | pull
  /-- The pull has come to an outcome. -/
  | pulled (outcome : Except StreamError Unit)
  | cancel (outcome : Except StreamError Unit)

/-- What is asked of a sink, and what came of it. -/
inductive SinkCall where
  | write (chunk : Bytes) (outcome : Except StreamError Unit)
  | close (outcome : Except StreamError Unit)
  | abort (outcome : Except StreamError Unit)

namespace StreamEvent

/-- What an event asks of a source. -/
def demand? (id : ReadableId) : StreamEvent → Option Demand
  | .pullBegan other => if other = id then some .pull else none
  | .pullEnded other outcome => if other = id then some (.pulled outcome) else none
  | .canceled other outcome => if other = id then some (.cancel outcome) else none
  | _ => none

/-- What an event asks of a sink. -/
def sinkCall? (id : WritableId) : StreamEvent → Option SinkCall
  | .written other chunk outcome => if other = id then some (.write chunk outcome) else none
  | .closed other outcome => if other = id then some (.close outcome) else none
  | .aborted other outcome => if other = id then some (.abort outcome) else none
  | _ => none

end StreamEvent

/-- The chunk that a sink is handed. -/
def SinkCall.chunk? : SinkCall → Option Bytes
  | .write chunk _ => some chunk
  | .close _ | .abort _ => none

namespace Session

variable {s t : Session H E}

/-- What was asked of a source, last first. -/
def demands (id : ReadableId) (s : Session H E) : List Demand :=
  s.journal.filterMap (StreamEvent.demand? id)

/-- What was asked of a sink, last first. -/
def sinkCalls (id : WritableId) (s : Session H E) : List SinkCall :=
  s.journal.filterMap (StreamEvent.sinkCall? id)

theorem demands_eq (id : ReadableId) (s : Session H E) :
    s.demands id = s.calls.filterMap (StreamEvent.demand? id) := by
  rw [calls, List.filterMap_filter, demands]
  congr 1
  funext event
  cases event <;> rfl

theorem sinkCalls_eq (id : WritableId) (s : Session H E) :
    s.sinkCalls id = s.calls.filterMap (StreamEvent.sinkCall? id) := by
  rw [calls, List.filterMap_filter, sinkCalls]
  congr 1
  funext event
  cases event <;> rfl

theorem demands_append {new : List StreamEvent} (h : t.calls = new ++ s.calls) (id : ReadableId) :
    t.demands id = new.filterMap (StreamEvent.demand? id) ++ s.demands id := by
  rw [demands_eq, h, List.filterMap_append, demands_eq]

theorem sinkCalls_append {new : List StreamEvent} (h : t.calls = new ++ s.calls) (id : WritableId) :
    t.sinkCalls id = new.filterMap (StreamEvent.sinkCall? id) ++ s.sinkCalls id := by
  rw [sinkCalls_eq, h, List.filterMap_append, sinkCalls_eq]

end Session

/-! ### What a deed does to a stream -/

/-- The source is of the same kind, and what has ended has stayed as it was. -/
structure Source.Stays (source source' : Source E) : Prop where
  backing : source'.backing = source.backing
  start : source'.start = source.start
  controller : source.controller.ProceedsTo source'.controller

/-- The source is the readable half of a transform stream. -/
theorem Source.Stays.isTransform_iff {source source' : Source E} (h : source.Stays source') :
    source'.IsTransform ↔ source.IsTransform := by
  unfold IsTransform
  rw [h.backing]

/-- The source may be pulled: it has been started, and it has neither ended nor failed nor been
cancelled. -/
structure Source.Pullable (source : Source E) : Prop where
  started : source.start = .resolved
  uncanceled : source.canceled = false
  unended : source.controller.closeRequested = false
  readable : source.controller.state = .readable

/-- What a deed does to a source, and what it asks of the source, last first. -/
inductive Source.ProceedsTo (source : Source E) : List Demand → Source E → Prop
  /-- Nothing is asked of the source. -/
  | stays {source' : Source E} : source.Stays source' → source'.canceled = source.canceled →
    source'.pulling = source.pulling →
      (source'.pullAgain = true → source.pullAgain = true ∨ source.pulling = true) →
        ProceedsTo source [] source'
  /-- The source is pulled, and the pull comes to its end. -/
  | pulls {source' : Source E} (outcome : Except StreamError Unit) :
    source.Pullable → source.pulling = false → source.Stays source' →
      source'.canceled = source.canceled → source'.pulling = false → source'.pullAgain = false →
        (∀ error, outcome = .error error → source'.controller.state ≠ .readable) →
          ProceedsTo source [.pulled outcome, .pull] source'
  /-- A pull of the readable half of a transform stream begins. -/
  | begins {source' : Source E} : source.IsTransform → source.Pullable →
    source.pulling = false → source.Stays source' →
      source'.canceled = source.canceled → source'.pulling = true →
      ProceedsTo source [.pull] source'
  /-- The pull has come to its end. -/
  | ends {source' : Source E} : source.pulling = true → source.Stays source' →
    source'.canceled = source.canceled → source'.pulling = false → source'.pullAgain = false →
      ProceedsTo source [.pulled (.ok ())] source'
  | cancels {source' : Source E} (outcome : Except StreamError Unit) :
    source.controller.state = .readable → source.canceled = false → source.Stays source' →
      source'.canceled = true → source'.pulling = source.pulling →
        source'.pullAgain = source.pullAgain → ProceedsTo source [.cancel outcome] source'

/-- The sink is of the same kind. It takes writes only if it took them before, and then it is as it
was; otherwise it has ended or failed. -/
structure Sink.Stays (sink sink' : Sink E) : Prop where
  backing : sink'.backing = sink.backing
  idle : sink.Idle → sink'.Idle
  controller : sink'.controller = sink.controller ∨
    sink.controller.state = .writable ∧ sink'.controller.state.isTerminal = true

/-- What a deed does to a sink, and what it asks of the sink, last first. -/
inductive Sink.ProceedsTo (sink : Sink E) : List SinkCall → Sink E → Prop
  | stays {sink' : Sink E} : sink.Stays sink' → ProceedsTo sink [] sink'
  | writes {sink' : Sink E} (chunk : Bytes) (outcome : Except StreamError Unit) :
    sink.controller.state = .writable → sink.Stays sink' →
      (∀ error, outcome = .error error → sink'.controller.state.isTerminal = true) →
        ProceedsTo sink [.write chunk outcome] sink'
  | closes {sink' : Sink E} (outcome : Except StreamError Unit) :
    sink.controller.state = .writable → sink.Stays sink' →
      sink'.controller.state.isTerminal = true → ProceedsTo sink [.close outcome] sink'
  | aborts {sink' : Sink E} (outcome : Except StreamError Unit) :
    sink.controller.state = .writable → sink.Stays sink' →
      sink'.controller.state.isTerminal = true → ProceedsTo sink [.abort outcome] sink'

/-! ### What is done for a stream -/

section Performs

variable [Host H]

/-- The outcome of a pull of a host body. -/
def readResult (result : Except HostError Bytes) : Except StreamError Unit :=
  match result with
  | .error error => .error (.host .bodyRead error)
  | .ok _ => .ok ()

/-- What is done for a source to do what is asked of it: one call on the host or on a guest. A pull
of a transform stream begins and ends with nothing. -/
inductive Source.Performs (s t : Session H E) (source source' : Source E) : List Demand → Prop
  | nothing : Performs s t source source' []
  /-- An empty read ends the stream, at once if nothing is queued. -/
  | read {handle : BodyHandle} {size : UInt64} {result : Except HostError Bytes} :
    source.backing = .body handle size → t.env = s.env →
      exec (Host.bodyRead handle size) s.host = (result, t.host) →
        (result = .ok [] → ¬ source'.controller.IsOpen ∧
          (source.controller.queue = [] → source'.controller.state ≠ .readable)) →
          Performs s t source source' [.pulled (readResult result), .pull]
  | abandon {handle : BodyHandle} {size : UInt64} {result : Except HostError Unit} :
    source.backing = .body handle size → t.env = s.env →
      exec (Host.bodyAbandon handle) s.host = (result, t.host) →
        Performs s t source source' [.cancel (result.mapError (.host .bodyAbandon))]
  /-- A guest that ends or fails the stream does so for good. -/
  | pull {guest : UnderlyingSource E} {desk : SourceDesk} {outcome : Except StreamError Unit} :
    source.backing = .script guest → t.host = s.host →
      ((guest.pull s.env).run SourceDesk.perform desk).1 = (outcome, t.env) →
        (∀ call, (guest.pull s.env).Makes SourceDesk.perform call desk → call.ends = true →
          ¬ source'.controller.IsOpen) →
            Performs s t source source' [.pulled outcome, .pull]
  | cancel {guest : UnderlyingSource E} {reason : Option String}
    {outcome : Except StreamError Unit} : source.backing = .script guest → t.host = s.host →
      guest.cancel reason s.env = (outcome, t.env) → Performs s t source source' [.cancel outcome]
  | relay {demands : List Demand} : source.IsTransform → t.host = s.host → t.env = s.env →
    Performs s t source source' demands

/-- A transformer works, unless the readable half is gone or has failed. -/
def Registry.Transforms (streams : Registry E) (name : BridgeId) (work : TransformWork E) (env : E)
    (outcome : Except StreamError Unit) (env' : E) : Prop :=
  ∃ bridge, streams.bridge? name = some bridge ∧
    match streams.source? bridge.readable with
    | none => outcome = .error .released ∧ env' = env
    | some source =>
      match source.controller.state with
      | .errored error => outcome = .error error ∧ env' = env
      | _ => (outcome, env') = (work bridge.transformer env { controller := source.controller }).1

/-- What is done for a sink to do what is asked of it: one call on the host, on a guest or on a
transformer. A transformer is not told of an abort. -/
inductive Sink.Performs (s t : Session H E) (sink : Sink E) : SinkCall → Prop
  | bodyWrite {handle : BodyHandle} {chunk : Bytes} {result : Except HostError Unit} :
    sink.backing = .body handle → t.env = s.env →
      exec (Host.bodyWrite handle chunk) s.host = (result, t.host) →
        Performs s t sink (.write chunk (result.mapError (.host .bodyWrite)))
  | bodyClose {handle : BodyHandle} {result : Except HostError Unit} :
    sink.backing = .body handle → t.env = s.env →
      exec (Host.bodyClose handle) s.host = (result, t.host) →
        Performs s t sink (.close (result.mapError (.host .bodyClose)))
  | bodyAbandon {handle : BodyHandle} {result : Except HostError Unit} :
    sink.backing = .body handle → t.env = s.env →
      exec (Host.bodyAbandon handle) s.host = (result, t.host) →
        Performs s t sink (.abort (result.mapError (.host .bodyAbandon)))
  | guestWrite {guest : UnderlyingSink E} {chunk : Bytes} {outcome : Except StreamError Unit} :
    sink.backing = .script guest → t.host = s.host → guest.write chunk s.env = (outcome, t.env) →
      Performs s t sink (.write chunk outcome)
  | guestClose {guest : UnderlyingSink E} {outcome : Except StreamError Unit} :
    sink.backing = .script guest → t.host = s.host → guest.close s.env = (outcome, t.env) →
      Performs s t sink (.close outcome)
  | guestAbort {guest : UnderlyingSink E} {reason : Option String}
    {outcome : Except StreamError Unit} : sink.backing = .script guest → t.host = s.host →
      guest.abort reason s.env = (outcome, t.env) → Performs s t sink (.abort outcome)
  | transform {name : BridgeId} {chunk : Bytes} {outcome : Except StreamError Unit} :
    sink.backing = .transform name → t.host = s.host →
      s.streams.Transforms name (.transform chunk) s.env outcome t.env →
        Performs s t sink (.write chunk outcome)
  | flush {name : BridgeId} {outcome : Except StreamError Unit} :
    sink.backing = .transform name → t.host = s.host →
      s.streams.Transforms name .flush s.env outcome t.env → Performs s t sink (.close outcome)
  | drop {name : BridgeId} : sink.backing = .transform name → t.host = s.host → t.env = s.env →
    Performs s t sink (.abort (.ok ()))

end Performs

/-! ### Registries between two deeds -/

/-- What holds of the registry between two deeds. The halves of a transform stream know their
bridge, no sink has anything to do, and only the readable half of a transform stream may be being
pulled. -/
structure Registry.Composed (streams : Registry E) : Prop where
  readable : ∀ {id source name}, streams.source? id = some source →
    source.backing = .transform name →
      ∃ bridge, streams.bridge? name = some bridge ∧ bridge.readable = id
  writable : ∀ {id sink name}, streams.sink? id = some sink → sink.backing = .transform name →
    ∃ bridge, streams.bridge? name = some bridge ∧ bridge.writable = id
  idle : ∀ {id sink}, streams.sink? id = some sink → sink.Idle
  asked : ∀ {id source}, streams.source? id = some source → source.pullAgain = true →
    source.pulling = true
  native : ∀ {id source}, streams.source? id = some source → ¬ source.IsTransform →
    source.pulling = false

/-- A write passes the lock and finds the stream taking writes. -/
def Registry.Takes (streams : Registry E) (id : WritableId) (token : Option WriterToken) : Prop :=
  ∃ sink, streams.sink? id = some sink ∧ sink.writerLock = token ∧
    sink.controller.state = .writable ∧ ∀ error, sink.start ≠ .rejected error

namespace Session

variable [Host H]

/-- One deed, with the writes that it has made, last first. -/
inductive Deed (s : Session H E) : List (WritableId × Bytes) → Session H E → Prop
  /-- A stream over a host body or a guest is read. -/
  | read {fuel : Nat} {id : ReadableId} {source : Source E}
    {r : Except StreamError ReadOutcome × Session H E} : s.streams.source? id = some source →
      ¬ source.IsTransform → attempt (readUnchecked fuel id) s = some r → Deed s [] r.2
  /-- The readable half of a transform stream is marked as disturbed. -/
  | disturb {id : ReadableId} {source : Source E} : s.streams.source? id = some source →
    source.IsTransform → Deed s [] (disturb id source s)
  /-- What is ready in the readable half of a transform stream is taken. -/
  | take {id : ReadableId} {source : Source E} : s.streams.source? id = some source →
    source.IsTransform → Deed s [] (exec (takeReady id) s).2
  /-- Another pull is wanted while one is under way. -/
  | ask {id : ReadableId} {source : Source E} : s.streams.source? id = some source →
    source.IsTransform → source.pulling = true →
      Deed s [] (setSource id { source with pullAgain := true } s)
  | beginPull {id : ReadableId} {source : Source E} {waits : Bool} :
    s.streams.source? id = some source → source.IsTransform → source.wantsPull waits = true →
      source.pulling = false →
        Deed s [] (note (.pullBegan id) (setSource id { source with pulling := true } s))
  | endPull {id : ReadableId} {source : Source E} : s.streams.source? id = some source →
    source.IsTransform → source.pulling = true →
      Deed s [] (setSource id { source with pulling := false, pullAgain := false }
        (note (.pullEnded id (.ok ())) s))
  /-- A transform stream is asked for a chunk. -/
  | request {id : BridgeId} {bridge : Bridge E} : s.streams.bridge? id = some bridge →
    Deed s [] (setBridge id { bridge with pullRequested := true } s)
  | cancel (id : ReadableId) (reason : Option String) :
    Deed s [] (exec (cancelUnchecked id reason) s).2
  | write {id : WritableId} {token : Option WriterToken} (chunk : Bytes) :
    s.streams.Takes id token → Deed s [(id, chunk)] (exec (write id chunk token) s).2
  /-- A write that does not pass the lock, or finds the stream ended or failed. -/
  | refuse {id : WritableId} {token : Option WriterToken} (chunk : Bytes) :
    ¬ s.streams.Takes id token → Deed s [] (exec (Session.write id chunk token) s).2
  | close (id : WritableId) : Deed s [] (exec (closeUnchecked id) s).2
  | abort (id : WritableId) (reason : Option String) :
    Deed s [] (exec (abortUnchecked id reason) s).2
  /-- A pipe starts or stops being driven. -/
  | drive {id : PipeId} {pipe : Pipe} (pumping : Bool) : s.streams.pipe? id = some pipe →
    Deed s [] (mapStreams (fun streams => streams.setPipe id { pipe with pumping }) s)
  /-- A pipe comes to its end. -/
  | finish (id : PipeId) (state : PipeState) : Deed s [] (pipeFinished id state s)

/-- One deed after another, with the writes that they have made, last first. -/
inductive Course (s : Session H E) : List (WritableId × Bytes) → Session H E → Prop
  | refl : Course s [] s
  | step {t u : Session H E} {made more : List (WritableId × Bytes)} :
    Course s made t → Deed t more u → Course s (more ++ made) u

end Session

end EdgeStreams
