import EdgeStreams.Body.Basic
import EdgeStreams.Worker.Config

/-!
# Workers

A worker answers one request after the other. For each it lets a handler make a response body, and
then streams that body through a transform stream into a new host body.

## Main definitions

- `RequestContext`, `Handler`: what a handler works with
- `Worker`: the settings, the session and the number of requests
- `Worker.send`: streams a response into a new host body
- `Worker.handle`: answers a request

## Design notes

If the response cannot be sent, the new host body is abandoned. The streams of the request and the
response are released in any case.
-/

namespace EdgeStreams

variable {H E σ : Type}

/-- What a handler works with. -/
structure RequestContext (H E : Type) where
  session : Session H E
  /-- The request's body, unless the handler has taken it. -/
  request : Option Body

/-- Makes the response to a request. A handler may keep a state `σ` of its own. -/
abbrev Handler (H E σ : Type) :=
  StateT (RequestContext H E × σ) Option (Except ScriptError Body)

/-- A worker with the host, the guests and the streams it works with. -/
structure Worker (H E : Type) where
  config : WorkerConfig
  session : Session H E
  /-- How many requests there have been. -/
  requests : Nat := 0

namespace Worker

def new (host : H) (env : E) (config : WorkerConfig) : Worker H E where
  config
  session := { host, env, streams := Registry.new config.toStreamConfig }

section Response

variable [Host H]

/-- The outcome of the pipe into the response. A pipe that is still running has stalled, and is
torn down. -/
def finish (pipe : PipeId) (readable : ReadableId) : Action H E WorkerError Unit := do
  match (← get).streams.pipeState? pipe with
  | some .done => return
  | some (.failed error) => throw (.stream error)
  | some .running | none =>
    let _ ← Session.caught (Session.abortCorrelated readable (some "response stalled"))
    throw .stalled

/-- Pipes a response into a sink. -/
def pipeResponse (fuel : Nat) (response : Body) (sink : WritableId) :
    Run H E (Except WorkerError Unit × Body) := do
  let (piped, response) ← response.pipeThroughIdentity fuel
  match piped with
  | .error error => return (.error (.body error), response)
  | .ok readable =>
    match ← (Session.pipeTo fuel readable sink).run with
    | .error error => return (.error (.stream error), response)
    | .ok pipe =>
      let _ ← Session.pump fuel
      return (← modifyGet (Session.outcome (finish pipe readable)), response)

/-- Streams a response into a new host body, which is closed afterwards, or abandoned if that
fails. -/
def send (fuel : Nat) (response : Body) : Run H E (Except WorkerError BodyHandle × Body) := do
  if response.used then
    return (.error (.handler (.typeError "response body has already been used")), response)
  else
    match ← modifyGet (Session.outcome (Session.onHost Host.bodyNew)) with
    | .error error => return (.error (.host .bodyNew error), response)
    | .ok destination =>
      let sink ← modifyGet (Session.changeStreams fun streams => streams.bodySink destination)
      let (result, response) ← pipeResponse fuel response sink
      match result with
      | .error _ =>
        let _ ← modifyGet (Session.outcome (Session.abort sink (some "response failed")))
      | .ok () => pure ()
      modify (Session.mapStreams fun streams => streams.releaseWritable sink)
      return (result.map fun () => destination, response)

/-- Sends the response that a handler has made, and lets go of it. -/
def respond (fuel : Nat) : Except ScriptError Body → Run H E (Except WorkerError BodyHandle)
  | .error error => return .error (.handler error)
  | .ok response => do
    let (sent, response) ← send fuel response
    let _ ← modifyGet response.release
    return sent

/-- Lets go of a request's body that the handler has not taken. -/
def releaseLeftover (request : Option Body) (session : Session H E) : Session H E :=
  match request with
  | some body => (body.release session).2
  | none => session

/-- Sweeps the registry, if the settings ask for it. -/
def tidy (config : WorkerConfig) (session : Session H E) : Session H E :=
  if config.sweepAfterRequest then session.mapStreams fun streams => streams.sweep.2 else session

/-- Answers one request. The answer is the host body that holds the response. -/
def handle (fuel : Nat) (worker : Worker H E) (request : BodyHandle) (handler : Handler H E σ)
    (state : σ) : Option (Except WorkerError BodyHandle × Worker H E × σ) := do
  let (body, session) := (Body.ofHandle request).run worker.session
  let (made, context, state) ← handler ({ session, request := some body }, state)
  let session := releaseLeftover context.request context.session
  let (result, session) ← respond fuel made session
  some (result,
    { worker with session := tidy worker.config session, requests := worker.requests + 1 }, state)

end Response

end Worker

end EdgeStreams
