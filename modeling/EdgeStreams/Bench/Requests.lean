import EdgeStreams.Bench.Bodies
import EdgeStreams.Worker.Basic

/-!
# Requests on a bench

A worker on a bench answers requests by scripted handlers: the handler does some tasks, and then
fails or replies with a body.

## Main definitions

- `Bench.HandlerTask`, `Bench.Reply`: what a handler does
- `Bench.handler`: the handler
- `Bench.serve`: answers a request
-/

namespace EdgeStreams.Bench

variable {α : Type}

/-- Takes the request's body under a name; the answer says whether it was there. -/
def takeRequest (name : String) : BenchTask Bool := do
  match (← get).request with
  | none => return false
  | some body =>
    modify fun bench => { bench with request := none }
    nameBody name body
    return true

/-- Marks the request's body as used; the answer says whether it was there. -/
def markRequestUsed : BenchTask Bool := do
  let bench ← get
  set { bench with request := bench.request.map Body.markUsed }
  return bench.request.isSome

/-- One task of a handler. -/
structure HandlerTask (α : Type) where
  task : BenchTask α
  /-- The handler fails if the task does. -/
  required : Bool

/-- How a handler ends. -/
inductive Reply where
  | fail (error : ScriptError)
  /-- With a named body, which loses its name. -/
  | body (name : String)
  /-- With the body of the request. -/
  | request

/-- Does tasks up to the first required one that fails. -/
def playUntil : List (HandlerTask α) → Bench →
    (Option BenchError × List (Except BenchError α × News)) × Bench
  | [], bench => ((none, []), bench)
  | first :: rest, bench =>
    let (report, bench) := play first.task bench
    match report.1, first.required with
    | .error error, true => ((some error, [report]), bench)
    | _, _ =>
      let ((failure, reports), bench) := playUntil rest bench
      ((failure, report :: reports), bench)

/-- The response of a handler whose tasks have been done. -/
def reply (bench : Bench) : Reply → Except ScriptError Body × Bench
  | .fail error => (.error error, bench)
  | .body name =>
    match bench.bodies.find? name with
    | some body => (.ok body, { bench with bodies := bench.bodies.erase name })
    | none => (.error (.error "no body to return"), bench)
  | .request =>
    match bench.request with
    | some body => (.ok body, { bench with request := none })
    | none => (.error (.error "no body to return"), bench)

/-- The handler that does some tasks and then replies. It keeps the bench and the tasks' reports. -/
def handler (tasks : List (HandlerTask α)) (last : Reply) :
    Handler MemoryHost ScriptEnv (Bench × List (Except BenchError α × News)) :=
  fun (context, bench, _) =>
    let bench := { bench with session := context.session, request := context.request }
    let ((failure, reports), bench) := playUntil tasks bench
    let (response, bench) : Except ScriptError Body × Bench := match failure with
      | some error => (.error error.toScript, bench)
      | none => bench.reply last
    some (response, { session := bench.session, request := bench.request }, bench, reports)

/-- Answers a request with the worker whose session is on the bench. -/
def serve (worker : Worker MemoryHost ScriptEnv) (request : BodyHandle)
    (handler : Handler MemoryHost ScriptEnv (Bench × List (Except BenchError α × News)))
    (bench : Bench) :
    Option (Except WorkerError BodyHandle × List (Except BenchError α × News) ×
      Worker MemoryHost ScriptEnv × Bench) := do
  let worker := { worker with session := bench.session }
  let (outcome, worker, bench, reports) ← worker.handle fuel request handler (bench, [])
  some (outcome, reports, worker, { bench with session := worker.session, request := none })

end EdgeStreams.Bench
