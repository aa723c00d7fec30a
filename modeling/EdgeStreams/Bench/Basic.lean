import EdgeStreams.Builtin.Logger
import EdgeStreams.Builtin.ObjectStore
import EdgeStreams.Guest.Script
import EdgeStreams.Host.Memory

/-!
# Benches

A bench is a session over a host in memory, whose guests follow scripts, together with the things
made in it. Tests reach these by names. Each kind of thing has its own names, and a name given anew
forgets what it stood for.

## Main definitions

- `Bench`: a session and the named things
- `BenchError`, `BenchTask`: computations on a bench, which may fail
- `Bench.step`, `Bench.act`, `Bench.run`, `Bench.attempt`: computations on a session, done on a
  bench
- `Bench.play`: a task, reported with the host calls and guest events it has caused
-/

namespace EdgeStreams

/-- A session and the named things made in it. -/
structure Bench where
  session : Session MemoryHost ScriptEnv
  /-- The body of the request under way, until it is taken. -/
  request : Option Body := none
  readables : Table String ReadableId := {}
  writables : Table String WritableId := {}
  transforms : Table String TransformStream := {}
  pipes : Table String PipeId := {}
  readers : Table String ReaderToken := {}
  writers : Table String WriterToken := {}
  bodies : Table String Body := {}
  /-- Values that object stores have been asked for. -/
  entries : Table String Body := {}
  dictionaries : Table String Dictionary := {}
  configs : Table String ConfigStore := {}
  loggers : Table String Logger := {}
  stores : Table String ObjectStore := {}
  /-- How many of the host's recorded calls have been reported. -/
  reportedCalls : Nat := 0
  /-- How many of the logged guest events have been reported. -/
  reportedEvents : Nat := 0

/-- Why a task fails. -/
inductive BenchError where
  /-- Nothing has this name. -/
  | unknown (name : String)
  | host (error : HostError)
  | stream (error : StreamError)
  | body (error : BodyError)
  | script (error : ScriptError)
  /-- A bound on the depth of a computation did not suffice. -/
  | outOfFuel

/-- The exception that a script raises when a task fails. -/
def BenchError.toScript : BenchError → ScriptError
  | .unknown name => .error name
  | .host error => .error error.message
  | .stream error => .ofStream error
  | .body error => .ofBody error
  | .script error => error
  | .outOfFuel => .error "out of fuel"

/-- A computation on a bench. What it changed before it failed stays changed. -/
abbrev BenchTask (α : Type) := ExceptT BenchError (StateM Bench) α

namespace Bench

variable {α ε : Type}

/-- More than any computation on a bench uses up. -/
def fuel : Nat := 1000000000

/-- A bench on which nothing has been made. -/
def new (host : MemoryHost) (config : StreamConfig) : Bench where
  session := { host, env := {}, streams := Registry.new config }

/-! ### Computations on the session -/

/-- Does what cannot fail. -/
def step (work : Step MemoryHost ScriptEnv α) : BenchTask α :=
  modifyGet fun bench =>
    let (result, session) := work bench.session
    (result, { bench with session })

/-- Succeeds or fails as a result says. -/
def settled (failure : ε → BenchError) : Except ε α → BenchTask α
  | .ok result => pure result
  | .error error => throw (failure error)

/-- Does what may fail. -/
def act (failure : ε → BenchError) (work : Action MemoryHost ScriptEnv ε α) : BenchTask α := do
  settled failure (← step (Session.outcome work))

/-- Does what needs a bound and cannot fail. -/
def run (work : Run MemoryHost ScriptEnv α) : BenchTask α := do
  let bench ← get
  match work bench.session with
  | some (result, session) =>
    set { bench with session }
    return result
  | none => throw .outOfFuel

/-- Does what needs a bound and may fail. -/
def attempt (failure : ε → BenchError) (work : Attempt MemoryHost ScriptEnv ε α) :
    BenchTask α := do
  settled failure (← run work.run)

/-- Changes the host. -/
def onHost (f : MemoryHost → α × MemoryHost) : BenchTask α :=
  step fun session =>
    let (result, host) := f session.host
    (result, { session with host })

/-- Changes the registry. -/
def onStreams (f : Registry ScriptEnv → α × Registry ScriptEnv) : BenchTask α :=
  step (Session.changeStreams f)

/-- Changes the environment of the guests. -/
def onScripts (f : ScriptEnv → α × ScriptEnv) : BenchTask α :=
  step fun session =>
    let (result, env) := f session.env
    (result, { session with env })

/-! ### Names -/

/-- What a name stands for. -/
def named (table : Bench → Table String α) (name : String) : BenchTask α := do
  match (table (← get)).find? name with
  | some thing => pure thing
  | none => throw (.unknown name)

/-- What a name stands for, if there is a name. -/
def named? (table : Bench → Table String α) : Option String → BenchTask (Option α)
  | some name => some <$> named table name
  | none => pure none

/-! ### Reports -/

/-- The host calls and guest events that have not been reported yet, in order. -/
structure News where
  calls : List CallRecord
  events : List (String × ScriptEvent)

/-- Reports what is new. -/
def news (bench : Bench) : News × Bench :=
  let calls := bench.session.host.calls
  let log := bench.session.env.log
  ({ calls := calls.toList.drop bench.reportedCalls
     events := (log.take (log.length - bench.reportedEvents)).reverse },
    { bench with reportedCalls := calls.size, reportedEvents := log.length })

/-- Forgets the host's recorded calls. -/
def clearCalls : BenchTask Unit := do
  onHost fun host => ((), host.clearCalls)
  modify fun bench => { bench with reportedCalls := 0 }

/-- Does a task and reports what it has caused. -/
def play (task : BenchTask α) (bench : Bench) : (Except BenchError α × News) × Bench :=
  let (outcome, bench) := task.run bench
  let (news, bench) := bench.news
  ((outcome, news), bench)

/-- Does tasks one after the other, also after a failure. -/
def playAll (tasks : List (BenchTask α)) (bench : Bench) :
    List (Except BenchError α × News) × Bench :=
  (tasks.mapM play : StateM Bench _).run bench

end Bench

end EdgeStreams
