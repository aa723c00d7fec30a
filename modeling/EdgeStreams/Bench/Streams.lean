import EdgeStreams.Bench.Basic

/-!
# Streams on a bench

The operations on streams and pipes, reached by names.

## Main definitions

- making: `Bench.bodySource`, `Bench.bodySink`, `Bench.scriptSource`, `Bench.scriptSink`,
  `Bench.transform`
- locks: `Bench.getReader`, `Bench.getWriter`, `Bench.releaseReader`, `Bench.releaseWriter`
- `Bench.read`, `Bench.cancel`, `Bench.write`, `Bench.close`, `Bench.abort`, with the name of a
  token or none
- `Bench.guarded`: deeds under a reader's lock
- `Bench.pipeTo`, `Bench.pipeThrough`, `Bench.pump`, `Bench.abortCorrelated`
- `Bench.owner`: who owns a stream
-/

namespace EdgeStreams.Bench

variable {α : Type}

def readable (name : String) : BenchTask ReadableId := named Bench.readables name
def writable (name : String) : BenchTask WritableId := named Bench.writables name

def keepReadable (name : String) (id : ReadableId) : BenchTask Unit :=
  modify fun bench => { bench with readables := bench.readables.insert name id }

def keepWritable (name : String) (id : WritableId) : BenchTask Unit :=
  modify fun bench => { bench with writables := bench.writables.insert name id }

/-! ### Making streams -/

def bodySource (handle : BodyHandle) (name : String) : BenchTask ReadableId := do
  let id ← onStreams fun streams => streams.bodySource handle
  keepReadable name id
  return id

def bodySink (handle : BodyHandle) (name : String) : BenchTask WritableId := do
  let id ← onStreams fun streams => streams.bodySink handle
  keepWritable name id
  return id

/-- A readable stream over a guest that follows a script; a plain guest answers pulls only. -/
def scriptSource (script : Script) (plain : Bool) (mark : UInt64) (name : String) :
    BenchTask ReadableId := do
  let guest ← onScripts ScriptEnv.enroll
  let source := if plain then script.plainSource guest name else script.source guest name
  let id ← step (Session.scriptSource source mark)
  keepReadable name id
  return id

/-- A writable stream over a guest that follows a script; a plain guest answers writes only. -/
def scriptSink (script : Script) (plain : Bool) (name : String) : BenchTask WritableId := do
  let guest ← onScripts ScriptEnv.enroll
  let sink := if plain then script.plainSink guest name else script.sink guest name
  let id ← step (Session.scriptSink sink)
  keepWritable name id
  return id

/-- A transform stream whose transformer follows a script, or passes every chunk on. Its halves are
named after it, with `.r` and `.w` added. -/
def transform (script : Option Script) (plain : Bool) (name : String) :
    BenchTask TransformStream := do
  let stream ← match script with
    | none => step Session.createIdentity
    | some script => do
      let guest ← onScripts ScriptEnv.enroll
      step (Session.createTransform
        (if plain then script.plainTransformer guest name else script.transformer guest name))
  modify fun bench => { bench with transforms := bench.transforms.insert name stream }
  keepReadable (name ++ ".r") stream.readable
  keepWritable (name ++ ".w") stream.writable
  return stream

/-! ### Ownership -/

/-- Owners above this number are given by tests; bodies get the others. -/
def ownerBase : Nat := UInt64.size

/-- Who owns a stream. -/
inductive Owner where
  /-- A number that a test has given. -/
  | key (number : Nat)
  /-- A body, and its name if it has one. -/
  | body (name : Option String)
deriving DecidableEq, Repr

def owner (bench : Bench) (owner : OwnerKey) : Owner :=
  if ownerBase ≤ owner.number then .key (owner.number - ownerBase)
  else .body ((bench.bodies.entries.find? fun entry => entry.2.owner == owner).map Prod.fst)

/-- Does something with the registry that may fail. -/
def call (work : RegistryCall ScriptEnv α) : BenchTask α := act .stream (Session.onStreams work)

def ownReadable (name : String) (number : Nat) : BenchTask Unit := do
  call (Registry.setReadableOwner (← readable name) ⟨ownerBase + number⟩)

def ownWritable (name : String) (number : Nat) : BenchTask Unit := do
  call (Registry.setWritableOwner (← writable name) ⟨ownerBase + number⟩)

/-- Changes the registry without a result. -/
def editStreams (f : Registry ScriptEnv → Registry ScriptEnv) : BenchTask Unit :=
  onStreams fun streams => ((), f streams)

def releaseReadable (name : String) : BenchTask Unit := do
  let id ← readable name
  editStreams fun streams => streams.releaseReadable id

def releaseWritable (name : String) : BenchTask Unit := do
  let id ← writable name
  editStreams fun streams => streams.releaseWritable id

def releaseTransform (name : String) : BenchTask Unit := do
  let stream ← named Bench.transforms name
  editStreams fun streams => streams.releaseTransform stream

/-! ### Locks -/

def getReader (stream name : String) : BenchTask ReaderToken := do
  let token ← call (Registry.getReader (← readable stream))
  modify fun bench => { bench with readers := bench.readers.insert name token }
  return token

def getWriter (stream name : String) : BenchTask WriterToken := do
  let token ← call (Registry.getWriter (← writable stream))
  modify fun bench => { bench with writers := bench.writers.insert name token }
  return token

def releaseReader (stream token : String) : BenchTask Unit := do
  let id ← readable stream
  call (Registry.releaseReader id (← named Bench.readers token))

def releaseWriter (stream token : String) : BenchTask Unit := do
  let id ← writable stream
  call (Registry.releaseWriter id (← named Bench.writers token))

/-! ### Reading and writing -/

/-- A readable stream, and the token to use it with. -/
def reading (stream : String) (token : Option String) :
    BenchTask (ReadableId × Option ReaderToken) := do
  let id ← readable stream
  return (id, ← named? Bench.readers token)

/-- A writable stream, and the token to use it with. -/
def writing (stream : String) (token : Option String) :
    BenchTask (WritableId × Option WriterToken) := do
  let id ← writable stream
  return (id, ← named? Bench.writers token)

def read (stream : String) (token : Option String) : BenchTask ReadOutcome := do
  let (id, token) ← reading stream token
  attempt .stream (Session.read fuel id token)

/-- Reads a number of times, also after a failure. -/
def readTimes (stream : String) (token : Option String) (times : Nat) :
    BenchTask (List (Except StreamError ReadOutcome)) := do
  let (id, token) ← reading stream token
  (List.replicate times ()).mapM fun () => run (Session.read fuel id token).run

def cancel (stream : String) (reason token : Option String) : BenchTask Unit := do
  let (id, token) ← reading stream token
  act .stream (Session.cancel id reason token)

def write (stream : String) (chunk : Bytes) (token : Option String) : BenchTask Unit := do
  let (id, token) ← writing stream token
  act .stream (Session.write id chunk token)

def close (stream : String) (token : Option String) : BenchTask Unit := do
  let (id, token) ← writing stream token
  act .stream (Session.close id token)

def abort (stream : String) (reason token : Option String) : BenchTask Unit := do
  let (id, token) ← writing stream token
  act .stream (Session.abort id reason token)

/-- What can be done under a reader's lock. -/
inductive Deed where
  | read
  | pump
  /-- Asks whether the stream is locked. -/
  | locked
  | cancel (reason : Option String)

/-- What came of a deed. -/
inductive DeedResult where
  | read (outcome : Except StreamError ReadOutcome)
  | pump (steps : Nat)
  | locked (answer : Bool)
  | cancel (outcome : Except StreamError Unit)

def Deed.perform (id : ReadableId) (token : ReaderToken) :
    Deed → Run MemoryHost ScriptEnv DeedResult
  | .read => .read <$> (Session.read fuel id (some token)).run
  | .pump => .pump <$> Session.pump fuel
  | .locked => do return .locked ((← get).streams.isLocked id)
  | .cancel reason =>
    .cancel <$> modifyGet (Session.outcome (Session.cancel id reason (some token)))

/-- Does deeds under a reader's lock, which is given back afterwards. -/
def guarded (stream : String) (deeds : List Deed) :
    BenchTask (ReadableId × ReaderToken × List DeedResult) := do
  let id ← readable stream
  attempt .stream (Session.withReader id fun token => do
    return (id, token, ← Session.sure (deeds.mapM (Deed.perform id token))))

/-! ### Pipes -/

def pipeTo (source destination : String) (options : PipeOptions) (name : String) :
    BenchTask PipeId := do
  let source ← readable source
  let destination ← writable destination
  let id ← attempt .stream (Session.pipeTo fuel source destination options)
  modify fun bench => { bench with pipes := bench.pipes.insert name id }
  return id

/-- Pipes a stream into a transform stream; the answer is the readable half. -/
def pipeThrough (source stream : String) (options : PipeOptions) : BenchTask ReadableId := do
  let stream ← named Bench.transforms stream
  let source ← readable source
  attempt .stream (Session.pipeThrough fuel source stream options)

def pump : BenchTask Nat := run (Session.pump fuel)

def abortCorrelated (stream : String) (reason : Option String) : BenchTask Unit := do
  act .stream (Session.abortCorrelated (← readable stream) reason)

def sweep : BenchTask Nat := step Session.sweep

end EdgeStreams.Bench
