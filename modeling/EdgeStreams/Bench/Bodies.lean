import EdgeStreams.Bench.Streams

/-!
# Bodies and builtins on a bench

## Main definitions

- `Bench.body`, `Bench.keepBody`: bodies by name. A name that starts with `entry:` stands for the
  value of an object store
- `Bench.bodyOfHandle`, `Bench.bodyOfStream`, `Bench.bodyOfBytes`, `Bench.bodyOfText`: making bodies
- `Bench.bodyStream`, `Bench.pipeIdentity`, `Bench.release`, `Bench.consume`: using them
- `Bench.openDictionary`, `Bench.openConfig`, `Bench.openLogger`, `Bench.openStore`, and the
  operations on what they open
-/

namespace EdgeStreams.Bench

variable {α : Type}

/-! ### Names -/

/-- The name of an entry in the name of a body. -/
def entryName? (name : String) : Option String :=
  if "entry:".isPrefixOf name then some (name.drop 6).toString else none

def body (name : String) : BenchTask Body := do
  match entryName? name with
  | some entry =>
    match (← get).entries.find? entry with
    | some body => pure body
    | none => throw (.unknown name)
  | none => named Bench.bodies name

/-- Puts a body back after it has been used. -/
def keepBody (name : String) (body : Body) : BenchTask Unit :=
  modify fun bench =>
    match entryName? name with
    | some entry => { bench with entries := bench.entries.insert entry body }
    | none => { bench with bodies := bench.bodies.insert name body }

/-! ### Bodies -/

/-- Names a new body. -/
def nameBody (name : String) (body : Body) : BenchTask Unit :=
  modify fun bench => { bench with bodies := bench.bodies.insert name body }

def bodyOfHandle (handle : BodyHandle) (name : String) : BenchTask Body := do
  let body ← step (Body.ofHandle handle)
  nameBody name body
  return body

def bodyOfStream (stream name : String) : BenchTask Body := do
  let body ← act .body (Body.ofStream (← readable stream))
  nameBody name body
  return body

def bodyOfBytes (data : Bytes) (name : String) : BenchTask Body := do
  let body ← act .body (Body.ofBytes data)
  nameBody name body
  return body

def bodyOfText (text name : String) : BenchTask Body := do
  let body ← act .body (Body.ofText text)
  nameBody name body
  return body

def markUsed (name : String) : BenchTask Unit := do keepBody name (← body name).markUsed

def release (name : String) : BenchTask Unit := do keepBody name (← step (← body name).release)

/-- Names the stream of a body. -/
def bodyStream (name stream : String) : BenchTask ReadableId := do
  let (id, body) ← act .body (← body name).stream
  keepBody name body
  keepReadable stream id
  return id

/-- Does something that leaves a body changed. -/
def withBody (failure : BodyError → BenchError) (name : String)
    (work : Body → Run MemoryHost ScriptEnv (Except BodyError α × Body)) : BenchTask α := do
  let (outcome, body) ← run (work (← body name))
  keepBody name body
  settled failure outcome

/-- Consumes a body. -/
def consume (name : String)
    (work : Body → Run MemoryHost ScriptEnv (Except BodyError α × Body)) : BenchTask α :=
  withBody .body name work

/-- Puts a transform stream between a body and its reader, and names its readable half. -/
def pipeIdentity (name stream : String) : BenchTask ReadableId := do
  let id ← consume name fun body => body.pipeThroughIdentity fuel
  keepReadable stream id
  return id

/-! ### Builtins -/

def openDictionary (title name : String) : BenchTask Dictionary := do
  let dictionary ← act .script (Lookup.openNamed .dictionary title)
  modify fun bench => { bench with dictionaries := bench.dictionaries.insert name dictionary }
  return dictionary

def getText (dictionary key : String) : BenchTask (Option String) := do
  act .script ((← named Bench.dictionaries dictionary).get key)

def openConfig (title name : String) : BenchTask ConfigStore := do
  let config ← act .script (Lookup.openNamed .configStore title)
  modify fun bench => { bench with configs := bench.configs.insert name config }
  return config

def getSetting (config key : String) : BenchTask (Option String) := do
  act .script ((← named Bench.configs config).get key)

def openLogger (title name : String) : BenchTask Logger := do
  let logger ← act .script (Logger.openNamed title)
  modify fun bench => { bench with loggers := bench.loggers.insert name logger }
  return logger

def log (logger message : String) : BenchTask Unit := do
  act .script ((← named Bench.loggers logger).log message)

def openStore (title name : String) : BenchTask ObjectStore := do
  let store ← act .script (ObjectStore.openNamed title)
  modify fun bench => { bench with stores := bench.stores.insert name store }
  return store

/-- Looks a key up and names the entry, if there is one. -/
def lookup (store key name : String) : BenchTask (Option Body) := do
  let found ← act .script ((← named Bench.stores store).lookup key)
  if let some entry := found then
    modify fun bench => { bench with entries := bench.entries.insert name entry }
  return found

/-- A value to be stored. -/
inductive Offer where
  | bytes (content : Bytes)
  | text (content : String)
  | body (named : String)

def Offer.value : Offer → BenchTask ObjectValue
  | .bytes content => pure (.bytes content)
  | .text content => pure (.text content)
  | .body named => .body <$> Bench.body named

def put (store key : String) (offer : Offer) : BenchTask Unit := do
  let store ← named Bench.stores store
  let value ← offer.value
  let (outcome, left) ← run (store.put fuel key value)
  match offer, left with
  | .body name, .body body => keepBody name body
  | _, _ => pure ()
  settled .script outcome

/-- Consumes the value of an object store as a script does. -/
def consumeEntry (entry : String)
    (work : Body → Run MemoryHost ScriptEnv (Except BodyError α × Body)) : BenchTask α := do
  let _ ← named Bench.entries entry
  withBody (fun error => .script (.ofBody error)) ("entry:" ++ entry) work

end EdgeStreams.Bench
