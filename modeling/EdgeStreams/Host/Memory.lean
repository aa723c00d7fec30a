import EdgeStreams.Host.Basic
import EdgeStreams.Host.Fault

/-!
# A host in memory

`MemoryHost` keeps dictionaries, log endpoints, bodies and object stores in tables, records every
call, and fails where it has been told to. Its handles are numbered from one, in the order of their
making, whatever they name.

## Main definitions

- `MemoryBody`: a body's content, how far it has been read, and its state
- `MemoryHost`: the host
- `MemoryHost.receive`: records a call and meets the fault set for it
- `MemoryHost.reaching`: whether a read goes further than a word can count
- the `Host` instance

## Design notes

A body can be read while it is being written and after it has been closed. Only abandoning it ends
both.

Where a read is to end is counted in a word of 64 bits. A read that would end after the last place
that a word can name ends the program. The host then keeps the name of the body, and no later call
takes it away; what it answers from there on stands for nothing.
-/

namespace EdgeStreams

/-- Whether a body can still be written and read. -/
inductive BodyState where
  /-- Can be written and read. -/
  | opened
  /-- Complete; can be read. -/
  | closed
  /-- Given up; can be neither written nor read. -/
  | abandoned
deriving DecidableEq, Repr

/-- A body with its content. -/
structure MemoryBody where
  contents : Array UInt8
  /-- How many octets have been read. -/
  position : Nat
  state : BodyState
deriving DecidableEq, Repr

namespace MemoryBody

/-- A complete body, to be read. -/
def readable (data : Bytes) : MemoryBody := ⟨data.toArray, 0, .closed⟩

/-- An empty body, to be written. -/
def writable : MemoryBody := ⟨#[], 0, .opened⟩

/-- The octets not yet read. -/
def unread (body : MemoryBody) : Bytes :=
  (body.contents.extract body.position body.contents.size).toList

def append (body : MemoryBody) (chunk : Bytes) : MemoryBody :=
  { body with contents := body.contents ++ chunk }

/-- Where a read of at most `limit` octets ends. -/
def readEnd (body : MemoryBody) (limit : Nat) : Nat :=
  min (body.position + limit) body.contents.size

/-- The octets that a read of at most `limit` octets answers with. -/
def peek (body : MemoryBody) (limit : Nat) : Bytes :=
  (body.contents.extract body.position (body.readEnd limit)).toList

end MemoryBody

/-- A recorded call. -/
structure CallRecord where
  operation : HostOperation
  /-- The resource that the call is about, if it names one. -/
  handle : Option AnyHandle
deriving DecidableEq, Repr

/-- A call as reports show it. -/
def CallRecord.text (call : CallRecord) : String :=
  call.operation.name ++ " " ++ (call.handle.map AnyHandle.text).getD "-"

/-- A host that keeps its resources in tables and records its calls. -/
structure MemoryHost where
  /-- The most that one read answers with. -/
  chunkSize : UInt64 := 8192
  nextHandle : UInt32 := 1
  /-- Dictionaries by name. -/
  dictionaries : Table String (Table String String) := {}
  /-- The names behind open dictionaries. -/
  openDictionaries : Table UInt32 String := {}
  /-- Log endpoints by name. -/
  endpoints : Table String UInt32 := {}
  /-- The messages of open log endpoints, in order. -/
  logs : Table UInt32 (List String) := {}
  bodies : Table UInt32 MemoryBody := {}
  /-- Object stores by name. -/
  stores : Table String (Table String Bytes) := {}
  /-- The names behind open object stores. -/
  openStores : Table UInt32 String := {}
  /-- The calls received, in order. -/
  calls : Array CallRecord := #[]
  faults : FaultPlan := {}
  /-- The first body of which a read has asked for octets past the last place that a word can name.
  The program has ended there. -/
  overrun : Option BodyHandle := none
deriving Repr

namespace MemoryHost

instance : Inhabited MemoryHost := ⟨{}⟩

/-- An empty host whose reads answer with at most `size` octets; zero counts as one. -/
def withChunkSize (size : UInt64) : MemoryHost := { chunkSize := max size 1 }

/-! ### Fixtures -/

def addDictionary (host : MemoryHost) (name : String) (entries : List (String × String)) :
    MemoryHost :=
  { host with dictionaries := host.dictionaries.insert name (Table.ofList entries) }

def addObjectStore (host : MemoryHost) (name : String) (entries : List (String × Bytes)) :
    MemoryHost :=
  { host with stores := host.stores.insert name (Table.ofList entries) }

/-- Gives a body the next handle. -/
def allocateBody (host : MemoryHost) (body : MemoryBody) : BodyHandle × MemoryHost :=
  (⟨host.nextHandle⟩,
    { host with
      nextHandle := host.nextHandle + 1
      bodies := host.bodies.insert host.nextHandle body })

/-- Makes a complete body, such as the body of an incoming request. -/
def addBody (host : MemoryHost) (data : Bytes) : BodyHandle × MemoryHost :=
  host.allocateBody (.readable data)

def failNext (host : MemoryHost) (operation : HostOperation) (error : HostError) : MemoryHost :=
  { host with faults := host.faults.failNext operation error }

def failAlways (host : MemoryHost) (operation : HostOperation) (error : HostError) : MemoryHost :=
  { host with faults := host.faults.failAlways operation error }

def clearFailures (host : MemoryHost) : MemoryHost := { host with faults := {} }

/-- Forgets the recorded calls. -/
def clearCalls (host : MemoryHost) : MemoryHost := { host with calls := #[] }

/-! ### Inspection -/

/-- How many calls of an operation are recorded. -/
def callCount (host : MemoryHost) (operation : HostOperation) : Nat :=
  (host.calls.filter fun call => call.operation == operation).size

/-- How many calls are recorded. -/
def totalCalls (host : MemoryHost) : Nat := host.calls.size

/-- The whole content of a body, also what has been read. -/
def bodyContents? (host : MemoryHost) (body : BodyHandle) : Option Bytes :=
  (host.bodies.find? body.raw).map fun b => b.contents.toList

def bodyState? (host : MemoryHost) (body : BodyHandle) : Option BodyState :=
  (host.bodies.find? body.raw).map MemoryBody.state

def bodyIsClosed (host : MemoryHost) (body : BodyHandle) : Bool :=
  host.bodyState? body == some .closed

def bodyIsAbandoned (host : MemoryHost) (body : BodyHandle) : Bool :=
  host.bodyState? body == some .abandoned

/-- The messages written to the endpoint of a name. -/
def logLines (host : MemoryHost) (name : String) : List String :=
  ((host.endpoints.find? name).bind host.logs.find?).getD []

/-- The value stored in a store under a key. -/
def object? (host : MemoryHost) (store key : String) : Option Bytes :=
  (host.stores.find? store).bind fun entries => entries.find? key

/-! ### Calls -/

/-- Records a call and fails if a fault is set for it. -/
def receive (operation : HostOperation) (handle : Option AnyHandle := none) :
    HostCall MemoryHost Unit := do
  modify fun host => { host with calls := host.calls.push ⟨operation, handle⟩ }
  let host ← get
  let (fault, faults) := host.faults.take operation
  set { host with faults }
  match fault with
  | some error => throw error
  | none => pure ()

/-- Fails with `error` if there is no value. -/
def require {α : Type} (error : HostError) : Option α → HostCall MemoryHost α
  | some value => pure value
  | none => throw error

/-- The body that a handle names. -/
def body (handle : BodyHandle) : HostCall MemoryHost MemoryBody := do
  require .badHandle ((← get).bodies.find? handle.raw)

def setBody (handle : BodyHandle) (body : MemoryBody) : HostCall MemoryHost Unit :=
  modify fun host => { host with bodies := host.bodies.insert handle.raw body }

/-- The host after a read of a body that asks for all octets before a place. -/
def reaching (handle : BodyHandle) (place : Nat) (host : MemoryHost) : MemoryHost :=
  { host with overrun := if UInt64.size ≤ place then host.overrun.or (some handle)
    else host.overrun }

/-- The body that a handle names, if it can be written. -/
def openBody (handle : BodyHandle) : HostCall MemoryHost MemoryBody := do
  let b ← body handle
  if b.state = .opened then pure b else throw .badHandle

/-- Consumes a body; the answer is what it had left to read. -/
def takeBody (handle : BodyHandle) : HostCall MemoryHost Bytes := do
  let b ← body handle
  if b.state = .abandoned then throw .badHandle
  else
    modify fun host => { host with bodies := host.bodies.erase handle.raw }
    pure b.unread

/-- Gives a body the next handle. -/
def newBody (b : MemoryBody) : HostCall MemoryHost BodyHandle := do
  let (handle, host) := (← get).allocateBody b
  set host
  pure handle

instance : Host MemoryHost where
  dictionaryOpen name := do
    receive .dictionaryOpen
    let host ← get
    if host.dictionaries.contains name then
      set { host with
        nextHandle := host.nextHandle + 1
        openDictionaries := host.openDictionaries.insert host.nextHandle name }
      pure ⟨host.nextHandle⟩
    else throw .optionalNone
  dictionaryGet dictionary key := do
    receive .dictionaryGet dictionary.erase
    let host ← get
    let name ← require .badHandle (host.openDictionaries.find? dictionary.raw)
    require .optionalNone
      ((host.dictionaries.find? name).bind fun entries => entries.find? key)
  logEndpointOpen name := do
    receive .logEndpointOpen
    let host ← get
    match host.endpoints.find? name with
    | some raw => pure ⟨raw⟩
    | none =>
      set { host with
        nextHandle := host.nextHandle + 1
        endpoints := host.endpoints.insert name host.nextHandle
        logs := host.logs.insert host.nextHandle [] }
      pure ⟨host.nextHandle⟩
  logWrite endpoint message := do
    receive .logWrite endpoint.erase
    let host ← get
    let lines ← require .badHandle (host.logs.find? endpoint.raw)
    set { host with logs := host.logs.insert endpoint.raw (lines ++ [message]) }
  bodyNew := do
    receive .bodyNew
    newBody .writable
  bodyRead handle limit := do
    receive .bodyRead handle.erase
    let b ← body handle
    if b.state = .abandoned then throw .badHandle
    else
      let size := (min limit (← get).chunkSize).toNat
      setBody handle { b with position := b.readEnd size }
      modify (reaching handle (b.position + size))
      pure (b.peek size)
  bodyWrite handle chunk := do
    receive .bodyWrite handle.erase
    let b ← openBody handle
    setBody handle (b.append chunk)
  bodyAppend destination source := do
    receive .bodyAppend destination.erase
    if destination = source then throw .invalidArgument
    else
      let b ← openBody destination
      let data ← takeBody source
      setBody destination (b.append data)
  bodyClose handle := do
    receive .bodyClose handle.erase
    let b ← openBody handle
    setBody handle { b with state := .closed }
  bodyAbandon handle := do
    receive .bodyAbandon handle.erase
    let b ← body handle
    if b.state = .abandoned then throw .badHandle
    else setBody handle { b with state := .abandoned }
  objectStoreOpen name := do
    receive .objectStoreOpen
    let host ← get
    if host.stores.contains name then
      set { host with
        nextHandle := host.nextHandle + 1
        openStores := host.openStores.insert host.nextHandle name }
      pure ⟨host.nextHandle⟩
    else throw .optionalNone
  objectStoreLookup store key := do
    receive .objectStoreLookup store.erase
    let host ← get
    let name ← require .badHandle (host.openStores.find? store.raw)
    let value ← require .optionalNone (host.object? name key)
    newBody (.readable value)
  objectStoreInsert store key handle := do
    receive .objectStoreInsert store.erase
    let name ← require .badHandle ((← get).openStores.find? store.raw)
    let data ← takeBody handle
    modify fun host =>
      { host with
        stores := host.stores.insert name
          (((host.stores.find? name).getD {}).insert key data) }

end MemoryHost

end EdgeStreams
