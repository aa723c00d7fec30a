import EdgeStreams.Bytes
import EdgeStreams.Host.Error
import EdgeStreams.Host.Handle

/-!
# Hosts

A host gives synchronous access to the platform: each operation is one call, which answers or
fails. The host is a value that every call may change, also one that fails.

## Main definitions

- `HostCall`: a computation that changes a host and may fail
- `Host`: types whose values answer the thirteen operations
-/

namespace EdgeStreams

/-- A computation that changes a host and may fail. What it changed before it failed stays
changed. -/
abbrev HostCall (H α : Type) := ExceptT HostError (StateM H) α

/-- Access to the platform. A look-up that finds nothing fails with `HostError.optionalNone`. -/
class Host (H : Type) where
  /-- Opens a dictionary or config store by name. -/
  dictionaryOpen (name : String) : HostCall H DictionaryHandle
  /-- Looks up a key in an open dictionary. -/
  dictionaryGet (dictionary : DictionaryHandle) (key : String) : HostCall H String
  /-- Opens a log endpoint by name. -/
  logEndpointOpen (name : String) : HostCall H LogEndpointHandle
  /-- Appends one message to a log endpoint. -/
  logWrite (endpoint : LogEndpointHandle) (message : String) : HostCall H Unit
  /-- Makes a new, empty body that can be written. -/
  bodyNew : HostCall H BodyHandle
  /-- Reads up to `limit` octets. An empty answer means the end of the body. -/
  bodyRead (body : BodyHandle) (limit : UInt64) : HostCall H Bytes
  /-- Appends a chunk to a body that can be written. -/
  bodyWrite (body : BodyHandle) (chunk : Bytes) : HostCall H Unit
  /-- Moves the content of `source` to the end of `destination`. `source` is consumed. -/
  bodyAppend (destination source : BodyHandle) : HostCall H Unit
  /-- Closes a body that can be written. -/
  bodyClose (body : BodyHandle) : HostCall H Unit
  /-- Ends a body without completing it. -/
  bodyAbandon (body : BodyHandle) : HostCall H Unit
  /-- Opens an object store by name. -/
  objectStoreOpen (name : String) : HostCall H ObjectStoreHandle
  /-- Looks up a key. The value comes back as a body that can be read. -/
  objectStoreLookup (store : ObjectStoreHandle) (key : String) : HostCall H BodyHandle
  /-- Stores the content of `body` under a key. `body` is consumed. -/
  objectStoreInsert (store : ObjectStoreHandle) (key : String) (body : BodyHandle) :
    HostCall H Unit

end EdgeStreams
