import EdgeStreams.Body.Drain
import EdgeStreams.Builtin.Lookup

/-!
# Object stores

## Main definitions

- `ObjectStore`: an open object store
- `ObjectStore.openNamed`, `ObjectStore.lookup`, `ObjectStore.put`
- `ObjectValue`: what can be stored

## Design notes

A body that still stands in its host body is moved by the host; any other body is read first.
-/

namespace EdgeStreams

/-- What can be stored. -/
inductive ObjectValue where
  | bytes (data : Bytes)
  | text (text : String)
  | body (body : Body)

/-- An open object store. -/
structure ObjectStore where
  name : String
  handle : ObjectStoreHandle
deriving DecidableEq, Repr

namespace ObjectStore

variable {H E : Type} [Host H]

/-- Opens by name. -/
def openNamed (name : String) : Action H E ScriptError ObjectStore := do
  NameKind.objectStoreName.require name
  match ← ScriptError.hostQuery .objectStoreOpen (Host.objectStoreOpen name) with
  | some handle => return { name, handle }
  | none => throw (.missing "object store" name)

/-- The value of a key as a body, if there is one. -/
def lookup (store : ObjectStore) (key : String) : Action H E ScriptError (Option Body) := do
  NameKind.objectStoreKey.require key
  match ← ScriptError.hostQuery .objectStoreLookup (Host.objectStoreLookup store.handle key) with
  | some handle => return some (← modifyGet (Body.ofHandle handle))
  | none => return none

/-- A new host body that holds some octets. -/
def newBody (data : Bytes) : Action H E ScriptError BodyHandle := do
  let handle ← ScriptError.hostCall .bodyNew Host.bodyNew
  if !data.isEmpty then ScriptError.hostCall .bodyWrite (Host.bodyWrite handle data)
  return handle

/-- Stores a host body under a key. -/
def insert (store : ObjectStore) (key : String) (handle : BodyHandle) :
    Action H E ScriptError Unit :=
  ScriptError.hostCall .objectStoreInsert (Host.objectStoreInsert store.handle key handle)

/-- Moves a host body into a new one. -/
def moveBody (source : BodyHandle) : Action H E ScriptError BodyHandle := do
  let destination ← newBody []
  ScriptError.hostCall .bodyAppend (Host.bodyAppend destination source)
  return destination

/-- A host body with what a body holds; the body is consumed. -/
def consume (fuel : Nat) (body : Body) : Run H E (Except ScriptError BodyHandle × Body) := do
  if body.used then return (.error (.typeError "body has already been used"), body)
  else
    match body.handle, body.isHostBacked (← get).streams with
    | some source, true =>
      match ← modifyGet (Session.outcome (moveBody source)) with
      | .error error => return (.error error, body)
      | .ok handle =>
        let body ← modifyGet body.markUsed.release
        return (.ok handle, body)
    | _, _ =>
      let (read, body) ← body.bytes fuel
      match read with
      | .error error => return (.error (.ofBody error), body)
      | .ok data =>
        let result ← modifyGet (Session.outcome (newBody data))
        return (result, body)

/-- A host body with what a value holds. The value comes back as it is left. -/
def hostBody (fuel : Nat) :
    ObjectValue → Run H E (Except ScriptError BodyHandle × ObjectValue)
  | .bytes data => do return (← modifyGet (Session.outcome (newBody data)), .bytes data)
  | .text text => do return (← modifyGet (Session.outcome (newBody (utf8 text))), .text text)
  | .body body => do
    let (result, body) ← consume fuel body
    return (result, .body body)

/-- Stores a value under a key, in place of what was there. The value comes back as it is left. -/
def put (fuel : Nat) (store : ObjectStore) (key : String) (value : ObjectValue) :
    Run H E (Except ScriptError Unit × ObjectValue) := do
  match NameKind.objectStoreKey.check key with
  | .error error => return (.error (.ofName error), value)
  | .ok () =>
    let (result, value) ← hostBody fuel value
    match result with
    | .error error => return (.error error, value)
    | .ok handle => return (← modifyGet (Session.outcome (store.insert key handle)), value)

end ObjectStore

end EdgeStreams
