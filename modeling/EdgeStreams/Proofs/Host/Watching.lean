import EdgeStreams.Proofs.Exec

/-!
# Calls on a host body

What a host sees is a log of the calls that are made on it. A log of the calls on one body may be
part of the host, or be kept beside any host.

## Main definitions

- `BodyUse`: a call on a host body, with its result
- `WatchesBody`: a log of the calls on one body
- `Recorded`: a host, with a record of the calls on its bodies

## Main statements

- `Recorded.watchesBody`: the record of a body is a log of the calls on it
-/

namespace EdgeStreams

variable {H α : Type}

/-- A call on a host body, with its result. -/
inductive BodyUse where
  | read (limit : UInt64) (result : Except HostError Bytes)
  | write (chunk : Bytes) (result : Except HostError Unit)
  | close (result : Except HostError Unit)
  | abandon (result : Except HostError Unit)
  /-- The body's content is moved from it or to it, or is stored. -/
  | move (result : Except HostError Unit)

/-- A log of the calls on one body, last first. Calls on another body do not enter it. -/
structure WatchesBody [Host H] (handle : BodyHandle) (log : H → List BodyUse) : Prop where
  read : ∀ other limit host, log (exec (Host.bodyRead other limit) host).2 =
    if other = handle then .read limit (exec (Host.bodyRead other limit) host).1 :: log host
    else log host
  write : ∀ other chunk host, log (exec (Host.bodyWrite other chunk) host).2 =
    if other = handle then .write chunk (exec (Host.bodyWrite other chunk) host).1 :: log host
    else log host
  close : ∀ other host, log (exec (Host.bodyClose other) host).2 =
    if other = handle then .close (exec (Host.bodyClose other) host).1 :: log host else log host
  abandon : ∀ other host, log (exec (Host.bodyAbandon other) host).2 =
    if other = handle then .abandon (exec (Host.bodyAbandon other) host).1 :: log host
    else log host

/-- A host, with a record of the calls on its bodies, last first. -/
structure Recorded (H : Type) where
  host : H
  uses : List (BodyHandle × BodyUse) := []

namespace Recorded

/-- Makes a call, and enters its result for some bodies. -/
def entering (handles : List BodyHandle) (use : Except HostError α → BodyUse)
    (call : HostCall H α) : HostCall (Recorded H) α :=
  ExceptT.mk fun recorded =>
    let (result, host) := call.run.run recorded.host
    (result, { host, uses := handles.map (·, use result) ++ recorded.uses })

/-- Makes a call that is not about a body. -/
def passing (call : HostCall H α) : HostCall (Recorded H) α :=
  ExceptT.mk fun recorded =>
    let (result, host) := call.run.run recorded.host
    (result, { recorded with host })

instance [Host H] : Host (Recorded H) where
  dictionaryOpen name := passing (Host.dictionaryOpen name)
  dictionaryGet dictionary key := passing (Host.dictionaryGet dictionary key)
  logEndpointOpen name := passing (Host.logEndpointOpen name)
  logWrite endpoint message := passing (Host.logWrite endpoint message)
  bodyNew := passing Host.bodyNew
  bodyRead body limit := entering [body] (.read limit) (Host.bodyRead body limit)
  bodyWrite body chunk := entering [body] (.write chunk) (Host.bodyWrite body chunk)
  bodyAppend destination source :=
    entering [destination, source] .move (Host.bodyAppend destination source)
  bodyClose body := entering [body] .close (Host.bodyClose body)
  bodyAbandon body := entering [body] .abandon (Host.bodyAbandon body)
  objectStoreOpen name := passing (Host.objectStoreOpen name)
  objectStoreLookup store key := passing (Host.objectStoreLookup store key)
  objectStoreInsert store key body := entering [body] .move (Host.objectStoreInsert store key body)

/-- The record of one body. -/
def about (handle : BodyHandle) (recorded : Recorded H) : List BodyUse :=
  recorded.uses.filterMap fun (other, use) => if other = handle then some use else none

theorem about_entering (handle other : BodyHandle) (use : Except HostError α → BodyUse)
    (call : HostCall H α) (recorded : Recorded H) :
    (exec (entering [other] use call) recorded).2.about handle =
      if other = handle then use (exec (entering [other] use call) recorded).1 ::
        recorded.about handle else recorded.about handle := by
  change List.filterMap _ ((other, use (exec call recorded.host).1) :: recorded.uses) = _
  rw [List.filterMap_cons]
  by_cases he : other = handle
  · simp only [he, if_true]
    rfl
  · simp only [he, if_false]
    rfl

/-- The record of a body is a log of the calls on it. -/
theorem watchesBody [Host H] (handle : BodyHandle) :
    WatchesBody handle (about handle : Recorded H → _) where
  read other limit := about_entering handle other (.read limit) (Host.bodyRead other limit)
  write other chunk := about_entering handle other (.write chunk) (Host.bodyWrite other chunk)
  close other := about_entering handle other .close (Host.bodyClose other)
  abandon other := about_entering handle other .abandon (Host.bodyAbandon other)

end Recorded

end EdgeStreams
